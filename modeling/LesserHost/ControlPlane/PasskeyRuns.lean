import LesserHost.ControlPlane.Passkeys

set_option autoImplicit false

/-! # The passkeys of a user under concurrent requests

What the history of a user's rows says they should be, and that they are as long as no registration and no
login acts on a listing that has been overtaken. A request remembers the rows it has listed: as long as
nobody adds one there are no more of them, and as long as nobody touches one its counter is the one that
was listed (`Remembers`). -/

namespace LesserHost.ControlPlane.Passkeys

open LesserHost.Go Prog
open LesserHost.ControlPlane (AppTheoryError StoreError Body)

/-! ## The rows -/

/-- One row to a key, and the row says which. -/
structure Table.WellFormed (t : Table) : Prop where
  nodup : (t.credentials.map Prod.fst).Nodup
  named : ∀ r ∈ t.credentials, r.2.ID = r.1

theorem lookup_modified (rows : List (String × WebAuthnCredential)) (id key : String)
    (f : WebAuthnCredential → WebAuthnCredential) :
    (rows.map fun r => if r.1 = id then (r.1, f r.2) else r).lookup key
      = if key = id then (rows.lookup key).map f else rows.lookup key := by
  induction rows with
  | nil => simp
  | cons r rows ih =>
      obtain ⟨k, row⟩ := r
      rw [List.map_cons]
      by_cases hkey : key = k
      · subst hkey
        by_cases hid : key = id
        · simp [hid]
        · simp [hid]
      · have hne : (key == k) = false := beq_eq_false_iff_ne.2 hkey
        by_cases hid : k = id
        · simp [hid, List.lookup_cons, show (key == id) = false from hid ▸ hne, ih]
        · simp [hid, List.lookup_cons, hne, ih]

theorem credential_modify (t : Table) (id key : String) (f : WebAuthnCredential → WebAuthnCredential) :
    (t.modify id f).credential key = if key = id then (t.credential key).map f else t.credential key :=
  lookup_modified t.credentials id key f

theorem credential_delete (t : Table) (id key : String) :
    (t.delete id).credential key = if key = id then none else t.credential key := by
  unfold Table.delete Table.credential
  dsimp only
  induction t.credentials with
  | nil => simp
  | cons r rows ih =>
      obtain ⟨k, row⟩ := r
      rw [List.filter_cons]
      by_cases hk : k = id
      · subst hk
        by_cases hkey : key = k
        · simpa [hkey] using ih
        · simpa [hkey, List.lookup_cons, beq_eq_false_iff_ne.2 hkey] using ih
      · by_cases hkey : key = k
        · subst hkey
          simp [hk]
        · simpa [hk, List.lookup_cons, beq_eq_false_iff_ne.2 hkey] using ih

/-- The table with one more row. -/
def Table.insert (t : Table) (id : String) (row : WebAuthnCredential) : Table :=
  { t with credentials := t.credentials ++ [(id, row)] }

theorem credential_insert (t : Table) (id key : String) (row : WebAuthnCredential) :
    (t.insert id row).credential key = (t.credential key).or (if key = id then some row else none) := by
  unfold Table.insert Table.credential
  dsimp only
  rw [List.lookup_append]
  by_cases hkey : key = id
  · simp [hkey]
  · simp [hkey, List.lookup_cons, beq_eq_false_iff_ne.2 hkey]

theorem lookup_of_mem {rows : List (String × WebAuthnCredential)} (h : (rows.map Prod.fst).Nodup)
    {r : String × WebAuthnCredential} (hr : r ∈ rows) : rows.lookup r.1 = some r.2 := by
  induction rows with
  | nil => cases hr
  | cons r' rows ih =>
      obtain ⟨key, row⟩ := r'
      obtain ⟨hfresh, hnodup⟩ := List.nodup_cons.1 h
      rcases List.mem_cons.1 hr with rfl | hr
      · exact List.lookup_cons_self
      · have hne : r.1 ≠ key := fun heq => hfresh (List.mem_map.2 ⟨r, hr, heq⟩)
        rw [List.lookup_cons, beq_eq_false_iff_ne.2 hne]
        exact ih hnodup hr

theorem Table.WellFormed.credential {t : Table} (h : t.WellFormed) {r : String × WebAuthnCredential}
    (hr : r ∈ t.credentials) : t.credential r.2.ID = some r.2 := by
  rw [h.named r hr]
  exact lookup_of_mem h.nodup hr

theorem keys_modify (t : Table) (id : String) (f : WebAuthnCredential → WebAuthnCredential) :
    (t.modify id f).credentials.map Prod.fst = t.credentials.map Prod.fst := by
  unfold Table.modify
  rw [List.map_map]
  refine List.map_congr_left fun r _ => ?_
  dsimp only [Function.comp_apply]
  split_ifs <;> rfl

theorem Table.WellFormed.modify {t : Table} (h : t.WellFormed) (id : String)
    {f : WebAuthnCredential → WebAuthnCredential} (hf : ∀ row, (f row).ID = row.ID) :
    (t.modify id f).WellFormed := by
  refine ⟨by rw [keys_modify]; exact h.nodup, fun r hr => ?_⟩
  obtain ⟨r', hr', rfl⟩ := List.mem_map.1 hr
  split_ifs
  · exact (hf r'.2).trans (h.named r' hr')
  · exact h.named r' hr'

theorem Table.WellFormed.delete {t : Table} (h : t.WellFormed) (id : String) :
    (t.delete id).WellFormed where
  nodup := h.nodup.sublist (List.filter_sublist.map Prod.fst)
  named r hr := h.named r (List.mem_filter.1 hr).1

theorem credential_eq_none {t : Table} {id : String} (h : t.credential id = none) :
    id ∉ t.credentials.map Prod.fst := by
  unfold Table.credential at h
  intro hid
  obtain ⟨r, hr, rfl⟩ := List.mem_map.1 hid
  have hne := List.lookup_eq_none_iff.1 h r hr
  simp at hne

theorem Table.WellFormed.insert {t : Table} (h : t.WellFormed) {row : WebAuthnCredential}
    (hfree : t.credential row.ID = none) : (t.insert row.ID row).WellFormed := by
  constructor
  · show ((t.credentials ++ [(row.ID, row)]).map Prod.fst).Nodup
    rw [List.map_append, List.nodup_append]
    refine ⟨h.nodup, by simp, fun a ha b hb hab => ?_⟩
    obtain rfl : b = row.ID := by simpa using hb
    exact credential_eq_none hfree (hab ▸ ha)
  · intro r hr
    rcases List.mem_append.1 hr with hr | hr
    · exact h.named r hr
    · obtain rfl := List.mem_singleton.1 hr
      rfl

/-- A page has room for the rows that are allowed. -/
theorem page_complete {t : Table} (h : t.credentials.length ≤ maxWebAuthnCredentials) (cursor : Bool) :
    t.page webAuthnCredentialListPageSize cursor = (t.credentials.map Prod.snd, false) := by
  have hlt : t.credentials.length < webAuthnCredentialListPageSize := Nat.lt_succ_of_le h
  unfold Table.page
  rw [List.take_of_length_le (Nat.le_of_lt hlt), decide_eq_false (Nat.lt_asymm hlt),
    decide_eq_false (Nat.ne_of_gt hlt)]
  rfl

/-! ## What the history says -/

section Sound

variable {ι : Type}

abbrev PasskeyEvent (ι : Type) := Event ι Op Table Choice

/-- What an operation of one program does. -/
def performed (i : ι) (o : Op) (c : Choice) (t : Table) : PasskeyEvent ι := ⟨i, o, c, t, (t.handle o c).2⟩

/-- The public key under an identifier after an event: what was committed. -/
def recorded (e : PasskeyEvent ι) (id : String) (key : Option (List UInt8)) : Option (List UInt8) :=
  match e.op with
  | .createCredential row =>
      if row.ID = id ∧ e.choice.fault ≠ .lost ∧ e.before.credential id = none then some row.PublicKey
      else key
  | .deleteCredential gone => if gone = id ∧ e.choice.fault ≠ .lost then none else key
  | _ => key

/-- The public key an identifier is registered with and not deleted since, of a history with the newest
    event first. -/
def registered (initial : Table) : List (PasskeyEvent ι) → String → Option (List UInt8)
  | [], id => (initial.credential id).map (·.PublicKey)
  | e :: older, id => recorded e id (registered initial older id)

/-- The passkeys are not too many to be listed, they are the ones that were registered, and their counters
    do not go back. -/
structure Sound (initial : Table) (s : Traced ι Op Table Choice) : Prop where
  few : s.state.credentials.length ≤ maxWebAuthnCredentials
  listed : ∀ cursor, s.state.page webAuthnCredentialListPageSize cursor
    = (s.state.credentials.map Prod.snd, false)
  registered : ∀ id row, s.state.credential id = some row →
    registered initial s.log.reverse id = some row.PublicKey
  counters : ∀ e ∈ s.log, ∀ id old new, e.before.credential id = some old →
    e.after.credential id = some new → old.SignCount ≤ new.SignCount

/-- With it the shape of the table. -/
structure Kept (initial : Table) (s : Traced ι Op Table Choice) : Prop extends Sound initial s where
  wellFormed : s.state.WellFormed

/-- Where the operations that write rows do no harm. -/
def Op.Safe : Op → Table → Prop
  | .createCredential _, t => t.credentials.length < maxWebAuthnCredentials
  | .updateCredential id u, t => ∃ row, t.credential id = some row ∧ row.SignCount ≤ u.SignCount
  | _, _ => True

variable {initial : Table} {s : Traced ι Op Table Choice} {i : ι}

/-- An event that keeps what there is. -/
theorem Kept.append (h : Kept initial s) {e : PasskeyEvent ι} (hbefore : e.before = s.state)
    (hfew : e.after.credentials.length ≤ maxWebAuthnCredentials) (hformed : e.after.WellFormed)
    (hkeys : ∀ id new, e.after.credential id = some new →
      (∀ key, recorded e id key = some new.PublicKey) ∨ (∀ key, recorded e id key = key) ∧
        ∃ old, s.state.credential id = some old ∧ old.PublicKey = new.PublicKey)
    (hcounters : ∀ id old new, s.state.credential id = some old → e.after.credential id = some new →
      old.SignCount ≤ new.SignCount) : Kept initial ⟨e.after, s.log ++ [e]⟩ := by
  refine ⟨⟨hfew, page_complete hfew, fun id new hnew => ?_, fun e' he' id old new hold hnew => ?_⟩, hformed⟩
  · show Passkeys.registered initial (s.log ++ [e]).reverse id = _
    rw [List.reverse_append, List.reverse_singleton, List.singleton_append, Passkeys.registered]
    rcases hkeys id new hnew with hkey | ⟨hkey, old, hold, hsame⟩
    · exact hkey _
    · rw [hkey, h.registered id old hold, hsame]
  · rcases List.mem_append.1 he' with he' | he'
    · exact h.counters e' he' id old new hold hnew
    · obtain rfl := List.mem_singleton.1 he'
      rw [hbefore] at hold
      exact hcounters id old new hold hnew

/-- An event that changes no row, and no history. -/
theorem Kept.quiet (h : Kept initial s) {e : PasskeyEvent ι} (hbefore : e.before = s.state)
    (hrows : e.after.credentials = s.state.credentials) (hkeys : ∀ id key, recorded e id key = key) :
    Kept initial ⟨e.after, s.log ++ [e]⟩ := by
  have hsame : ∀ id, e.after.credential id = s.state.credential id := fun id => by
    unfold Table.credential
    rw [hrows]
  refine h.append hbefore (hrows ▸ h.few) ⟨hrows ▸ h.wellFormed.nodup, hrows ▸ h.wellFormed.named⟩
    (fun id new hnew => Or.inr ⟨hkeys id, new, hsame id ▸ hnew, rfl⟩) fun id old new hold hnew => ?_
  rw [hsame id, hold] at hnew
  cases hnew
  exact Nat.le_refl _

/-- A row of which neither the names nor the key change. -/
theorem Kept.modify (h : Kept initial s) {e : PasskeyEvent ι} (hbefore : e.before = s.state) (id : String)
    {f : WebAuthnCredential → WebAuthnCredential} (hafter : e.after = s.state.modify id f)
    (hkeys : ∀ id key, recorded e id key = key) (hID : ∀ row, (f row).ID = row.ID)
    (hPublicKey : ∀ row, (f row).PublicKey = row.PublicKey)
    (hcounter : ∀ row, s.state.credential id = some row → row.SignCount ≤ (f row).SignCount) :
    Kept initial ⟨e.after, s.log ++ [e]⟩ := by
  refine h.append hbefore ?_ (hafter ▸ h.wellFormed.modify id hID) ?_ ?_
  · rw [hafter]
    show (List.map _ _).length ≤ _
    rw [List.length_map]
    exact h.few
  · intro key new hnew
    rw [hafter, credential_modify] at hnew
    refine Or.inr ⟨hkeys key, ?_⟩
    by_cases hkey : key = id
    · rw [if_pos hkey] at hnew
      obtain ⟨old, hold, rfl⟩ := Option.map_eq_some_iff.1 hnew
      exact ⟨old, hold, (hPublicKey old).symm⟩
    · rw [if_neg hkey] at hnew
      exact ⟨new, hnew, rfl⟩
  · intro key old new hold hnew
    rw [hafter, credential_modify, hold] at hnew
    by_cases hkey : key = id
    · rw [if_pos hkey] at hnew
      cases hnew
      exact hcounter old (hkey ▸ hold)
    · rw [if_neg hkey] at hnew
      cases hnew
      exact Nat.le_refl _

theorem attempt_snd {α : Type} (c : Choice) (t : Table) (r : Except StoreError α × Table) :
    (c.attempt t r).2 = if c.fault = .lost then t else r.2 := by
  unfold Choice.attempt
  cases c.fault <;> rfl

theorem Kept.create (h : Kept initial s) (row : WebAuthnCredential)
    (hroom : s.state.credentials.length < maxWebAuthnCredentials) (c : Choice) :
    Kept initial ((Traced.env tableEnv i).handle (.createCredential row) c s).2 := by
  have hsnd : (s.state.handle (.createCredential row) c).2
      = if c.fault = .lost then s.state else (s.state.create row).2 := attempt_snd c s.state _
  -- the request is lost, the row is there already, or it is written
  have hcases : (s.state.handle (.createCredential row) c).2 = s.state ∧
        ¬(c.fault ≠ .lost ∧ s.state.credential row.ID = none) ∨
      (s.state.handle (.createCredential row) c).2 = s.state.insert row.ID row ∧
        c.fault ≠ .lost ∧ s.state.credential row.ID = none := by
    rw [hsnd]
    by_cases hlost : c.fault = .lost
    · exact Or.inl ⟨if_pos hlost, fun hfree => hfree.1 hlost⟩
    · rw [if_neg hlost]
      unfold Table.create
      cases hrow : s.state.credential row.ID with
      | none => exact Or.inr ⟨rfl, hlost, rfl⟩
      | some old => exact Or.inl ⟨rfl, fun hfree => by cases hfree.2⟩
  rcases hcases with ⟨hsame, hfree⟩ | ⟨hinsert, hlost, hfree⟩
  · refine h.quiet (e := performed i (.createCredential row) c s.state) rfl (congrArg Table.credentials hsame) fun id key => if_neg ?_
    rintro ⟨rfl, hkept⟩
    exact hfree hkept
  · refine h.append (e := performed i (.createCredential row) c s.state) rfl ?_ ?_ ?_ ?_
    · show (s.state.handle (.createCredential row) c).2.credentials.length ≤ _
      rw [hinsert]
      show (s.state.credentials ++ [(row.ID, row)]).length ≤ _
      rw [List.length_append]
      exact hroom
    · exact (congrArg Table.WellFormed hinsert).mpr (h.wellFormed.insert hfree)
    · intro id new hnew
      replace hnew : (s.state.handle (.createCredential row) c).2.credential id = some new := hnew
      rw [hinsert, credential_insert] at hnew
      by_cases hid : id = row.ID
      · subst hid
        rw [hfree, if_pos rfl, Option.none_or] at hnew
        cases hnew
        exact Or.inl fun key => if_pos ⟨rfl, hlost, hfree⟩
      · rw [if_neg hid, Option.or_none] at hnew
        exact Or.inr ⟨fun key => if_neg fun heq => hid heq.1.symm, new, hnew, rfl⟩
    · intro id old new hold hnew
      replace hnew : (s.state.handle (.createCredential row) c).2.credential id = some new := hnew
      rw [hinsert, credential_insert, hold, Option.some_or] at hnew
      cases hnew
      exact Nat.le_refl _

theorem Kept.delete (h : Kept initial s) (gone : String) (c : Choice) :
    Kept initial ((Traced.env tableEnv i).handle (.deleteCredential gone) c s).2 := by
  have hsnd : (s.state.handle (.deleteCredential gone) c).2
      = if c.fault = .lost then s.state else s.state.delete gone := attempt_snd c s.state _
  by_cases hlost : c.fault = .lost
  · rw [if_pos hlost] at hsnd
    exact h.quiet (e := performed i (.deleteCredential gone) c s.state) rfl (congrArg Table.credentials hsnd) fun id key => if_neg fun hkept => hkept.2 hlost
  · rw [if_neg hlost] at hsnd
    have hrow : ∀ {id new}, (s.state.handle (.deleteCredential gone) c).2.credential id = some new →
        id ≠ gone ∧ s.state.credential id = some new := by
      intro id new hnew
      rw [hsnd, credential_delete] at hnew
      by_cases hid : id = gone
      · rw [if_pos hid] at hnew
        cases hnew
      · rw [if_neg hid] at hnew
        exact ⟨hid, hnew⟩
    refine h.append (e := performed i (.deleteCredential gone) c s.state) rfl ?_ ((congrArg Table.WellFormed hsnd).mpr (h.wellFormed.delete gone)) ?_ ?_
    · show (s.state.handle (.deleteCredential gone) c).2.credentials.length ≤ _
      rw [hsnd]
      exact Nat.le_trans (List.length_filter_le _ _) h.few
    · intro id new hnew
      exact Or.inr ⟨fun key => if_neg fun heq => (hrow hnew).1 heq.1.symm, new, (hrow hnew).2, rfl⟩
    · intro id old new hold hnew
      rw [(hrow hnew).2] at hold
      cases hold
      exact Nat.le_refl _

/-- An operation where it does no harm. -/
theorem Kept.handle (h : Kept initial s) {o : Op} (ho : o.Safe s.state) (c : Choice) :
    Kept initial ((Traced.env tableEnv i).handle o c s).2 := by
  cases o with
  | now => exact h.quiet (e := performed i .now c s.state) rfl rfl fun _ _ => rfl
  | loadUser username => exact h.quiet (e := performed i (.loadUser username) c s.state) rfl rfl fun _ _ => rfl
  | createOperatorSession username role method => exact h.quiet (e := performed i (.createOperatorSession username role method) c s.state) rfl rfl fun _ _ => rfl
  | getChallenge challenge =>
      exact h.quiet (e := performed i (.getChallenge challenge) c s.state) rfl (congrArg Table.credentials ((attempt_snd c s.state _).trans (ite_self _)))
        fun _ _ => rfl
  | listCredentials limit =>
      exact h.quiet (e := performed i (.listCredentials limit) c s.state) rfl (congrArg Table.credentials ((attempt_snd c s.state _).trans (ite_self _)))
        fun _ _ => rfl
  | createAudit action target =>
      exact h.quiet (e := performed i (.createAudit action target) c s.state) rfl (congrArg Table.credentials ((attempt_snd c s.state _).trans (ite_self _)))
        fun _ _ => rfl
  | deleteChallenge challenge =>
      refine h.quiet (e := performed i (.deleteChallenge challenge) c s.state) rfl ?_ fun _ _ => rfl
      show (c.attempt s.state _).2.credentials = s.state.credentials
      rw [attempt_snd]
      split_ifs <;> rfl
  | createCredential row => exact h.create row ho c
  | deleteCredential gone => exact h.delete gone c
  | updateCredential id u =>
      obtain ⟨row, hrow, hcount⟩ := ho
      have hsnd : (s.state.handle (.updateCredential id u) c).2
          = if c.fault = .lost then s.state else s.state.modify id u.apply := by
        refine (attempt_snd c s.state (.ok (), s.state.update id u)).trans ?_
        unfold Table.update
        rw [hrow, Option.isSome_some, if_pos rfl]
      by_cases hlost : c.fault = .lost
      · rw [if_pos hlost] at hsnd
        exact h.quiet (e := performed i (.updateCredential id u) c s.state) rfl (congrArg Table.credentials hsnd) fun _ _ => rfl
      · rw [if_neg hlost] at hsnd
        refine h.modify (e := performed i (.updateCredential id u) c s.state) rfl id hsnd (fun _ _ => rfl) (fun _ => rfl) (fun _ => rfl) fun row' hrow' => ?_
        rw [hrow] at hrow'
        cases hrow'
        exact hcount
  | renameCredential id name =>
      have hsnd : (s.state.handle (.renameCredential id name) c).2
          = if c.fault = .lost then s.state else (s.state.rename id name).2 := attempt_snd c s.state _
      have hcases : (s.state.handle (.renameCredential id name) c).2 = s.state ∨
          (s.state.handle (.renameCredential id name) c).2
            = s.state.modify id fun row => { row with Name := name } := by
        rw [hsnd]
        unfold Table.rename
        split_ifs
        · exact Or.inl rfl
        · exact Or.inr rfl
        · exact Or.inl rfl
      rcases hcases with hsame | hmodify
      · exact h.quiet (e := performed i (.renameCredential id name) c s.state) rfl (congrArg Table.credentials hsame) fun _ _ => rfl
      · exact h.modify (e := performed i (.renameCredential id name) c s.state) rfl id hmodify (fun _ _ => rfl) (fun _ => rfl) (fun _ => rfl)
          fun _ _ => Nat.le_refl _

end Sound

/-! ## What a request remembers -/

section Runs

variable {ι : Type} [DecidableEq ι] {initial : Table} {s t : Traced ι Op Table Choice} {i : ι}
  {items : List WebAuthnCredential}

/-- The program lists the rows. -/
def lists (i : ι) (e : PasskeyEvent ι) : Bool :=
  match e.op with
  | .listCredentials _ => decide (e.who = i)
  | _ => false

/-- The events since the program last listed the rows, the newest first. -/
def sinceListing (i : ι) (log : List (PasskeyEvent ι)) : List (PasskeyEvent ι) :=
  log.reverse.takeWhile fun e => !lists i e

def adds (e : PasskeyEvent ι) : Bool := decide (e.before.credentials.length < e.after.credentials.length)

/-- The row comes or goes, or its counter changes. -/
def touches (id : String) (e : PasskeyEvent ι) : Bool :=
  (e.before.credential id).map (·.SignCount) != (e.after.credential id).map (·.SignCount)

/-- Where the rows are as many as are allowed, none was added since a registration listed them; and nothing
    touched the row of a login since the login listed it. -/
def Unraced : ι → Op → Choice → Traced ι Op Table Choice → Prop
  | i, .createCredential _, _, s =>
      maxWebAuthnCredentials ≤ s.state.credentials.length → ∀ e ∈ sinceListing i s.log, adds e = false
  | i, .updateCredential id _, _, s => ∀ e ∈ sinceListing i s.log, touches id e = false
  | _, _, _, _ => True

instance (i : ι) (o : Op) (c : Choice) (s : Traced ι Op Table Choice) : Decidable (Unraced i o c s) := by
  cases o <;> unfold Unraced <;> infer_instance

/-- The listed rows are all there are until one is added, and the counter of one is the listed one until
    it is touched. -/
structure Remembers (i : ι) (items : List WebAuthnCredential) (s : Traced ι Op Table Choice) : Prop where
  few : (∀ e ∈ sinceListing i s.log, adds e = false) → s.state.credentials.length ≤ items.length
  counters : ∀ row ∈ items, (∀ e ∈ sinceListing i s.log, touches row.ID e = false) →
    (s.state.credential row.ID).map (·.SignCount) = some row.SignCount

theorem sinceListing_append (log : List (PasskeyEvent ι)) (e : PasskeyEvent ι) :
    sinceListing i (log ++ [e]) = if lists i e then [] else e :: sinceListing i log :=
  latest_append (lists i) log e

/-- Whatever is done, other than listing again. -/
theorem Remembers.handle (h : Remembers i items s) {j : ι} {o : Op} {c : Choice}
    (ho : lists i (performed j o c s.state) = false) :
    Remembers i items ((Traced.env tableEnv j).handle o c s).2 := by
  have hsince : sinceListing i ((Traced.env tableEnv j).handle o c s).2.log
      = performed j o c s.state :: sinceListing i s.log := by
    rw [Traced.handle_log]
    refine (sinceListing_append s.log (performed j o c s.state)).trans ?_
    rw [ho]
    rfl
  constructor
  · rw [hsince]
    intro hquiet
    obtain ⟨hnow, hquiet⟩ := List.forall_mem_cons.1 hquiet
    exact Nat.le_trans (Nat.le_of_not_lt (of_decide_eq_false hnow)) (h.few hquiet)
  · rw [hsince]
    intro row hrow hquiet
    obtain ⟨hnow, hquiet⟩ := List.forall_mem_cons.1 hquiet
    have hsame : (s.state.credential row.ID).map (·.SignCount)
        = ((s.state.handle o c).2.credential row.ID).map (·.SignCount) := by
      simpa [touches, performed] using hnow
    exact hsame.symm.trans (h.counters row hrow hquiet)

/-! ## The requests -/

def passkeyContract (initial : Table) : ι → Contract Op (Traced ι Op Table Choice) Choice :=
  Traced.contract tableEnv (Kept initial) Unraced

theorem Remembers.rely (h : Remembers i items s) (hrely : (passkeyContract initial i).rely s t) :
    Remembers i items t := by
  refine Traced.Others.keeps hrely (fun j o c s hj hs => hs.handle ?_) h
  unfold lists performed
  dsimp only
  split
  · exact decide_eq_false hj
  · rfl

/-- The operations that write no row unconditionally or under a limit. -/
def Op.plain : Op → Bool
  | .createCredential _ => false
  | .updateCredential .. => false
  | _ => true

theorem Op.plain.safe {o : Op} (h : o.plain = true) (t : Table) : o.Safe t := by
  cases o with
  | createCredential row => cases h
  | updateCredential id u => cases h
  | now => trivial
  | getChallenge challenge => trivial
  | deleteChallenge challenge => trivial
  | listCredentials limit => trivial
  | renameCredential id name => trivial
  | deleteCredential id => trivial
  | loadUser username => trivial
  | createOperatorSession username role method => trivial
  | createAudit action target => trivial

/-- The operations between the listing of a request and its write. -/
def Op.between : Op → Bool
  | .listCredentials _ => false
  | o => o.plain

theorem between_plain (o : Op) (h : o.between = true) : o.plain = true := by
  cases o with
  | listCredentials limit => cases h
  | _ => exact h

theorem meets_of_plain {α : Type} {p : Handler α} (hp : p.Only fun o => o.plain = true)
    (s : Traced ι Op Table Choice) :
    p.Meets (Traced.env tableEnv i) (passkeyContract initial i) (Answering fun _ _ => True) s := by
  refine (meets_of_steps (F := fun _ => True) (fun o c t ho hinv _ _ => ?_) (fun _ _ _ _ => trivial) hp
    trivial).mono fun r t _ => by cases r <;> trivial
  exact ⟨Kept.handle hinv (Op.plain.safe ho t.state) c, Traced.contract_guar o c t, trivial⟩

/-- What happens between the listing and the write. -/
theorem meets_between {α : Type} {p : Handler α} (hp : p.Only fun o => o.between = true)
    (h : Remembers i items s) :
    p.Meets (Traced.env tableEnv i) (passkeyContract initial i)
      (Answering fun _ t => Remembers i items t) s := by
  refine (meets_of_steps (F := Remembers i items) (fun o c t ho hinv _ hF => ?_)
    (fun _ _ hrely hF => hF.rely hrely) hp h).mono fun r t ht => ?_
  · refine ⟨Kept.handle hinv (Op.plain.safe (between_plain o ho) t.state) c, Traced.contract_guar o c t,
      hF.handle ?_⟩
    cases o with
    | listCredentials limit => cases ho
    | _ => rfl
  · cases r with
    | ok a => exact ht
    | error e => trivial

theorem meets_listUserWebAuthnCredentials (s : Traced ι Op Table Choice) :
    (listUserWebAuthnCredentials).Meets (Traced.env tableEnv i) (passkeyContract initial i)
      (Answering fun r t => ∀ items, r = .ok items → Remembers i items t) s := by
  unfold listUserWebAuthnCredentials
  refine answers_bind (R := fun r t => ∀ items, r = .ok (items, false) → Remembers i items t) ?_
    fun r t hr => ?_
  · refine answers_perform (o := Op.listCredentials webAuthnCredentialListPageSize) fun t _ hinv c _ =>
      ⟨Kept.handle hinv (Op.plain.safe rfl t.state) c, Traced.contract_guar _ c t, fun u hu _ items hitems => ?_⟩
    refine Remembers.rely ?_ hu
    -- the answer is the whole table, and nothing has happened since
    have hres : (c.attempt t.state (.ok (t.state.page webAuthnCredentialListPageSize c.cursor),
        t.state)).1 = .ok (items, false) := hitems
    have hall : items = t.state.credentials.map Prod.snd := by
      rw [page_complete hinv.few] at hres
      unfold Choice.attempt at hres
      cases hfault : c.fault with
      | none => rw [hfault] at hres; cases hres; rfl
      | lost => rw [hfault] at hres; cases hres
      | unacknowledged => rw [hfault] at hres; cases hres
    have hstate : (t.state.handle (.listCredentials webAuthnCredentialListPageSize) c).2 = t.state :=
      (attempt_snd c t.state _).trans (ite_self _)
    constructor
    · intro _
      show (t.state.handle (.listCredentials webAuthnCredentialListPageSize) c).2.credentials.length ≤ _
      rw [hstate, hall, List.length_map]
    · intro row hrow _
      show ((t.state.handle (.listCredentials webAuthnCredentialListPageSize) c).2.credential
        row.ID).map _ = _
      rw [hall] at hrow
      obtain ⟨r, hr, rfl⟩ := List.mem_map.1 hrow
      rw [hstate, hinv.wellFormed.credential hr]
      rfl
  · rcases r with e | ⟨items, more⟩
    · exact answers_pure fun _ _ _ items hitems => by cases hitems
    · cases more with
      | true => exact answers_pure fun _ _ _ items hitems => by cases hitems
      | false =>
          refine answers_pure fun u hu _ items' hitems => ?_
          cases hitems
          exact (hr items rfl).rely hu

/-! ### Operations that write no row -/

omit [DecidableEq ι] in
theorem deleteWebAuthnChallenge_only (challenge : String) :
    (deleteWebAuthnChallenge challenge).Only fun o => o.between = true :=
  only_bind ((only_perform _).2 rfl) fun _ => only_pure _

omit [DecidableEq ι] in
theorem loadWebAuthnSession_only (library : Library) (challenge username expectedType : String) :
    (loadWebAuthnSession library challenge username expectedType).Only fun o => o.between = true := by
  refine only_bind (only_bind ((only_perform _).2 rfl) fun r => ?_) fun r => ?_
  · rcases r with e | challenge
    · exact only_pure _
    · exact only_bind ((only_perform _).2 rfl) fun now => only_ite
        (only_bind (deleteWebAuthnChallenge_only _) fun _ => only_pure _) (only_pure _)
  · rcases r with (_ | _ | _) | data
    · exact only_fail _
    · exact only_fail _
    · exact only_fail _
    · refine only_ite (only_fail _) (only_ite (only_fail _) ?_)
      cases library.UnmarshalSession data.SessionData with
      | none => exact only_fail _
      | some session => exact only_pure _

omit [DecidableEq ι] in
theorem ensureWebAuthnConfigured_only (library : Option Library) :
    (ensureWebAuthnConfigured library).Only fun o => o.plain = true := by
  cases library with
  | none => exact only_fail _
  | some library => exact only_pure _

omit [DecidableEq ι] in
theorem audit_only (action target : String) : (audit action target).Only fun o => o.plain = true := by
  refine only_bind ((only_perform _).2 rfl) fun r => ?_
  rcases r with e | ⟨⟩
  · exact only_fail _
  · exact only_pure _

/-! ### Registering and logging in -/

theorem meets_completeWebAuthnRegistration {library : Library} {username displayName : String}
    {req : webAuthnFinishRegistrationRequest} (h : Remembers i items s) :
    (completeWebAuthnRegistration library username displayName req items).Meets (Traced.env tableEnv i)
      (passkeyContract initial i)
      (Answering fun _ t => Remembers i items t ∧ items.length < maxWebAuthnCredentials) s := by
  unfold completeWebAuthnRegistration
  refine meets_ite (fun _ => answers_fail) fun _ =>
    answers_bind (meets_between (loadWebAuthnSession_only _ _ _ _) h) fun session t ht =>
      meets_ite (fun _ => answers_fail) fun hroom => ?_
  split
  · exact answers_fail
  · split
    · exact answers_fail
    · refine answers_bind (meets_between ((only_perform _).2 rfl) ht) fun now u hu => ?_
      exact answers_pure fun v hv _ => ⟨hu.rely hv, Nat.lt_of_not_le hroom⟩

theorem meets_handleWebAuthnRegisterFinish (library : Option Library) (AuthIdentity : String)
    (body : Body webAuthnFinishRegistrationRequest) (s : Traced ι Op Table Choice) :
    (handleWebAuthnRegisterFinish library AuthIdentity body).Meets (Traced.env tableEnv i)
      (passkeyContract initial i) (Answering fun _ _ => True) s := by
  unfold handleWebAuthnRegisterFinish
  refine answers_bind (meets_of_plain (ensureWebAuthnConfigured_only library) s) fun library t _ =>
    meets_ite (fun _ => answers_fail) fun _ => ?_
  rcases body with e | req
  · exact answers_fail
  · refine answers_bind (meets_listUserWebAuthnCredentials t) fun r t hr => ?_
    rcases r with e | creds
    · exact answers_fail
    · refine answers_bind (meets_completeWebAuthnRegistration (hr creds rfl)) fun stored t hstored => ?_
      obtain ⟨hmemory, hroom⟩ := hstored
      refine answers_bind (R := fun _ _ => True) ?_ fun r t _ => ?_
      · refine answers_perform fun u hu hinv c hrace => ⟨Kept.handle hinv ?_ c, Traced.contract_guar _ c u,
          fun _ _ _ => trivial⟩
        -- a full table has been full when it was listed
        by_contra hfull
        have hfull : maxWebAuthnCredentials ≤ u.state.credentials.length := Nat.le_of_not_lt hfull
        have hlisted := (hmemory.rely hu).few (hrace hfull)
        omega
      · rcases r with e | ⟨⟩
        · exact answers_fail
        · exact meets_of_plain (only_bind ((deleteWebAuthnChallenge_only _).mono between_plain) fun _ =>
            audit_only _ _) t

omit [DecidableEq ι] in
theorem parseWebAuthnLoginFinishRequest_only (body : Body webAuthnFinishLoginRequest) :
    (parseWebAuthnLoginFinishRequest body).Only fun o => o.plain = true := by
  rcases body with e | req
  · exact only_fail _
  · exact only_ite (only_fail _) (only_ite (only_fail _) (only_pure _))

omit [DecidableEq ι] in
/-- A login is validated for a listed row. -/
theorem validated_listed {library : Library} (h : library.Documented) {username displayName : String}
    {session parsed : String} {credential : Credential}
    (hvalid : library.ValidateLogin (buildWebAuthnUserWithCredentials username displayName items) session
      parsed = some credential) :
    ∃ row ∈ items, row.ID = credential.ID ∧ row.SignCount ≤ credential.SignCount := by
  obtain ⟨stored, hstored, hID, hcount⟩ := h.validateLogin _ _ _ _ hvalid
  obtain ⟨row, hrow, rfl⟩ := List.mem_map.1 hstored
  exact ⟨row, hrow, hID, hcount⟩

/-- The write of a login whose row nothing has touched since. -/
theorem Remembers.safe (h : Remembers i items s) {row : WebAuthnCredential} (hrow : row ∈ items)
    (hquiet : ∀ e ∈ sinceListing i s.log, touches row.ID e = false) {u : LoginUpdate}
    (hcount : row.SignCount ≤ u.SignCount) : (Op.updateCredential row.ID u).Safe s.state := by
  obtain ⟨stored, hstored, hsame⟩ := Option.map_eq_some_iff.1 (h.counters row hrow hquiet)
  exact ⟨stored, hstored, hsame ▸ hcount⟩

theorem meets_handleWebAuthnLoginFinish {library : Option Library}
    (hlibrary : ∀ l, library = some l → l.Documented) (body : Body webAuthnFinishLoginRequest)
    (s : Traced ι Op Table Choice) :
    (handleWebAuthnLoginFinish library body).Meets (Traced.env tableEnv i)
      (passkeyContract initial i) (Answering fun _ _ => True) s := by
  unfold handleWebAuthnLoginFinish
  cases library with
  | none => exact answers_bind (R := fun _ _ => False) answers_fail fun _ _ h => h.elim
  | some library =>
      refine answers_bind (R := fun l _ => l = library) (answers_pure fun _ _ _ => rfl) ?_
      rintro _ t rfl
      refine answers_bind (meets_of_plain (parseWebAuthnLoginFinishRequest_only body) t) fun req t _ => ?_
      refine answers_bind (meets_of_plain ((loadWebAuthnSession_only _ _ _ _).mono between_plain) t)
        fun session t _ => answers_bind (meets_listUserWebAuthnCredentials t) fun r t hr => ?_
      rcases r with e | creds
      · exact answers_fail
      · refine meets_ite (fun _ => answers_fail) fun _ => ?_
        split
        · exact answers_fail
        · split
          · exact answers_fail
          · next credential hvalid =>
            obtain ⟨row, hrow, hID, hcount⟩ := validated_listed (hlibrary _ rfl) hvalid
            refine answers_bind (meets_between (deleteWebAuthnChallenge_only _) (hr creds rfl))
              fun _ t ht => answers_bind (meets_between ((only_perform _).2 rfl) ht) fun now t ht => ?_
            refine answers_bind (R := fun _ _ => True) ?_ fun _ t _ => meets_of_plain ?_ t
            · refine answers_perform fun u hu hinv c hrace => ⟨Kept.handle hinv ?_ c, Traced.contract_guar _ c u,
                fun _ _ _ => trivial⟩
              rw [← hID] at hrace ⊢
              exact (ht.rely hu).safe hrow hrace hcount
            · refine only_bind ((only_perform _).2 rfl) fun r => ?_
              rcases r with (_ | _ | _) | role
              · exact only_fail _
              · exact only_fail _
              · exact only_fail _
              · refine only_bind ((only_perform _).2 rfl) fun r => ?_
                rcases r with e | token
                · exact only_fail _
                · exact only_bind (audit_only _ _) fun _ => only_pure _

omit [DecidableEq ι] in
theorem handleWebAuthnDeleteCredential_only (library : Option Library) (AuthIdentity credentialId : String) :
    (handleWebAuthnDeleteCredential library AuthIdentity credentialId).Only fun o => o.plain = true := by
  refine only_bind (ensureWebAuthnConfigured_only _) fun _ => only_ite (only_fail _)
    (only_ite (only_fail _) (only_bind ((only_perform _).2 rfl) fun r => ?_))
  rcases r with (_ | _ | _) | ⟨⟩
  · exact audit_only _ _
  · exact only_fail _
  · exact only_fail _
  · exact audit_only _ _

omit [DecidableEq ι] in
theorem handleWebAuthnUpdateCredential_only (library : Option Library) (AuthIdentity credentialId : String)
    (body : Body String) :
    (handleWebAuthnUpdateCredential library AuthIdentity credentialId body).Only
      fun o => o.plain = true := by
  refine only_bind (ensureWebAuthnConfigured_only _) fun _ => only_ite (only_fail _)
    (only_ite (only_fail _) ?_)
  rcases body with e | name
  · exact only_fail _
  · refine only_ite (only_fail _) (only_bind ((only_perform _).2 rfl) fun r => ?_)
    rcases r with (_ | _ | _) | ⟨⟩
    · exact only_fail _
    · exact only_fail _
    · exact only_fail _
    · exact audit_only _ _

theorem meets_serve {library : Option Library} (hlibrary : ∀ l, library = some l → l.Documented)
    (req : Request) (s : Traced ι Op Table Choice) :
    (req.serve library).Meets (Traced.env tableEnv i) (passkeyContract initial i)
      (Answering fun _ _ => True) s := by
  cases req with
  | registerFinish AuthIdentity body => exact meets_handleWebAuthnRegisterFinish library AuthIdentity body s
  | loginFinish body =>
      exact answers_bind (meets_handleWebAuthnLoginFinish hlibrary body s) fun _ _ _ =>
        answers_pure fun _ _ _ => trivial
  | delete AuthIdentity credentialId =>
      exact meets_of_plain (handleWebAuthnDeleteCredential_only library AuthIdentity credentialId) s
  | rename AuthIdentity credentialId body =>
      exact meets_of_plain (handleWebAuthnUpdateCredential_only library AuthIdentity credentialId body) s

/-! ## Runs -/

/-- Any number of requests, none of which has begun. -/
def passkeyRequests (library : Option Library) (request : ι → Request) (t : Table) :
    Config ι Op Op.Res AppTheoryError Unit (Traced ι Op Table Choice) where
  state := .start t
  threads i := (request i).serve library

/-- **The passkeys stay sound** in any interleaving in which no registration of a full table and no login
    writes after something has happened to what it listed. -/
theorem passkeys_sound (library : Option Library) (hlibrary : ∀ l, library = some l → l.Documented)
    (request : ι → Request) (t : Table) (hformed : t.WellFormed)
    (hfew : t.credentials.length ≤ maxWebAuthnCredentials) (ms : List (ι × Choice))
    (h : Along (Config.step (Traced.env tableEnv)) (Config.Performs Unraced)
      (passkeyRequests library request t) ms) :
    Sound t ((passkeyRequests library request t).run (Traced.env tableEnv) ms).state := by
  have hfits : Fits (Traced.env tableEnv) (fun i => passkeyContract t i) (Kept t)
      (fun _ => Answering fun _ _ => True) (passkeyRequests library request t) := by
    refine ⟨⟨⟨hfew, page_complete hfew, fun id row hrow => ?_, fun e he => by cases he⟩, hformed⟩,
      fun i => meets_serve hlibrary (request i) _⟩
    show (t.credential id).map _ = _
    rw [show t.credential id = some row from hrow]
    rfl
  exact (hfits.run Traced.contract_compatible h).inv.toSound

end Runs

/-! ### A login that a deletion overtakes -/

/-- The first of May 2024. -/
def sampleNow : Time := ⟨739006 * 24 * Hour, .utc⟩

/-- A response names the credential it is for, and its authenticator counts one further. -/
def sampleLibrary : Library where
  UnmarshalSession _ := some "session"
  ParseCredentialCreationResponse response := response.lookup "id"
  CreateCredential _ _ parsed := some ⟨parsed, [7], "none", [], true, true, false, false, 0, false⟩
  ParseCredentialRequestResponse response := response.lookup "id"
  ValidateLogin user _ parsed :=
    (user.credentials.find? fun c => c.ID == parsed).map fun c => { c with SignCount := c.SignCount + 1 }

theorem sampleLibrary_documented : sampleLibrary.Documented where
  validateLogin user session parsed credential h := by
    obtain ⟨stored, hstored, rfl⟩ := Option.map_eq_some_iff.1 h
    exact ⟨stored, List.mem_of_find?_eq_some hstored, rfl, Nat.le_succ _⟩

def sampleRow : WebAuthnCredential :=
  { WebAuthnCredential.blank with
    ID := "AQ=="
    UserID := "alice"
    PublicKey := [4]
    SignCount := 3
    Name := "Passkey 1" }

def sampleTable : Table where
  credentials := [("AQ==", sampleRow)]
  challenges ch :=
    if ch = "c" then
      some { Challenge := "c", UserID := "alice", SessionData := [], ExpiresAt := sampleNow, «Type» := "login" }
    else none

theorem sampleTable_wellFormed : sampleTable.WellFormed where
  nodup := by decide
  named := by decide

/-- One login and one deletion of the same passkey. -/
def sampleRequests : Bool → Request
  | false => .loginFinish (.ok ⟨"alice", "c", [("id", "AQ==")]⟩)
  | true => .delete "alice" "AQ=="

def sampleChoice : Choice := ⟨.none, sampleNow, .ok "admin", .ok "token", false⟩

def sampleMoves (turns : List Bool) : List (Bool × Choice) := turns.map fun who => (who, sampleChoice)

/-- The row is deleted after the login has listed it. -/
def overtaken : List (Bool × Choice) := sampleMoves [false, false, false, true, false, false, false]

/-- The deleted passkey is there again, without its key. -/
theorem not_passkeys_sound :
    ¬ ∀ (ι : Type) [DecidableEq ι] (library : Option Library) (request : ι → Request) (t : Table)
      (ms : List (ι × Choice)), (∀ l, library = some l → l.Documented) → t.WellFormed →
        t.credentials.length ≤ maxWebAuthnCredentials →
        Sound t ((passkeyRequests library request t).run (Traced.env tableEnv) ms).state := by
  intro h
  have hsound := h Bool (some sampleLibrary) sampleRequests sampleTable overtaken
    (fun l hl => by cases hl; exact sampleLibrary_documented) sampleTable_wellFormed (by decide)
  have hkey := hsound.registered "AQ=="
  revert hkey
  decide

/-- One after the other. -/
theorem passkeys_sound_turns :
    Sound sampleTable ((passkeyRequests (some sampleLibrary) sampleRequests sampleTable).run
      (Traced.env tableEnv)
      (sampleMoves [false, false, false, false, false, false, false, false, false, true, true])).state :=
  passkeys_sound (some sampleLibrary) (fun l hl => by cases hl; exact sampleLibrary_documented)
    sampleRequests sampleTable sampleTable_wellFormed (by decide) _ (by decide)

end LesserHost.ControlPlane.Passkeys
