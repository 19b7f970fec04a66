import LesserHost.ControlPlane.Setup

set_option autoImplicit false

/-! # What a request adds to the table

A `Grant` bounds what a handler may add: users, links of wallets to users, operator sessions.
`Evolves g` relates two tables of which the second adds to the first what `g` allows and takes
nothing away: users keep their roles, links stay. An operation `permitted` by a grant evolves the
table by it, and so does every program of such operations (`Prog.wp_of_only`). A `quiet` operation
touches none of these rows. -/

namespace LesserHost.ControlPlane

open LesserHost.Go Prog

/-! ## Grants -/

/-- The users, the links (address and user) and the sessions that may be added. -/
structure Grant where
  user : String → Prop
  link : String → String → Prop
  session : OperatorSession → Prop

def Grant.none : Grant := ⟨fun _ => False, fun _ _ => False, fun _ => False⟩

/-- A role as it is stored: present and without white space around it. -/
def GoodRole (role : String) : Prop := TrimSpace role = role ∧ role ≠ ""

def Write.permitted (g : Grant) : Write → Prop
  | .createUser u => g.user u.key ∧ GoodRole u.Role
  | .createWalletCredential c => ∃ address, g.link address c.key.1
  | .createWalletIndex i => g.link i.Address (TrimSpace i.Username)
  | .putOperatorSession ss | .createOperatorSession ss => g.session ss
  | _ => True

/-- A user is created only by the first item of a transaction. -/
def Write.plain : Write → Prop
  | .createUser _ => False
  | _ => True

def Op.permitted (g : Grant) : Op → Prop
  | .write [] => True
  | .write (w :: ws) => w.permitted g ∧ ∀ w' ∈ ws, w'.permitted g ∧ w'.plain
  | _ => True

/-- An item of no concern to any grant. -/
def Write.quiet : Write → Prop
  | .createUser _ | .updateUserEmail _ _ | .createWalletCredential _ | .createWalletIndex _ => False
  | .putOperatorSession _ | .createOperatorSession _ => False
  | _ => True

def Op.quiet : Op → Prop
  | .write ws => ∀ w ∈ ws, w.quiet
  | _ => True

theorem Write.quiet.permitted {g : Grant} {w : Write} (h : w.quiet) : w.permitted g ∧ w.plain := by
  cases w with
  | createUser | updateUserEmail | createWalletCredential | createWalletIndex => exact h.elim
  | putOperatorSession | createOperatorSession => exact h.elim
  | _ => exact ⟨trivial, trivial⟩

theorem Op.quiet.permitted {g : Grant} {o : Op} (h : o.quiet) : o.permitted g := by
  cases o with
  | write ws =>
      cases ws with
      | nil => trivial
      | cons w ws =>
          exact ⟨(h w List.mem_cons_self).permitted.1,
            fun w' hw' => (h w' (List.mem_cons_of_mem _ hw')).permitted⟩
  | _ => trivial

/-! ## Evolution -/

structure Evolves (g : Grant) (st st' : Store) : Prop where
  kept : ∀ u x, st.users u = some x → ∃ x', st'.users u = some x' ∧ x'.Role = x.Role
  users : ∀ u x, st'.users u = some x →
    (∃ x', st.users u = some x' ∧ x'.Role = x.Role) ∨ (g.user u ∧ GoodRole x.Role)
  linksKept : ∀ type address, st.walletIndexes type address ⊆ st'.walletIndexes type address
  links : ∀ type address, ∀ row ∈ st'.walletIndexes type address,
    row ∈ st.walletIndexes type address ∨ g.link address (TrimSpace row.Username)
  credentials : ∀ key c, st'.walletCredentials key = some c →
    (st.walletCredentials key).isSome ∨ ∃ address, g.link address key.1
  sessions : ∀ id ss, st'.operatorSessions id = some ss →
    st.operatorSessions id = some ss ∨ g.session ss

section Evolves

variable {g g' : Grant} {st st' st'' : Store}

/-- Nothing that a grant speaks about has changed. -/
theorem Evolves.of_eq (hu : st'.users = st.users) (hi : st'.walletIndexes = st.walletIndexes)
    (hc : st'.walletCredentials = st.walletCredentials)
    (hs : st'.operatorSessions = st.operatorSessions) : Evolves g st st' where
  kept u x h := ⟨x, by rw [hu]; exact h, rfl⟩
  users u x h := Or.inl ⟨x, by rw [← hu]; exact h, rfl⟩
  linksKept _ _ := by rw [hi]; exact List.Subset.refl _
  links _ _ row h := Or.inl (by rw [← hi]; exact h)
  credentials key c h := Or.inl (by rw [← hc, h]; rfl)
  sessions id ss h := Or.inl (by rw [← hs]; exact h)

theorem Evolves.refl (g : Grant) (st : Store) : Evolves g st st := .of_eq rfl rfl rfl rfl

theorem Evolves.trans (h : Evolves g st st') (h' : Evolves g st' st'') : Evolves g st st'' where
  kept u x hx := by
    obtain ⟨x', hx', hrole⟩ := h.kept u x hx
    obtain ⟨x'', hx'', hrole'⟩ := h'.kept u x' hx'
    exact ⟨x'', hx'', hrole'.trans hrole⟩
  users u x hx := by
    rcases h'.users u x hx with ⟨x', hx', hrole⟩ | hnew
    · rcases h.users u x' hx' with ⟨x'', hx'', hrole'⟩ | ⟨hu, hgood⟩
      · exact Or.inl ⟨x'', hx'', hrole'.trans hrole⟩
      · exact Or.inr ⟨hu, hrole ▸ hgood⟩
    · exact Or.inr hnew
  linksKept type address _ hrow := h'.linksKept type address (h.linksKept type address hrow)
  links type address row hrow := by
    rcases h'.links type address row hrow with hold | hnew
    · exact h.links type address row hold
    · exact Or.inr hnew
  credentials key c hc := by
    rcases h'.credentials key c hc with hold | hnew
    · obtain ⟨c', hc'⟩ := Option.isSome_iff_exists.1 hold
      exact h.credentials key c' hc'
    · exact Or.inr hnew
  sessions id ss hss := by
    rcases h'.sessions id ss hss with hold | hnew
    · exact h.sessions id ss hold
    · exact Or.inr hnew

end Evolves

/-! ## Writes -/

section Writes

variable {g : Grant} {st : Store}

theorem mem_insertIndex {w row : WalletIndex} {rows : List WalletIndex} :
    row ∈ insertIndex w rows ↔ row = w ∨ row ∈ rows := by
  rw [insertIndex, List.mem_append, List.mem_cons]
  conv_rhs => rw [← List.takeWhile_append_dropWhile (p := fun r => decide (r.Username < w.Username))
    (l := rows), List.mem_append]
  tauto

theorem Evolves.createUser {x : User} (hfree : st.users x.key = none) (hu : g.user x.key)
    (hrole : GoodRole x.Role) : Evolves g st ((Write.createUser x).apply st) where
  kept u y hy := by
    have hne : u ≠ x.key := by
      rintro rfl
      rw [hfree] at hy
      cases hy
    exact ⟨y, by simp only [Write.apply, set_apply, if_neg hne, hy], rfl⟩
  users u y hy := by
    simp only [Write.apply, set_apply] at hy
    split_ifs at hy with heq
    · obtain rfl := Option.some.inj hy
      exact Or.inr ⟨heq ▸ hu, hrole⟩
    · exact Or.inl ⟨y, hy, rfl⟩
  linksKept _ _ := List.Subset.refl _
  links _ _ row h := Or.inl h
  credentials key c h := Or.inl (by rw [show st.walletCredentials key = some c from h]; rfl)
  sessions id ss h := Or.inl h

theorem Evolves.updateUserEmail (username email : String) :
    Evolves g st ((Write.updateUserEmail username email).apply st) where
  kept u x hx := by
    simp only [Write.apply, set_apply]
    split_ifs with heq
    · subst heq
      exact ⟨{ x with Email := email }, by rw [hx]; rfl, rfl⟩
    · exact ⟨x, hx, rfl⟩
  users u x hx := by
    simp only [Write.apply, set_apply] at hx
    split_ifs at hx with heq
    · subst heq
      obtain ⟨x', hx', rfl⟩ := Option.map_eq_some_iff.1 hx
      exact Or.inl ⟨x', hx', rfl⟩
    · exact Or.inl ⟨x, hx, rfl⟩
  linksKept _ _ := List.Subset.refl _
  links _ _ row h := Or.inl h
  credentials key c h := Or.inl (by rw [show st.walletCredentials key = some c from h]; rfl)
  sessions id ss h := Or.inl h

theorem Evolves.createWalletCredential {w : WalletCredential}
    (hl : ∃ address, g.link address w.key.1) :
    Evolves g st ((Write.createWalletCredential w).apply st) where
  kept u x hx := ⟨x, hx, rfl⟩
  users u x hx := Or.inl ⟨x, hx, rfl⟩
  linksKept _ _ := List.Subset.refl _
  links _ _ row h := Or.inl h
  credentials key c h := by
    simp only [Write.apply, set_apply] at h
    split_ifs at h with heq
    · exact Or.inr (heq ▸ hl)
    · exact Or.inl (by rw [h]; rfl)
  sessions id ss h := Or.inl h

theorem Evolves.createWalletIndex {w : WalletIndex}
    (hl : g.link w.Address (TrimSpace w.Username)) :
    Evolves g st ((Write.createWalletIndex w).apply st) where
  kept u x hx := ⟨x, hx, rfl⟩
  users u x hx := Or.inl ⟨x, hx, rfl⟩
  linksKept type address row hrow := by
    simp only [Write.apply, set_apply]
    split_ifs with ht
    · subst ht
      rw [set_apply]
      split_ifs with ha
      · subst ha
        exact mem_insertIndex.2 (Or.inr hrow)
      · exact hrow
    · exact hrow
  links type address row hrow := by
    simp only [Write.apply, set_apply] at hrow
    split_ifs at hrow with ht
    · subst ht
      rw [set_apply] at hrow
      split_ifs at hrow with ha
      · subst ha
        rcases mem_insertIndex.1 hrow with rfl | hold
        · exact Or.inr hl
        · exact Or.inl hold
      · exact Or.inl hrow
    · exact Or.inl hrow
  credentials key c h := Or.inl (by rw [show st.walletCredentials key = some c from h]; rfl)
  sessions id ss h := Or.inl h

theorem Evolves.openSession {ss : OperatorSession} (hs : g.session ss) :
    Evolves g st { st with operatorSessions := set st.operatorSessions ss.ID (some ss) } where
  kept u x hx := ⟨x, hx, rfl⟩
  users u x hx := Or.inl ⟨x, hx, rfl⟩
  linksKept _ _ := List.Subset.refl _
  links _ _ row h := Or.inl h
  credentials key c h := Or.inl (by rw [show st.walletCredentials key = some c from h]; rfl)
  sessions id ss' h := by
    simp only [set_apply] at h
    split_ifs at h with heq
    · obtain rfl := Option.some.inj h
      exact Or.inr hs
    · exact Or.inl h

/-- An item other than a new user, whatever was written before it in the same transaction. -/
theorem Write.apply_evolves_plain {w : Write} (hp : w.permitted g) (hplain : w.plain) :
    Evolves g st (w.apply st) := by
  cases w with
  | createUser u => exact hplain.elim
  | updateUserEmail username email => exact .updateUserEmail username email
  | createWalletCredential w => exact .createWalletCredential hp
  | createWalletIndex w => exact .createWalletIndex hp
  | putOperatorSession ss => exact .openSession hp
  | createOperatorSession ss => exact .openSession hp
  | _ =>
      rw [Write.apply]
      exact .of_eq rfl rfl rfl rfl

/-- One item, its condition met. -/
theorem Write.apply_evolves {w : Write} (hp : w.permitted g) (ha : w.allowed st = true) :
    Evolves g st (w.apply st) := by
  cases w with
  | createUser u => exact .createUser (Option.isNone_iff_eq_none.1 ha) hp.1 hp.2
  | _ => exact Write.apply_evolves_plain hp trivial

theorem foldl_evolves {ws : List Write} (h : ∀ w ∈ ws, w.permitted g ∧ w.plain) :
    Evolves g st (ws.foldl Write.apply st) := by
  induction ws generalizing st with
  | nil => exact .refl g st
  | cons w ws ih =>
      have hw := h w List.mem_cons_self
      exact (Write.apply_evolves_plain hw.1 hw.2).trans
        (ih fun w' hw' => h w' (List.mem_cons_of_mem _ hw'))

theorem write_cases (st : Store) (ws : List Write) :
    (ws.all (Write.allowed st) = true ∧ st.write ws = (.ok (), ws.foldl Write.apply st)) ∨
      (ws.all (Write.allowed st) = false ∧ st.write ws = (.error .conditionFailed, st)) := by
  unfold Store.write
  split_ifs with h
  · exact Or.inl ⟨h, rfl⟩
  · exact Or.inr ⟨Bool.not_eq_true _ ▸ h, rfl⟩

theorem write_evolves {ws : List Write} (h : (Op.write ws).permitted g) :
    Evolves g st (st.write ws).2 := by
  rcases write_cases st ws with ⟨hall, hw⟩ | ⟨-, hw⟩
  · rw [hw]
    cases ws with
    | nil => exact .refl g st
    | cons w ws =>
        rw [List.all_cons, Bool.and_eq_true] at hall
        exact (Write.apply_evolves h.1 hall.1).trans (foldl_evolves h.2)
  · rw [hw]
    exact .refl g st

end Writes

/-! ## Operations -/

/-- Under a fault the table is as before or as after the operation. -/
theorem attempt_snd {α : Type} (c : Choice) (s : Store) (r : Except StoreError α × Store) :
    (c.attempt s r).2 = s ∨ (c.attempt s r).2 = r.2 := by
  unfold Choice.attempt
  split
  · exact Or.inr rfl
  · exact Or.inl rfl
  · exact Or.inr rfl

/-- A successful answer is the one without a fault. -/
theorem attempt_ok {α : Type} {c : Choice} {s : Store} {r : Except StoreError α × Store} {a : α}
    (h : (c.attempt s r).1 = .ok a) : c.attempt s r = r ∧ r.1 = .ok a := by
  unfold Choice.attempt at h ⊢
  split at h
  · exact ⟨rfl, h⟩
  · cases h
  · cases h

/-- So is every answer other than the fault's own. -/
theorem attempt_error {α : Type} {c : Choice} {s : Store} {r : Except StoreError α × Store}
    {e : StoreError} (h : (c.attempt s r).1 = .error e) (he : e ≠ .other) :
    c.attempt s r = r ∧ r.1 = .error e := by
  unfold Choice.attempt at h ⊢
  split at h
  · exact ⟨rfl, h⟩
  · exact absurd (Except.error.inj h).symm he
  · exact absurd (Except.error.inj h).symm he

theorem attempt_read {α : Type} (c : Choice) (s : Store) (r : Except StoreError α) :
    (c.attempt s (r, s)).2 = s := by
  rcases attempt_snd c s (r, s) with h | h <;> exact h

theorem handle_evolves {g : Grant} {o : Op} (h : o.permitted g) (c : Choice) (st : Store) :
    Evolves g st (handle o c st).2 := by
  cases o with
  | now => exact .of_eq rfl rfl rfl rfl
  | write ws =>
      rcases attempt_snd c st (st.write ws) with heq | heq
      · rw [handle, heq]
        exact .refl g st
      · rw [handle, heq]
        exact write_evolves h
  | _ =>
      rw [handle, attempt_read]
      exact .refl g st

/-! ## Quiet programs -/

/-- The rows that decide who may log in as whom are the same. -/
structure SameAuth (st st' : Store) : Prop where
  users : st'.users = st.users
  links : st'.walletIndexes = st.walletIndexes
  credentials : st'.walletCredentials = st.walletCredentials
  sessions : st'.operatorSessions = st.operatorSessions

theorem SameAuth.refl (st : Store) : SameAuth st st := ⟨rfl, rfl, rfl, rfl⟩

theorem SameAuth.trans {st st' st'' : Store} (h : SameAuth st st') (h' : SameAuth st' st'') :
    SameAuth st st'' :=
  ⟨h'.users.trans h.users, h'.links.trans h.links, h'.credentials.trans h.credentials,
    h'.sessions.trans h.sessions⟩

theorem SameAuth.evolves {g : Grant} {st st' : Store} (h : SameAuth st st') : Evolves g st st' :=
  .of_eq h.users h.links h.credentials h.sessions

theorem Write.apply_same {w : Write} (h : w.quiet) (st : Store) : SameAuth st (w.apply st) := by
  cases w with
  | createUser | updateUserEmail | createWalletCredential | createWalletIndex => exact h.elim
  | putOperatorSession | createOperatorSession => exact h.elim
  | _ =>
      rw [Write.apply]
      exact ⟨rfl, rfl, rfl, rfl⟩

theorem foldl_same {ws : List Write} (h : ∀ w ∈ ws, w.quiet) (st : Store) :
    SameAuth st (ws.foldl Write.apply st) := by
  induction ws generalizing st with
  | nil => exact .refl st
  | cons w ws ih =>
      exact (Write.apply_same (h w List.mem_cons_self) st).trans
        (ih (fun w' hw' => h w' (List.mem_cons_of_mem _ hw')) _)

theorem handle_same {o : Op} (h : o.quiet) (c : Choice) (st : Store) :
    SameAuth st (handle o c st).2 := by
  cases o with
  | now => exact ⟨rfl, rfl, rfl, rfl⟩
  | write ws =>
      rw [handle]
      rcases attempt_snd c st (st.write ws) with heq | heq
      · rw [heq]
        exact .refl st
      · rw [heq]
        rcases write_cases st ws with ⟨-, hw⟩ | ⟨-, hw⟩
        · rw [hw]
          exact foldl_same h st
        · rw [hw]
          exact .refl st
  | _ =>
      rw [handle, attempt_read]
      exact .refl st

/-! ## The rules for programs -/

theorem wp_same {α : Type} {p : Handler α} (hp : p.Only Op.quiet) {st₀ st : Store}
    (h : SameAuth st₀ st) : wp storeEnv p (fun _ st' => SameAuth st₀ st') st :=
  wp_of_only (fun _ ho c s hs => hs.trans (handle_same ho c s)) hp h

theorem wp_evolves {g : Grant} {α : Type} {p : Handler α} (hp : p.Only (Op.permitted g))
    {st₀ st : Store} (h : Evolves g st₀ st) :
    wp storeEnv p (fun _ st' => Evolves g st₀ st') st :=
  wp_of_only (fun _ ho c s hs => hs.trans (handle_evolves ho c s)) hp h

end LesserHost.ControlPlane
