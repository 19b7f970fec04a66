import LesserHost.ControlPlane.WalletLogin
import LesserHost.Lib.Interleave

set_option autoImplicit false

/-! # One user to a wallet, under concurrent requests

Portal logins and the creation of the primary admin look a wallet up and write its link later. The links
are sound as long as no look-up has been overtaken when the link is written, the wallet is not linked
under the other spelling of its address, and the two rows of a link are written together. A login
remembers the name it has found (`Remembers`). -/

namespace LesserHost.ControlPlane

open LesserHost.Go Prog

/-! ## Links -/

/-- The rows of an address. -/
def Store.links (st : Store) (address : String) : List WalletIndex :=
  st.walletIndexes Server.walletTypeEthereum address

/-- A wallet has one user, under both spellings of its address, and the user has its credential. -/
structure LinksSound (st : Store) : Prop where
  oneUser : ∀ (w : Wallet), ∀ a ∈ w.spellings, ∀ a' ∈ w.spellings, ∀ row ∈ st.links a,
    ∀ row' ∈ st.links a', row.Username = row'.Username
  paired : ∀ address u, (∃ row ∈ st.links address, row.Username = u) ↔
    (st.walletCredentials (u, address)).isSome = true

/-- With it, that the rows have proper names. -/
structure LinksKept (st : Store) : Prop extends LinksSound st where
  named : ∀ address, ∀ row ∈ st.links address,
    TrimSpace row.Username = row.Username ∧ row.Username ≠ ""

/-- An address with the prefix, and without. -/
def otherSpelling (address : String) : String :=
  if address.toList.length = 42 then String.ofList (address.toList.drop 2) else "0x" ++ address

theorem mem_spellings_cases {w : Wallet} {a a' : String} (h : a ∈ w.spellings) (h' : a' ∈ w.spellings) :
    a' = a ∨ a' = otherSpelling a := by
  have hlen := w.hex_length
  have hprefixed : ("0x" ++ w.hex).toList.length = 42 := by
    rw [String.toList_append, List.length_append, hlen]
    rfl
  simp only [Wallet.spellings, List.mem_cons, List.not_mem_nil, or_false] at h h'
  rcases h with rfl | rfl
  · rcases h' with rfl | rfl
    · exact Or.inl rfl
    · refine Or.inr ?_
      unfold otherSpelling
      rw [hlen, if_neg (by decide)]
  · rcases h' with rfl | rfl
    · refine Or.inr ?_
      unfold otherSpelling
      rw [hprefixed, if_pos rfl, String.toList_append,
        show ("0x" : String).toList = ['0', 'x'] from rfl]
      exact String.ofList_toList.symm
    · exact Or.inl rfl

theorem LinksKept.congr {st st' : Store} (h : LinksKept st) (hlinks : st'.walletIndexes = st.walletIndexes)
    (hcreds : st'.walletCredentials = st.walletCredentials) : LinksKept st' := by
  have hrows : st'.links = st.links := by
    funext address
    unfold Store.links
    rw [hlinks]
  refine ⟨⟨?_, ?_⟩, ?_⟩
  · rw [hrows]
    exact h.oneUser
  · rw [hrows, hcreds]
    exact h.paired
  · rw [hrows]
    exact h.named

/-- The name of the first row, if there is one. -/
theorem LinksKept.unlinked {st : Store} (h : LinksKept st) {address : String}
    (hname : st.linkedName address = "") : st.links address = [] := by
  unfold Store.linkedName at hname
  cases hrows : st.links address with
  | nil => rfl
  | cons row rows =>
      have hmem : row ∈ st.links address := hrows ▸ List.mem_cons_self
      rw [show st.walletIndexes Server.walletTypeEthereum address = row :: rows from hrows] at hname
      exact absurd ((h.named address row hmem).1.symm.trans hname) (h.named address row hmem).2

theorem LinksKept.linked {st : Store} (h : LinksKept st) {address u : String}
    (hname : st.linkedName address = u) (hu : u ≠ "") : ∃ row ∈ st.links address, row.Username = u := by
  unfold Store.linkedName at hname
  split at hname
  · next row hrow =>
      have hmem : row ∈ st.links address := List.mem_of_head? hrow
      exact ⟨row, hmem, (h.named address row hmem).1.symm.trans hname⟩
  · exact absurd hname.symm hu

/-! ## Writes -/

/-- An item that is no half of a link. -/
def Write.linkless : Write → Bool
  | .createWalletCredential _ => false
  | .createWalletIndex _ => false
  | _ => true

theorem foldl_linkless {ws : List Write} (h : ∀ w ∈ ws, w.linkless = true) (st : Store) :
    (ws.foldl Write.apply st).walletIndexes = st.walletIndexes ∧
      (ws.foldl Write.apply st).walletCredentials = st.walletCredentials := by
  induction ws generalizing st with
  | nil => exact ⟨rfl, rfl⟩
  | cons w ws ih =>
      obtain ⟨hw, hws⟩ := List.forall_mem_cons.1 h
      obtain ⟨hlinks, hcreds⟩ := ih hws (w.apply st)
      have hone : (w.apply st).walletIndexes = st.walletIndexes ∧
          (w.apply st).walletCredentials = st.walletCredentials := by
        cases w with
        | createWalletCredential c => cases hw
        | createWalletIndex i => cases hw
        | _ => exact ⟨rfl, rfl⟩
      exact ⟨hlinks.trans hone.1, hcreds.trans hone.2⟩

/-- What the two rows of a link add. -/
theorem links_linkRows {username address : String} (hu : TrimSpace username = username)
    (ha : ToLower (TrimSpace address) = address) (chainID : Int) (now : Time) (st : Store) (a : String) :
    ((Server.linkRows username address chainID now).foldl Write.apply st).links a
      = if a = address then insertIndex ⟨username, Server.walletTypeEthereum, address⟩ (st.links address)
        else st.links a := by
  unfold Store.links Server.linkRows
  simp only [List.foldl_cons, List.foldl_nil, Write.apply, WalletIndex.UpdateKeys, hu, ha, set_self,
    set_apply]

theorem credentials_linkRows {username address : String} (hu : TrimSpace username = username)
    (ha : ToLower (TrimSpace address) = address) (chainID : Int) (now : Time) (st : Store)
    (key : String × String) :
    (((Server.linkRows username address chainID now).foldl Write.apply st).walletCredentials key).isSome
      = if key = (username, address) then true else (st.walletCredentials key).isSome := by
  unfold Server.linkRows
  simp only [List.foldl_cons, List.foldl_nil, Write.apply, WalletCredential.key, hu, ha, set_apply]
  split_ifs <;> rfl

/-- A first link of a wallet that has no other user. -/
theorem LinksKept.link {st : Store} (h : LinksKept st) {username address : String}
    (hu : TrimSpace username = username) (hne : username ≠ "")
    (ha : ToLower (TrimSpace address) = address) (hfree : st.links address = [])
    (hother : ∀ row ∈ st.links (otherSpelling address), row.Username = username) (chainID : Int)
    (now : Time) : LinksKept ((Server.linkRows username address chainID now).foldl Write.apply st) := by
  have hrow : ∀ a row, row ∈ ((Server.linkRows username address chainID now).foldl Write.apply st).links a ↔
      a = address ∧ row = ⟨username, Server.walletTypeEthereum, address⟩ ∨
        a ≠ address ∧ row ∈ st.links a := by
    intro a row
    rw [links_linkRows hu ha]
    by_cases haddr : a = address
    · rw [if_pos haddr, mem_insertIndex, hfree]
      simp [haddr]
    · rw [if_neg haddr]
      simp [haddr]
  refine ⟨⟨?_, ?_⟩, ?_⟩
  · -- the user of the new row is that of every row under the other spelling
    have hnew : ∀ (w : Wallet), address ∈ w.spellings → ∀ a ∈ w.spellings, a ≠ address →
        ∀ row ∈ st.links a, row.Username = username := by
      intro w haw a haw' haddr row hold
      rcases mem_spellings_cases haw haw' with rfl | rfl
      · exact absurd rfl haddr
      · exact hother row hold
    intro w a haw a' haw' row hrow₁ row' hrow₂
    rcases (hrow a row).1 hrow₁ with ⟨rfl, rfl⟩ | ⟨haddr, hold⟩
    · rcases (hrow a' row').1 hrow₂ with ⟨rfl, rfl⟩ | ⟨haddr', hold'⟩
      · rfl
      · exact (hnew w haw a' haw' haddr' row' hold').symm
    · rcases (hrow a' row').1 hrow₂ with ⟨rfl, rfl⟩ | ⟨haddr', hold'⟩
      · exact hnew w haw' a haw haddr row hold
      · exact h.oneUser w a haw a' haw' row hold row' hold'
  · intro a u
    rw [credentials_linkRows hu ha]
    constructor
    · rintro ⟨row, hmem, rfl⟩
      rcases (hrow a row).1 hmem with ⟨rfl, rfl⟩ | ⟨haddr, hold⟩
      · rw [if_pos rfl]
      · rw [if_neg fun heq => haddr (congrArg Prod.snd heq)]
        exact (h.paired a row.Username).1 ⟨row, hold, rfl⟩
    · intro hsome
      by_cases hkey : (u, a) = (username, address)
      · obtain ⟨rfl, rfl⟩ := Prod.mk.inj hkey
        exact ⟨_, (hrow a _).2 (Or.inl ⟨rfl, rfl⟩), rfl⟩
      · rw [if_neg hkey] at hsome
        obtain ⟨row, hold, hname⟩ := (h.paired a u).2 hsome
        refine ⟨row, (hrow a row).2 (Or.inr ⟨fun haddr => ?_, hold⟩), hname⟩
        rw [haddr, hfree] at hold
        cases hold
  · intro a row hmem
    rcases (hrow a row).1 hmem with ⟨rfl, rfl⟩ | ⟨-, hold⟩
    · exact ⟨hu, hne⟩
    · exact h.named a row hold

/-- What a write leaves behind. -/
theorem handle_write (ws : List Write) (c : Choice) (st : Store) :
    (handle (.write ws) c st).2 = st ∨
      ws.all (Write.allowed st) = true ∧ (handle (.write ws) c st).2 = ws.foldl Write.apply st := by
  have hsnd : (handle (.write ws) c st).2 = st ∨ (handle (.write ws) c st).2 = (st.write ws).2 :=
    attempt_snd c st (st.write ws)
  rcases write_cases st ws with ⟨hall, hw⟩ | ⟨-, hw⟩
  · rw [hw] at hsnd
    exact hsnd.imp_right fun h => ⟨hall, h⟩
  · rw [hw] at hsnd
    exact Or.inl (hsnd.elim id id)

/-- An operation that writes no half of a link. -/
def Op.linkless : Op → Prop
  | .write ws => ∀ w ∈ ws, w.linkless = true
  | _ => True

theorem handle_linkless {o : Op} (h : o.linkless) (c : Choice) (st : Store) :
    (handle o c st).2.walletIndexes = st.walletIndexes ∧
      (handle o c st).2.walletCredentials = st.walletCredentials := by
  have hread : (handle o c st).2 = st → (handle o c st).2.walletIndexes = st.walletIndexes ∧
      (handle o c st).2.walletCredentials = st.walletCredentials := fun heq => by
    rw [heq]
    exact ⟨rfl, rfl⟩
  cases o with
  | now => exact ⟨rfl, rfl⟩
  | write ws =>
      rcases handle_write ws c st with hsame | ⟨-, hdone⟩
      · exact hread hsame
      · rw [hdone]
        exact foldl_linkless h st
  | _ => exact hread (attempt_read c st _)

theorem Write.quiet.linkless {w : Write} (h : w.quiet) : w.linkless = true := by
  cases w with
  | createWalletCredential c => exact h.elim
  | createWalletIndex i => exact h.elim
  | _ => rfl

theorem Op.quiet.linkless {o : Op} (h : o.quiet) : o.linkless := by
  cases o with
  | write ws => exact fun w hw => (h w hw).linkless
  | _ => trivial

/-! ## What a login remembers -/

section Runs

variable {ι : Type} [DecidableEq ι] {s t : Traced ι Op Store Choice} {i : ι} {address linked : String}

abbrev WalletEvent (ι : Type) := Event ι Op Store Choice

/-- The program looks a wallet up. -/
def looksUp (i : ι) (e : WalletEvent ι) : Bool :=
  match e.op with
  | .firstWalletIndex _ _ => decide (e.who = i)
  | _ => false

/-- The events since the program last looked a wallet up, the newest first. -/
def sinceLookup (i : ι) (log : List (WalletEvent ι)) : List (WalletEvent ι) :=
  log.reverse.takeWhile fun e => !looksUp i e

def relinks (address : String) (e : WalletEvent ι) : Bool :=
  e.before.linkedName address != e.after.linkedName address

/-- Only one row of a link. -/
def half : List Write → Bool
  | [.createWalletCredential _] => true
  | [.createWalletIndex _] => true
  | _ => false

/-- The address of an index row was not linked since the program looked a wallet up, and under its other
    spelling the wallet has no other user. -/
def Undisturbed (i : ι) (s : Traced ι Op Store Choice) : Write → Prop
  | .createWalletIndex row =>
      (∀ e ∈ sinceLookup i s.log, relinks row.Address e = false) ∧
        ∀ row' ∈ s.state.links (otherSpelling row.Address), row'.Username = row.Username
  | _ => True

instance (i : ι) (s : Traced ι Op Store Choice) (w : Write) : Decidable (Undisturbed i s w) := by
  cases w <;> unfold Undisturbed <;> infer_instance

/-- A write that is carried out writes no row of a link alone, and no link that something has overtaken. -/
def UnracedLinks : ι → Op → Choice → Traced ι Op Store Choice → Prop
  | i, .write ws, _, s =>
      ws.all (Write.allowed s.state) = true → half ws = false ∧ ∀ w ∈ ws, Undisturbed i s w
  | _, _, _, _ => True

instance (i : ι) (o : Op) (c : Choice) (s : Traced ι Op Store Choice) :
    Decidable (UnracedLinks i o c s) := by
  cases o <;> unfold UnracedLinks <;> infer_instance

/-- The name that was found is the name of the address until it is linked. -/
def RemembersLink (i : ι) (address linked : String) (s : Traced ι Op Store Choice) : Prop :=
  (∀ e ∈ sinceLookup i s.log, relinks address e = false) → s.state.linkedName address = linked

theorem sinceLookup_append (log : List (WalletEvent ι)) (e : WalletEvent ι) :
    sinceLookup i (log ++ [e]) = if looksUp i e then [] else e :: sinceLookup i log :=
  latest_append (looksUp i) log e

/-- Whatever is done, other than looking up again. -/
theorem RemembersLink.handle (h : RemembersLink i address linked s) {j : ι} {o : Op} {c : Choice}
    (ho : looksUp i (⟨j, o, c, s.state, (handle o c s.state).2⟩ : WalletEvent ι) = false) :
    RemembersLink i address linked ((Traced.env storeEnv j).handle o c s).2 := by
  unfold RemembersLink
  rw [Traced.handle_log, show storeEnv.handle o c s.state = ControlPlane.handle o c s.state from rfl,
    sinceLookup_append, ho]
  intro hquiet
  obtain ⟨hnow, hquiet⟩ := List.forall_mem_cons.1 hquiet
  have hsame : s.state.linkedName address = (ControlPlane.handle o c s.state).2.linkedName address := by
    simpa [relinks] using hnow
  exact hsame.symm.trans (h hquiet)

/-! ## The requests -/

def walletContract : ι → Contract Op (Traced ι Op Store Choice) Choice :=
  Traced.contract storeEnv (fun s => LinksKept s.state) UnracedLinks

theorem RemembersLink.rely (h : RemembersLink i address linked s) (hrely : (walletContract i).rely s t) :
    RemembersLink i address linked t := by
  refine Traced.Others.keeps hrely (fun j o c s hj hs => RemembersLink.handle hs ?_) h
  unfold looksUp
  dsimp only
  split
  · exact decide_eq_false hj
  · rfl

omit [DecidableEq ι] in
theorem LinksKept.handle (h : LinksKept s.state) {o : Op} (ho : o.linkless) (c : Choice) :
    LinksKept ((Traced.env storeEnv i).handle o c s).2.state := by
  obtain ⟨hlinks, hcreds⟩ := handle_linkless ho c s.state
  exact h.congr hlinks hcreds

/-- The operations that add no link, or only half of one. -/
def Op.unlinked : Op → Prop
  | .write ws => (∀ w ∈ ws, w.linkless = true) ∨ half ws = true
  | _ => True

theorem Op.linkless.unlinked {o : Op} (h : o.linkless) : o.unlinked := by
  cases o with
  | write ws => exact Or.inl h
  | _ => trivial

omit [DecidableEq ι] in
theorem Op.unlinked.linkless_or_half {o : Op} (h : o.unlinked) :
    o.linkless ∨ ∃ ws, o = .write ws ∧ half ws = true := by
  cases o with
  | write ws => exact h.imp_right fun hhalf => ⟨ws, rfl, hhalf⟩
  | _ => exact Or.inl trivial

theorem LinksKept.unlinkedOp (h : LinksKept s.state) {o : Op} (ho : o.unlinked) {c : Choice}
    (hrace : UnracedLinks i o c s) : LinksKept ((Traced.env storeEnv i).handle o c s).2.state := by
  rcases ho.linkless_or_half with hlinkless | ⟨ws, rfl, hhalf⟩
  · exact LinksKept.handle h hlinkless c
  · -- half a link is not carried out
    show LinksKept (ControlPlane.handle (.write ws) c s.state).2
    rcases handle_write ws c s.state with hsame | ⟨hall, -⟩
    · rw [hsame]
      exact h
    · rw [(hrace hall).1] at hhalf
      cases hhalf

theorem meets_unlinked {α : Type} {p : Handler α} (hp : p.Only Op.unlinked)
    (s : Traced ι Op Store Choice) :
    p.Meets (Traced.env storeEnv i) (walletContract i) (Answering fun _ _ => True) s := by
  refine (meets_of_steps (F := fun _ => True) (fun o c t ho hinv hrace _ => ?_) (fun _ _ _ _ => trivial) hp
    trivial).mono fun r t _ => by cases r <;> trivial
  exact ⟨LinksKept.unlinkedOp hinv ho hrace, Traced.contract_guar o c t, trivial⟩

theorem meets_quiet {α : Type} {p : Handler α} (hp : p.Only Op.quiet) (s : Traced ι Op Store Choice) :
    p.Meets (Traced.env storeEnv i) (walletContract i) (Answering fun _ _ => True) s :=
  meets_unlinked (hp.mono fun _ h => h.linkless.unlinked) s

/-- An operation between the look-up and the link. -/
theorem meets_between {o : Op} (ho : o.linkless)
    (hlookup : ∀ walletType a, o ≠ .firstWalletIndex walletType a) (h : RemembersLink i address linked s) :
    Meets (Traced.env storeEnv i) (walletContract i)
      (Answering fun _ t => RemembersLink i address linked t) (perform o : Handler (Op.Res o)) s := by
  refine answers_perform fun t ht hinv c _ => ⟨LinksKept.handle hinv ho c, Traced.contract_guar o c t,
    fun u hu _ => RemembersLink.rely (RemembersLink.handle (h.rely ht) ?_) hu⟩
  unfold looksUp
  split
  · next walletType a hop => exact absurd hop (hlookup walletType a)
  · rfl

/-- The write of a link whose wallet nobody else has linked since. -/
theorem LinksKept.writeLink (h : LinksKept s.state) {username : String} (hu : TrimSpace username = username)
    (hne : username ≠ "") (ha : ToLower (TrimSpace address) = address)
    (hmemory : RemembersLink i address linked s) (hlinked : ¬(linked ≠ "" ∧ linked ≠ username))
    {first : List Write} (hfirst : ∀ w ∈ first, w.linkless = true) {chainID : Int} {now : Time} {c : Choice}
    (hrace : UnracedLinks i (.write (first ++ Server.linkRows username address chainID now)) c s) :
    LinksKept ((Traced.env storeEnv i).handle
      (.write (first ++ Server.linkRows username address chainID now)) c s).2.state := by
  show LinksKept (ControlPlane.handle (.write _) c s.state).2
  rcases handle_write (first ++ Server.linkRows username address chainID now) c s.state with
    hsame | ⟨hall, hdone⟩
  · rw [hsame]
    exact h
  · have hrow : Write.createWalletIndex ⟨username, Server.walletTypeEthereum, address⟩
        ∈ first ++ Server.linkRows username address chainID now := by
      refine List.mem_append_right _ ?_
      unfold Server.linkRows
      simp only [WalletIndex.UpdateKeys, hu, ha, List.mem_cons, or_true, true_or]
    obtain ⟨hquiet, hother⟩ := (hrace hall).2 _ hrow
    have hname : s.state.linkedName address = linked := hmemory hquiet
    have hfree : s.state.links address = [] := by
      by_cases hempty : linked = ""
      · exact h.unlinked (hname.trans hempty)
      · -- the user is linked already, so that the write is refused
        have hself : linked = username := by
          by_contra hdiff
          exact hlinked ⟨hempty, hdiff⟩
        obtain ⟨row, hmem, hrowname⟩ := h.linked (hname.trans hself) hne
        have hallowed := List.all_eq_true.1 hall _ hrow
        have hrefused := List.all_eq_true.1 hallowed row hmem
        rw [hrowname] at hrefused
        simp at hrefused
    rw [hdone, List.foldl_append]
    obtain ⟨hlinks, hcreds⟩ := foldl_linkless hfirst s.state
    have hkept := h.congr hlinks hcreds
    refine hkept.link hu hne ha ?_ ?_ chainID now
    · rw [Store.links, hlinks]
      exact hfree
    · rw [Store.links, hlinks]
      exact hother

/-! ### The portal's login -/

theorem meets_validatePortalWalletLoginChallenge {server : Server} (req : portalWalletLoginRequest)
    (s : Traced ι Op Store Choice) :
    (server.validatePortalWalletLoginChallenge req).Meets (Traced.env storeEnv i) (walletContract i)
      (Answering fun r _ => TrimSpace r.2.1 = r.2.1 ∧ ToLower (TrimSpace r.2.2) = r.2.2) s := by
  unfold Server.validatePortalWalletLoginChallenge
  refine answers_bind (meets_quiet (findWalletChallenge_only _) s) fun challenge t _ =>
    meets_ite (fun _ => answers_fail) fun _ => meets_ite (fun _ => answers_fail) fun _ =>
      meets_ite (fun _ => answers_fail) fun _ => meets_ite (fun _ => answers_fail) fun _ => ?_
  refine answers_bind (meets_quiet (redeemWalletChallenge_only _) t) fun _ u _ => answers_pure fun _ _ _ =>
    ⟨TrimSpace_idem _, ?_⟩
  dsimp only
  rw [TrimSpace_ToLower_TrimSpace, ToLower_idem]

theorem meets_walletLinkedUsername (ha : ToLower (TrimSpace address) = address)
    (s : Traced ι Op Store Choice) :
    (Server.walletLinkedUsername Server.walletTypeEthereum address).Meets (Traced.env storeEnv i)
      (walletContract i) (Answering fun r t => ∀ linked, r = .ok linked → RemembersLink i address linked t)
      s := by
  have htype : (if TrimSpace Server.walletTypeEthereum = "" then Server.walletTypeEthereum
      else TrimSpace Server.walletTypeEthereum) = Server.walletTypeEthereum := by decide
  unfold Server.walletLinkedUsername
  dsimp only
  rw [htype, ha]
  refine meets_ite (fun _ => answers_pure fun _ _ _ linked h => nomatch h) fun _ => ?_
  refine answers_bind (R := fun r t => ∀ linked, (r = .error .notFound ∧ linked = "" ∨
    ∃ row, r = .ok row ∧ linked = TrimSpace row.Username) → RemembersLink i address linked t) ?_
    fun r t hr => ?_
  · refine answers_perform (o := Op.firstWalletIndex Server.walletTypeEthereum address) fun t _ hinv c _ =>
      ⟨LinksKept.handle hinv (o := .firstWalletIndex Server.walletTypeEthereum address) trivial c,
        Traced.contract_guar _ c t, fun u hu _ linked hlinked => ?_⟩
    refine RemembersLink.rely (fun _ => ?_) hu
    obtain ⟨r, hres, hok, hnone⟩ := attempt_lookup c t.state
      (t.state.walletIndexes Server.walletTypeEthereum address).head?
    have hhandle : storeEnv.handle (.firstWalletIndex Server.walletTypeEthereum address) c t.state
        = (r, t.state) := hres
    rw [Traced.handle_state, hhandle]
    rw [Traced.handle_res, hhandle] at hlinked
    unfold Store.linkedName
    rcases hlinked with ⟨hmiss, rfl⟩ | ⟨row, hfound, rfl⟩
    · rw [hnone hmiss]
    · rw [hok row hfound]
  · rcases r with (_ | _ | _) | row
    · exact answers_pure fun u hu _ linked h => (hr linked (Or.inl ⟨rfl, (Except.ok.inj h).symm⟩)).rely hu
    · exact answers_pure fun _ _ _ linked h => nomatch h
    · exact answers_pure fun _ _ _ linked h => nomatch h
    · exact answers_pure fun u hu _ linked h =>
        (hr linked (Or.inr ⟨row, rfl, (Except.ok.inj h).symm⟩)).rely hu

omit [DecidableEq ι] in
theorem write_one_unlinked {w : Write} (h : w.linkless = true) : (write [w]).Only Op.unlinked :=
  (only_perform _).2 (Or.inl fun _ hw => List.mem_singleton.1 hw ▸ h)

theorem fillUserEmail_unlinked (user : User) (username email : String) :
    (Server.fillUserEmail user username email).Only Op.unlinked :=
  only_ite (only_bind (write_one_unlinked rfl) fun _ => only_pure _) (only_pure _)

/-- The write of a link from a login. -/
theorem meets_writeLink (first : List Write) {username : String} (hu : TrimSpace username = username)
    (hne : username ≠ "") (ha : ToLower (TrimSpace address) = address) (hlinked : ¬(linked ≠ "" ∧ linked ≠ username))
    (hfirst : ∀ w ∈ first, w.linkless = true) {chainID : Int} {now : Time}
    (h : RemembersLink i address linked s) :
    (write (first ++ Server.linkRows username address chainID now)).Meets (Traced.env storeEnv i)
      (walletContract i) (Answering fun _ _ => True) s :=
  answers_perform fun _ ht hinv c hrace =>
    ⟨LinksKept.writeLink hinv hu hne ha (h.rely ht) hlinked hfirst hrace, Traced.contract_guar _ c _,
      fun _ _ _ => trivial⟩

theorem meets_ensurePortalWalletUser {username : String} (hu : TrimSpace username = username)
    (ha : ToLower (TrimSpace address) = address) (hlinked : ¬(linked ≠ "" ∧ linked ≠ username))
    {chainID : Int} {email displayName : String} {now : Time} (h : RemembersLink i address linked s) :
    (Server.ensurePortalWalletUser username address chainID linked email displayName now).Meets
      (Traced.env storeEnv i) (walletContract i) (Answering fun _ _ => True) s := by
  unfold Server.ensurePortalWalletUser
  cases hvalid : ValidateManagedHandle username with
  | error e => exact answers_fail
  | ok normalizedUsername =>
      obtain rfl := ValidateManagedHandle_eq hvalid
      refine meets_ite (fun _ => answers_fail) fun hne => ?_
      refine answers_bind (R := fun _ t => RemembersLink i address linked t) ?_ fun found t ht => ?_
      · refine answers_bind (meets_between (o := .getUser normalizedUsername) trivial
          (fun _ _ hop => nomatch hop) h) fun r t ht => ?_
        rcases r with (_ | _ | _) | user
        · exact answers_pure fun u hu' _ => ht.rely hu'
        · exact answers_fail
        · exact answers_fail
        · exact answers_pure fun u hu' _ => ht.rely hu'
      · rcases found with _ | user
        · refine answers_bind (meets_writeLink [.createUser _] hu hne ha hlinked
            (fun w hw => List.mem_singleton.1 hw ▸ rfl) ht) fun r t' _ => ?_
          rcases r with (_ | _ | _) | ⟨⟩
          · exact answers_fail
          · refine meets_unlinked (only_bind ((only_perform (Op.getUser _)).2 trivial) fun r => ?_) t'
            rcases r with e | user
            · exact only_pure _
            · exact only_pure _
          · exact answers_fail
          · exact answers_pure fun _ _ _ => trivial
        · refine meets_ite (fun _ => answers_bind (R := fun _ _ => True) ?_ fun _ _ _ =>
            answers_pure fun _ _ _ => trivial) fun _ => answers_pure fun _ _ _ => trivial
          refine meets_ite (fun _ => answers_fail) fun _ => ?_
          refine answers_bind (meets_writeLink [] hu hne ha hlinked (fun w hw => nomatch hw) ht)
            fun r t' _ => ?_
          rcases r with (_ | _ | _) | ⟨⟩
          · exact answers_fail
          · exact meets_unlinked (fillUserEmail_unlinked _ _ _) t'
          · exact answers_fail
          · exact meets_unlinked (fillUserEmail_unlinked _ _ _) t'

omit [DecidableEq ι] in
theorem quiet_unlinked {α : Type} {p : Handler α} (hp : p.Only Op.quiet) : p.Only Op.unlinked :=
  hp.mono fun _ h => h.linkless.unlinked

omit [DecidableEq ι] in
theorem createOperatorSession_unlinked (server : Server) (username role method : String) :
    (server.createOperatorSession username role method).Only Op.unlinked := by
  refine only_bind (quiet_unlinked now_only) fun now => only_bind (quiet_unlinked newToken_only) fun r => ?_
  rcases r with e | token
  · exact only_pure _
  · refine only_bind (write_one_unlinked rfl) fun r => ?_
    rcases r with e | ⟨⟩
    · exact only_pure _
    · exact only_pure _

theorem meets_handlePortalWalletLogin (server : Server) (ctx : Context)
    (body : Body portalWalletLoginRequest) (s : Traced ι Op Store Choice) :
    (server.handlePortalWalletLogin ctx body).Meets (Traced.env storeEnv i) (walletContract i)
      (Answering fun _ _ => True) s := by
  unfold Server.handlePortalWalletLogin
  refine answers_bind (meets_quiet ?_ s) fun req t _ => ?_
  · exact only_bind (ParseJSON_only _) fun _ => only_bind (checkWalletVerifyRequest_only _ _) fun _ =>
      only_pure _
  · refine answers_bind (meets_validatePortalWalletLoginChallenge req t) ?_
    rintro ⟨challenge, username, address⟩ t ⟨hu, ha⟩
    refine answers_bind (meets_walletLinkedUsername ha t) fun r t hr => ?_
    rcases r with e | linked
    · exact answers_fail
    · refine meets_ite (fun _ => answers_fail) fun hlinked => ?_
      refine answers_bind (meets_between (o := .now) trivial (fun _ _ hop => nomatch hop) (hr linked rfl))
        fun now t ht => ?_
      refine answers_bind (meets_ensurePortalWalletUser hu ha hlinked ht) fun user t _ => ?_
      refine meets_unlinked (only_bind (createOperatorSession_unlinked _ _ _ _) fun r => ?_) t
      rcases r with e | ⟨token, expiresAt⟩
      · exact only_fail _
      · exact only_bind (quiet_unlinked (tryWriteAuditLog_only _ _)) fun _ => only_pure _

/-! ### The other requests -/

omit [DecidableEq ι] in
theorem handleWalletLogin_unlinked (server : Server) (ctx : Context) (body : Body walletVerifyRequest) :
    (server.handleWalletLogin ctx body).Only Op.unlinked := by
  refine only_bind (quiet_unlinked (only_bind (ParseJSON_only _) fun _ =>
    checkWalletVerifyRequest_only _ _)) fun req => only_bind (quiet_unlinked ?_) fun username => ?_
  · refine only_bind (findWalletChallenge_only _) fun challenge => only_ite (only_fail _)
      (only_ite (only_fail _) (only_ite (only_fail _) (only_ite (only_fail _)
        (only_bind (redeemWalletChallenge_only _) fun _ => only_bind (walletLinkedUsername_only _ _)
          fun r => ?_))))
    rcases r with e | linked
    · exact only_fail _
    · exact only_ite (only_fail _) (only_ite (only_fail _) (only_pure _))
  · refine only_bind ((only_perform (Op.getUser _)).2 trivial) fun r => ?_
    rcases r with e | user
    · exact only_fail _
    · refine only_bind (createOperatorSession_unlinked _ _ _ _) fun r => ?_
      rcases r with e | ⟨token, expiresAt⟩
      · exact only_fail _
      · exact only_bind (quiet_unlinked now_only) fun _ =>
          only_bind (quiet_unlinked (writeAuditLog_only _)) fun _ => only_pure _

omit [DecidableEq ι] in
theorem writeLink_unlinked {w : Write} (h : half [w] = true) : (Server.writeLink w).Only Op.unlinked := by
  refine only_bind ((only_perform _).2 (Or.inr h)) fun r => ?_
  rcases r with e | ⟨⟩
  · exact only_fail _
  · exact only_pure _

omit [DecidableEq ι] in
theorem handleSetupCreateAdminWithWallet_unlinked (server : Server) (ctx : Context)
    (username displayName : String) (wallet : walletVerifyRequest) :
    (server.handleSetupCreateAdminWithWallet ctx username displayName wallet).Only Op.unlinked := by
  refine only_bind (quiet_unlinked (rejectBootstrapWalletAsSetupAdmin_only _)) fun _ =>
    only_bind (quiet_unlinked (verifySetupCreateAdminWallet_only _ _)) fun _ =>
      only_bind (quiet_unlinked now_only) fun now => only_bind ?_ fun _ => only_bind ?_ fun _ =>
        only_bind (quiet_unlinked (setControlPlanePrimaryAdmin_only _)) fun _ =>
          only_bind (quiet_unlinked (writeAuditLog_only _)) fun _ => only_pure _
  · refine only_bind (write_one_unlinked rfl) fun r => ?_
    rcases r with (_ | _ | _) | ⟨⟩
    · exact only_fail _
    · exact only_fail _
    · exact only_fail _
    · exact only_pure _
  · exact only_bind (writeLink_unlinked rfl) fun _ => writeLink_unlinked rfl

omit [DecidableEq ι] in
theorem handleSetupCreateAdminWithPasskey_unlinked (server : Server) (ctx : Context)
    (username displayName : String) (passkey : webAuthnFinishRegistrationRequest) :
    (server.handleSetupCreateAdminWithPasskey ctx username displayName passkey).Only Op.unlinked := by
  refine only_bind (quiet_unlinked ?_) fun library => only_bind (quiet_unlinked
    (setupAdminExistingUserConflict_only _)) fun _ => only_bind (quiet_unlinked
      (completeWebAuthnRegistration_only _ _ _ _ _)) fun stored =>
        only_bind (quiet_unlinked newToken_only) fun r => ?_
  · unfold Server.ensureWebAuthnConfigured
    split
    · exact only_pure _
    · exact only_fail _
  · rcases r with e | token
    · exact only_fail _
    · refine only_bind ((only_perform (Op.write _)).2 (Or.inl ?_)) fun r => ?_
      · simp [Write.linkless]
      · rcases r with (_ | _ | _) | ⟨⟩
        · exact only_fail _
        · exact quiet_unlinked (mapSetupPasskeyCreateAdminConditionFailure_only _ _)
        · exact only_fail _
        · exact only_pure _

omit [DecidableEq ι] in
theorem handleSetupCreateAdmin_unlinked (server : Server) (ctx : Context)
    (body : Body setupCreateAdminRequest) :
    (server.handleSetupCreateAdmin ctx body).Only Op.unlinked := by
  refine only_bind (quiet_unlinked (validateSetupCreateAdminState_only _)) fun _ =>
    only_bind (quiet_unlinked (parseSetupCreateAdminRequestInput_only _)) ?_
  rintro ⟨username, displayName, wallet | passkey⟩
  · exact handleSetupCreateAdminWithWallet_unlinked server ctx username displayName wallet
  · exact handleSetupCreateAdminWithPasskey_unlinked server ctx username displayName passkey

theorem meets_serve (server : Server) (req : Request) (s : Traced ι Op Store Choice) :
    (server.serve req).Meets (Traced.env storeEnv i) (walletContract i) (Answering fun _ _ => True) s := by
  cases req with
  | walletLogin ctx body =>
      exact meets_unlinked (only_bind (handleWalletLogin_unlinked server ctx body) fun _ => only_pure _) s
  | portalWalletLogin ctx body =>
      exact answers_bind (meets_handlePortalWalletLogin server ctx body s) fun _ _ _ =>
        answers_pure fun _ _ _ => trivial
  | setupCreateAdmin ctx body =>
      exact meets_unlinked (only_bind (handleSetupCreateAdmin_unlinked server ctx body) fun _ =>
        only_pure _) s
  | walletChallenge body => exact meets_quiet (@serve_only_of_quiet server (.walletChallenge body) trivial) s
  | portalWalletChallenge body =>
      exact meets_quiet (@serve_only_of_quiet server (.portalWalletChallenge body) trivial) s
  | setupBootstrapChallenge body =>
      exact meets_quiet (@serve_only_of_quiet server (.setupBootstrapChallenge body) trivial) s
  | setupBootstrapVerify body =>
      exact meets_quiet (@serve_only_of_quiet server (.setupBootstrapVerify body) trivial) s
  | setupWebAuthnRegisterBegin ctx body =>
      exact meets_quiet (@serve_only_of_quiet server (.setupWebAuthnRegisterBegin ctx body) trivial) s
  | setupFinalize ctx => exact meets_quiet (@serve_only_of_quiet server (.setupFinalize ctx) trivial) s

/-! ## Runs -/

/-- Any number of requests, none of which has begun. -/
def walletRequests (server : Server) (request : ι → Request) (st : Store) :
    Config ι Op Op.Res AppTheoryError Unit (Traced ι Op Store Choice) where
  state := .start st
  threads i := server.serve (request i)

/-- **A wallet is linked to one user** in any interleaving in which no row of a link is written alone and
    no link is written that something has overtaken. -/
theorem links_sound (server : Server) (request : ι → Request) (st : Store) (hst : LinksKept st)
    (ms : List (ι × Choice))
    (h : Along (Config.step (Traced.env storeEnv)) (Config.Performs UnracedLinks)
      (walletRequests server request st) ms) :
    LinksSound ((walletRequests server request st).run (Traced.env storeEnv) ms).state.state := by
  have hfits : Fits (Traced.env storeEnv) (fun i => walletContract i) (fun s => LinksKept s.state)
      (fun _ => Answering fun _ _ => True) (walletRequests server request st) :=
    ⟨hst, fun i => meets_serve server (request i) _⟩
  exact (hfits.run Traced.contract_compatible h).inv.toLinksSound

end Runs

/-! ### Two logins that look up before either links -/

/-- The customer has signed the message of both challenges. -/
def signedEthereum : Ethereum where
  Decode signature := if signature = "0x01" then some (List.replicate 65 1) else none
  recover message sig := if message = "m" ∧ sig = List.replicate 65 1 then some customerWallet else none

def linkServer : Server := { sampleServer with ethereum := signedEthereum }

/-- A challenge of the customer's wallet in someone's name. -/
def namedChallenge (id username : String) : WalletChallenge where
  ID := id
  Username := username
  Address := walletAddress customerWallet
  ChainID := 1
  Nonce := id
  Message := "m"
  IssuedAt := sampleNow
  ExpiresAt := sampleNow.Add walletChallengeDuration
  Used := false
  Spent := false

def challenged : Store :=
  { Store.empty sampleNow with
    walletChallenges := fun id =>
      if id = "c1" then some (namedChallenge "c1" "alice")
      else if id = "c2" then some (namedChallenge "c2" "bob") else none }

theorem challenged_kept : LinksKept challenged where
  oneUser _ _ _ _ _ _ hrow := nomatch hrow
  paired _ _ := ⟨fun ⟨_, hrow, _⟩ => (nomatch hrow), fun h => (nomatch h)⟩
  named _ _ hrow := nomatch hrow

/-- The same wallet logs in as two users. -/
def linkLogins (who : Bool) : Request :=
  .portalWalletLogin ⟨"request", "", "", ""⟩
    (.ok ⟨if who then "c1" else "c2", walletAddress customerWallet, "0x01", "m", "", ""⟩)

def linkMoves (turns : List Bool) : List (Bool × Choice) := turns.map fun who => (who, Choice.ok "token")

/-- Both have looked the wallet up before the second links it. -/
def linkRace : List (Bool × Choice) :=
  linkMoves [true, true, true, true, true, true, false, false, false, false, false, false, false, true]

theorem linkRace_rows :
    (((walletRequests linkServer linkLogins challenged).run (Traced.env storeEnv)
      linkRace).state.state.links (walletAddress customerWallet)).map (·.Username) = ["alice", "bob"] := by
  decide +kernel

/-- The wallet has two users. -/
theorem not_links_sound :
    ¬ ∀ (ι : Type) [DecidableEq ι] (server : Server) (request : ι → Request) (st : Store)
      (ms : List (ι × Choice)), LinksKept st →
        LinksSound ((walletRequests server request st).run (Traced.env storeEnv) ms).state.state := by
  intro h
  have hsound := h Bool linkServer linkLogins challenged linkRace challenged_kept
  have hspelled : walletAddress customerWallet ∈ customerWallet.spellings :=
    List.mem_cons_of_mem _ List.mem_cons_self
  have hrows := linkRace_rows
  obtain ⟨alice, halice, hname⟩ := List.mem_map.1 (hrows ▸ List.mem_cons_self :
    "alice" ∈ List.map _ _)
  obtain ⟨bob, hbob, hname'⟩ := List.mem_map.1 (hrows ▸ List.mem_cons_of_mem _ List.mem_cons_self :
    "bob" ∈ List.map _ _)
  have hsame := hsound.oneUser customerWallet _ hspelled _ hspelled alice halice bob hbob
  rw [hname, hname'] at hsame
  exact absurd hsame (by decide)

/-- One after the other: the second login is refused. -/
theorem links_sound_turns :
    LinksSound ((walletRequests linkServer linkLogins challenged).run (Traced.env storeEnv)
      (linkMoves [true, true, true, true, true, true, true, false, false, false, false])).state.state :=
  links_sound linkServer linkLogins challenged challenged_kept _ (by decide +kernel)

end LesserHost.ControlPlane
