import LesserHost.ControlPlane.Endpoints

set_option autoImplicit false

/-! # Links of wallets, and what a login may do

Every public endpoint is a request here, of honest users and of an adversary alike: a request is
signed by the wallet its signature recovers to, and that signatures cannot be forged is what makes
this the wallet of whoever sent it.

`LoginSafe` is what a single request may do: a session is for a user the signing wallet was linked
to, or for a user the request created for it, and has the user's stored role; a link is added only
to a user who did not exist. The portal login breaks it in one situation, `takesOver`: an unlinked
wallet redeems a challenge that names a customer who exists already. -/

namespace LesserHost.ControlPlane

open LesserHost.Go Prog

/-! ## Wallets and links -/

/-- The forms in which the address of a wallet is stored. -/
def Wallet.spellings (w : Wallet) : List String := [w.hex, "0x" ++ w.hex]

/-- The wallet is linked to the user. -/
def Store.Linked (st : Store) (w : Wallet) (u : String) : Prop :=
  ∃ address ∈ w.spellings, ∃ row ∈ st.walletIndexes Server.walletTypeEthereum address,
    TrimSpace row.Username = u

instance (st : Store) (w : Wallet) (u : String) : Decidable (st.Linked w u) :=
  inferInstanceAs (Decidable (∃ address ∈ w.spellings, _))

/-- The user an address is linked to, or the empty text: the first row of its partition. -/
def Store.linkedName (st : Store) (address : String) : String :=
  match (st.walletIndexes Server.walletTypeEthereum address).head? with
  | some row => TrimSpace row.Username
  | none => ""

theorem Wallet.hex_length (w : Wallet) : w.hex.toList.length = 40 := by
  rw [Wallet.hex, String.toList_ofList, hexEncode_length, Vector.length_toList]

/-- A lower-case address is one of the two spellings of the wallet it spells. -/
theorem mem_spellings {address : String} {w : Wallet} (h : spells address w = true)
    (hlower : ToLower address = address) : address ∈ w.spellings := by
  have hhex : w.hex = ToLower (TrimPrefix address "0x") := by simpa [spells] using h
  unfold TrimPrefix at hhex
  split_ifs at hhex with hpre
  · -- what follows the prefix is in lower case as well
    obtain ⟨rest, hrest⟩ := List.isPrefixOf_iff_prefix.1 hpre
    have hmap : address.toList.map toLowerChar = address.toList := by
      rw [← toList_ToLower, hlower]
    rw [← hrest, List.map_append] at hmap
    have hlow := (List.append_inj hmap (by simp)).2
    have hw : w.hex = String.ofList rest := by
      rw [hhex, ToLower, String.toList_ofList, ← hrest, List.drop_left, hlow]
    refine List.mem_cons_of_mem _ (List.mem_singleton.2 ?_)
    have hlist : (String.ofList rest).toList = rest := String.toList_ofList
    rw [hw, ← String.toList_inj, String.toList_append, hlist, hrest]
  · rw [hlower] at hhex
    rw [← hhex]
    exact List.mem_cons_self

/-- Two wallets with a spelling in common have the same spellings. -/
theorem spellings_eq {w w' : Wallet} {address : String} (h : address ∈ w.spellings)
    (h' : address ∈ w'.spellings) : w'.spellings = w.spellings := by
  have hhex : w'.hex = w.hex := by
    have hl := w.hex_length
    have hl' := w'.hex_length
    simp only [Wallet.spellings, List.mem_cons, List.not_mem_nil, or_false] at h h'
    rcases h with rfl | rfl <;> rcases h' with h' | h'
    · exact h'.symm
    · rw [h', String.toList_append, List.length_append, hl'] at hl
      exact absurd hl (by decide)
    · rw [← h', String.toList_append, List.length_append, hl] at hl'
      exact absurd hl' (by decide)
    · rw [← String.toList_inj, String.toList_append, String.toList_append] at h'
      exact String.toList_inj.1 (List.append_cancel_left h').symm
  rw [Wallet.spellings, Wallet.spellings, hhex]

theorem Store.Linked.of_linkedName {st : Store} {address u : String} {w : Wallet}
    (h : address ∈ w.spellings) (hu : st.linkedName address = u) (hne : u ≠ "") : st.Linked w u := by
  unfold Store.linkedName at hu
  split at hu
  · next row hrow => exact ⟨address, h, row, List.mem_of_head? hrow, hu⟩
  · exact absurd hu.symm hne

theorem SameAuth.linked {st st' : Store} (h : SameAuth st st') {w : Wallet} {u : String} :
    st'.Linked w u ↔ st.Linked w u := by
  unfold Store.Linked
  rw [h.links]

theorem Evolves.linked {g : Grant} {st st' : Store} (h : Evolves g st st') {w : Wallet} {u : String}
    (hl : st.Linked w u) : st'.Linked w u := by
  obtain ⟨address, ha, row, hrow, hu⟩ := hl
  exact ⟨address, ha, row, h.linksKept _ _ hrow, hu⟩

theorem Evolves.linked_cases {g : Grant} {st st' : Store} (h : Evolves g st st') {w : Wallet}
    {u : String} (hl : st'.Linked w u) :
    st.Linked w u ∨ ∃ address ∈ w.spellings, g.link address u := by
  obtain ⟨address, ha, row, hrow, hu⟩ := hl
  rcases h.links _ _ row hrow with hold | hnew
  · exact Or.inl ⟨address, ha, row, hold, hu⟩
  · exact Or.inr ⟨address, ha, hu ▸ hnew⟩

/-! ## Well-formed tables -/

/-- Links and wallet credentials belong to users who exist, and users have roles. -/
structure Store.Wf (st : Store) : Prop where
  roles : ∀ u x, st.users u = some x → GoodRole x.Role
  links : ∀ address, ∀ row ∈ st.walletIndexes Server.walletTypeEthereum address,
    (st.users (TrimSpace row.Username)).isSome
  credentials : ∀ key c, st.walletCredentials key = some c → (st.users key.1).isSome

theorem Store.empty_wf (now : Time) : (Store.empty now).Wf where
  roles _ _ h := nomatch h
  links _ _ h := nomatch h
  credentials _ _ h := nomatch h

theorem Evolves.user_isSome {g : Grant} {st st' : Store} (h : Evolves g st st') {u : String}
    (hu : (st.users u).isSome) : (st'.users u).isSome := by
  obtain ⟨x, hx⟩ := Option.isSome_iff_exists.1 hu
  obtain ⟨x', hx', -⟩ := h.kept u x hx
  rw [hx']
  rfl

theorem Store.Wf.evolves {g : Grant} {st st' : Store} (hwf : st.Wf) (h : Evolves g st st')
    (hl : ∀ address u, g.link address u → (st'.users u).isSome) : st'.Wf where
  roles u x hx := by
    rcases h.users u x hx with ⟨x', hx', hrole⟩ | ⟨-, hgood⟩
    · exact hrole ▸ hwf.roles u x' hx'
    · exact hgood
  links address row hrow := by
    rcases h.links _ _ row hrow with hold | hnew
    · exact h.user_isSome (hwf.links address row hold)
    · exact hl _ _ hnew
  credentials key c hc := by
    rcases h.credentials key c hc with hold | ⟨address, hnew⟩
    · obtain ⟨c', hc'⟩ := Option.isSome_iff_exists.1 hold
      exact h.user_isSome (hwf.credentials key c' hc')
    · exact hl _ _ hnew

/-! ## The property -/

/-- The wallet whose key signed the message the request presents. -/
def Server.signer (s : Server) : Request → Option Wallet
  | .walletLogin _ (.ok req) =>
      signerOf s.ethereum (TrimSpace req.Message) (TrimSpace req.Signature)
  | .portalWalletLogin _ (.ok req) =>
      signerOf s.ethereum (TrimSpace req.Message) (TrimSpace req.Signature)
  | .setupBootstrapVerify (.ok req) =>
      signerOf s.ethereum (Server.orElse (TrimSpace req.Message) (TrimSpace req.Challenge))
        (TrimSpace req.Signature)
  | .setupCreateAdmin _ (.ok req) =>
      req.Wallet.bind fun wallet =>
        signerOf s.ethereum (TrimSpace wallet.Message) (TrimSpace wallet.Signature)
  | _ => none

/-- A session the request may open: for a user its wallet was linked to or whom it creates for the
    wallet, or, with a passkey, for the admin it creates. -/
structure Server.Issued (s : Server) (st : Store) (req : Request) (st' : Store)
    (ss : OperatorSession) : Prop where
  role : ∃ x, st'.users ss.Username = some x ∧ x.Role = ss.Role
  signed : (∃ w, s.signer req = some w ∧
      (st.Linked w ss.Username ∨ (st.users ss.Username = none ∧ st'.Linked w ss.Username))) ∨
    (ss.Method = "webauthn" ∧ st.users ss.Username = none)

structure Server.LoginSafe (s : Server) (st : Store) (req : Request) (st' : Store) : Prop where
  sessions : ∀ id ss, st'.operatorSessions id = some ss →
    st.operatorSessions id = some ss ∨ s.Issued st req st' ss
  links : ∀ w u, st'.Linked w u → st.Linked w u ∨ st.users u = none

/-- The challenge can still be redeemed. -/
def WalletChallenge.live (c : WalletChallenge) (now : Time) : Bool :=
  !(!c.ExpiresAt.IsZero && now.After c.ExpiresAt) && !c.Spent && !c.Used

/-- No field of a login is empty. -/
def portalWalletLoginRequest.complete (req : portalWalletLoginRequest) : Bool :=
  TrimSpace req.ChallengeID != "" && TrimSpace req.Address != "" && TrimSpace req.Signature != ""
    && TrimSpace req.Message != ""

/-- An unlinked wallet redeems, at the portal, a challenge that names an existing customer it is not
    linked to. -/
def Server.takesOver (s : Server) (st : Store) : Request → Bool
  | .portalWalletLogin _ (.ok req) =>
      let address := ToLower (TrimSpace req.Address)
      match st.walletChallenges (TrimSpace req.ChallengeID),
          signerOf s.ethereum (TrimSpace req.Message) (TrimSpace req.Signature) with
      | some c, some w =>
          let username := TrimSpace c.Username
          req.complete && c.live st.now && address == ToLower (TrimSpace c.Address)
            && TrimSpace req.Message == TrimSpace c.Message && spells address w
            && st.linkedName address == ""
            && (ValidateManagedHandle username).toBool
            && (st.users username).any (fun user => TrimSpace user.Role == RoleCustomer)
            && !decide (st.Linked w username)
      | _, _ => false
  | _ => false

/-! ## The table a request leaves behind -/

section Steps

variable {s : Server} {st st₁ st' : Store} {req : Request}

/-- A safe step that also keeps the table well formed. -/
structure Server.Good (s : Server) (st : Store) (req : Request) (st' : Store) : Prop where
  safe : s.LoginSafe st req st'
  wf : st'.Wf

/-- No session was opened, and links were added only to new users. -/
structure Calm (st st' : Store) : Prop where
  sessions : ∀ id ss, st'.operatorSessions id = some ss → st.operatorSessions id = some ss
  links : ∀ w u, st'.Linked w u → st.Linked w u ∨ st.users u = none
  wf : st'.Wf

theorem SameAuth.calm (h : SameAuth st st') (hwf : st.Wf) : Calm st st' where
  sessions id ss hss := by rw [← h.sessions]; exact hss
  links w u hl := Or.inl (h.linked.1 hl)
  wf := hwf.evolves (h.evolves (g := .none)) fun _ _ hl => hl.elim

theorem Calm.good (h : Calm st st') : s.Good st req st' where
  safe := ⟨fun id ss hss => Or.inl (h.sessions id ss hss), h.links⟩
  wf := h.wf

/-- The grant of one kind of session and nothing else. -/
def Grant.sessionOf (username role method : String) : Grant where
  user _ := False
  link _ _ := False
  session ss := ss.Username = username ∧ ss.Role = role ∧ ss.Method = method

/-- The last phase of a login: the table is ready for a session, and only sessions for one user are
    opened. -/
theorem Calm.login {username role method : String} (h : Calm st st₁)
    (h' : Evolves (.sessionOf username role method) st₁ st')
    (hrole : ∃ x, st₁.users username = some x ∧ x.Role = role)
    (hsigned : (∃ w, s.signer req = some w ∧
        (st.Linked w username ∨ (st.users username = none ∧ st₁.Linked w username))) ∨
      (method = "webauthn" ∧ st.users username = none)) : s.Good st req st' where
  safe :=
    { sessions := by
        intro id ss hss
        rcases h'.sessions id ss hss with hold | ⟨rfl, rfl, rfl⟩
        · exact Or.inl (h.sessions id ss hold)
        · refine Or.inr ⟨?_, ?_⟩
          · obtain ⟨x, hx, hr⟩ := hrole
            obtain ⟨x', hx', hr'⟩ := h'.kept _ x hx
            exact ⟨x', hx', hr'.trans hr⟩
          · refine hsigned.imp_left ?_
            rintro ⟨w, hw, hl⟩
            exact ⟨w, hw, hl.imp_right fun hnew => ⟨hnew.1, h'.linked hnew.2⟩⟩
      links := by
        intro w u hl
        rcases h'.linked_cases hl with hold | ⟨-, -, ⟨⟩⟩
        exact h.links w u hold }
  wf := h.wf.evolves h' fun _ _ hl => hl.elim

end Steps

end LesserHost.ControlPlane
