import LesserHost.ControlPlane.WalletLogin

set_option autoImplicit false

/-! # The takeover

The exception of `wallet_login_safe` is none of the proof's making: when nothing fails and the token
drawn is fresh, a request that `takesOver` describes is given a session it must not have. -/

namespace LesserHost.ControlPlane

open LesserHost.Go Prog

/-! ## Without faults -/

/-- Nothing fails, no time passes, and every draw yields `token`. -/
def calmEnv (token : String) : Env Op Op.Res Store Choice := ⟨fun o _ s => handle o (.ok token) s⟩

section Calm

variable {token : String} {α : Type} {I : Store → Prop} {st : Store}

theorem run_calm (p : Handler α) (st : Store) :
    run storeEnv p (fun _ => .ok token) st = run (calmEnv token) p (fun _ => .ok token) st :=
  run_always storeEnv (.ok token) p st

/-- A request in a calm run. -/
theorem step_of_calm {s : Server} {req : Request} {Q : Store → Prop}
    (h : wp (calmEnv token) (s.serve req) (fun _ st' => Q st') st) :
    Q (s.step st (req, fun _ => .ok token)) := by
  rw [Server.step, run_calm]
  exact run_of_wp h _

theorem calm_now {P : Time → Store → Prop} (h : P st.now st) : Ensures (calmEnv token) I now P st := by
  refine ensures_perform fun c => ?_
  have hnow : st.now.Add (Choice.ok token).elapsed = st.now := by
    simp [Choice.ok, Time.Add]
  have hh : (calmEnv token).handle .now c st = (st.now, st) := by
    simp only [calmEnv, handle, hnow]
  rw [hh]
  exact h

theorem calm_newToken {P : Result String → Store → Prop} (h : P (.ok token) st) :
    Ensures (calmEnv token) I newToken P st := ensures_perform fun _ => h

theorem calm_write {ws : List Write} {P : Result Unit → Store → Prop}
    (hok : ws.all (Write.allowed st) = true → P (.ok ()) (ws.foldl Write.apply st))
    (hcond : ws.all (Write.allowed st) = false → P (.error .conditionFailed) st) :
    Ensures (calmEnv token) I (write ws) P st := by
  refine ensures_perform fun c => ?_
  have hh : (calmEnv token).handle (.write ws) c st = st.write ws := rfl
  rw [hh]
  rcases write_cases st ws with ⟨hall, hw⟩ | ⟨hall, hw⟩
  · rw [hw]
    exact hok hall
  · rw [hw]
    exact hcond hall

/-- A write without a condition. -/
theorem calm_write_one {w : Write} {P : Result Unit → Store → Prop}
    (hallowed : w.allowed st = true) (h : P (.ok ()) (w.apply st)) :
    Ensures (calmEnv token) I (write [w]) P st := by
  refine calm_write (fun _ => h) fun hfalse => ?_
  rw [List.all_cons, List.all_nil, hallowed] at hfalse
  cases hfalse

theorem calm_getUser {username : String} {P : Result User → Store → Prop}
    (h : P (lookup (st.users username)) st) :
    Ensures (calmEnv token) I (perform (Op.getUser username) : Handler (Result User)) P st :=
  ensures_perform fun _ => h

/-- A live challenge is found. -/
theorem calm_findWalletChallenge {id : String} {c : WalletChallenge} (hid : TrimSpace id ≠ "")
    (hfound : st.walletChallenges (TrimSpace id) = some c) (hlive : c.live st.now = true) :
    Ensures (calmEnv token) I (Server.findWalletChallenge id) (fun c' st' => c' = c ∧ st' = st)
      st := by
  simp only [WalletChallenge.live, Bool.and_eq_true, Bool.not_eq_true'] at hlive
  obtain ⟨⟨hexp, hspent⟩, hused⟩ := hlive
  refine ensures_bind (R := fun r st' => r = .ok c ∧ st' = st) ?_ ?_
  · refine ensures_ite (fun h => absurd h hid) fun _ => ?_
    refine ensures_bind (R := fun r st' => r = .ok c ∧ st' = st) ?_ ?_
    · refine ensures_perform fun ch => ?_
      have hh : (calmEnv token).handle (.getWalletChallenge (TrimSpace id)) ch st
          = (lookup (st.walletChallenges (TrimSpace id)), st) := rfl
      rw [hh, hfound]
      exact ⟨rfl, rfl⟩
    · rintro r st' ⟨rfl, rfl⟩
      refine ensures_bind (calm_now (P := fun t st'' => t = st'.now ∧ st'' = st') ⟨rfl, rfl⟩) ?_
      rintro t st'' ⟨rfl, rfl⟩
      refine ensures_ite (fun h => ?_) fun _ => ensures_ite (fun h => ?_) fun _ => ?_
      · rw [h.1, h.2] at hexp
        cases hexp
      · rw [hspent, hused] at h
        simp at h
      · exact ensures_pure ⟨rfl, rfl⟩
  · rintro r st' ⟨rfl, rfl⟩
    exact ensures_pure ⟨rfl, rfl⟩

/-- A live challenge is spent, and nothing else changes for a login. -/
theorem calm_redeem {id : String} {c : WalletChallenge} (hid : TrimSpace id ≠ "")
    (hfound : st.walletChallenges (TrimSpace id) = some c) (hspent : c.Spent = false) :
    Ensures (calmEnv token) I (Server.redeemWalletChallenge id) (fun _ st' => SameAuth st st')
      st := by
  refine ensures_bind (R := fun r st' => r = .ok () ∧ SameAuth st st') ?_ ?_
  · refine ensures_ite (fun h => absurd h hid) fun _ => calm_write_one ?_ ⟨rfl, ?_⟩
    · rw [Write.allowed, hfound]
      simpa using hspent
    · exact Write.apply_same (w := .spendWalletChallenge (TrimSpace id)) trivial st
  · rintro r st' ⟨rfl, h⟩
    exact ensures_pure h

theorem calm_firstWalletIndex (walletType address : String) :
    Ensures (calmEnv token) I
      (perform (Op.firstWalletIndex walletType address) : Handler (Result WalletIndex))
      (fun r st' => st' = st ∧ r = lookup (st.walletIndexes walletType address).head?) st :=
  ensures_perform fun _ => ⟨rfl, rfl⟩

theorem calm_walletLinkedUsername {address : String}
    (hne : ToLower (TrimSpace address) ≠ "") :
    Ensures (calmEnv token) I (Server.walletLinkedUsername Server.walletTypeEthereum address)
      (fun r st' => st' = st ∧ r = .ok (st.linkedName (ToLower (TrimSpace address)))) st := by
  have htype : (if TrimSpace Server.walletTypeEthereum = "" then Server.walletTypeEthereum
      else TrimSpace Server.walletTypeEthereum) = Server.walletTypeEthereum := by decide
  unfold Server.walletLinkedUsername
  refine ensures_ite (fun h => absurd h hne) fun _ => ?_
  refine ensures_bind (calm_firstWalletIndex _ _) ?_
  rintro r st' ⟨rfl, rfl⟩
  rw [htype]
  unfold Store.linkedName
  cases (st'.walletIndexes Server.walletTypeEthereum (ToLower (TrimSpace address))).head? with
  | none => exact ensures_pure ⟨rfl, rfl⟩
  | some row => exact ensures_pure ⟨rfl, rfl⟩

end Calm

/-! ## The exception is reached -/

section Takeover

variable {s : Server} {st : Store} {token : String}

/-- A session of the user with the method `wallet`, stored for the token. -/
def Opened (s : Server) (token username : String) (st : Store) : Prop :=
  ∃ ss, st.operatorSessions (TrimSpace (s.sha256HexTrimmed token)) = some ss ∧
    ss.Username = username ∧ ss.Method = "wallet"

theorem opened_put (s : Server) (token username role : String) (now : Time) (st : Store) :
    Opened s token (TrimSpace username) ((Write.putOperatorSession
      (s.buildOperatorSessionModel token username role "wallet" now)).apply st) := by
  refine ⟨s.buildOperatorSessionModel token username role "wallet" now, ?_, rfl, ?_⟩
  · simp only [Write.apply, Server.buildOperatorSessionModel, set_self]
  · exact (by decide : TrimSpace "wallet" = "wallet")

theorem calm_createOperatorSession {I : Store → Prop} (username role : String) :
    Ensures (calmEnv token) I (s.createOperatorSession username role "wallet")
      (fun r st' => (∃ expiresAt, r = .ok (token, expiresAt)) ∧
        Opened s token (TrimSpace username) st') st := by
  refine ensures_bind (calm_now (P := fun _ _ => True) trivial) ?_
  rintro t st₁ -
  refine ensures_bind (calm_newToken (P := fun r _ => r = .ok token) rfl) ?_
  rintro r st₂ rfl
  refine ensures_bind (R := fun r st' => r = .ok () ∧ Opened s token (TrimSpace username) st') ?_ ?_
  · refine calm_write_one rfl ⟨rfl, opened_put s token username role t.UTC st₂⟩
  · rintro r st₃ ⟨rfl, h⟩
    exact ensures_pure ⟨⟨_, rfl⟩, h⟩

theorem calm_linkPortalWalletToCustomer {user : User} (username address : String) (chainID : Int)
    (email : String) (now : Time) (hcustomer : TrimSpace user.Role = RoleCustomer) :
    Ensures (calmEnv token) (fun _ => False)
      (Server.linkPortalWalletToCustomer user username address chainID email now)
      (fun _ _ => True) st := by
  refine ensures_ite (fun h => absurd hcustomer h) fun _ => ?_
  have hfill : ∀ st', Ensures (calmEnv token) (fun _ => False)
      (Server.fillUserEmail user username email) (fun _ _ => True) st' := fun st' =>
    ensures_ite
      (fun _ => ensures_bind (ensures_perform (P := fun _ _ => True) fun _ => trivial)
        fun _ _ _ => ensures_pure trivial)
      fun _ => ensures_pure trivial
  refine ensures_bind (calm_write (P := fun r _ => r = .ok () ∨ r = .error .conditionFailed)
    (fun _ => Or.inl rfl) (fun _ => Or.inr rfl)) ?_
  rintro r st' (rfl | rfl)
  · exact hfill st'
  · exact hfill st'

/-- The situation that `takesOver` decides. -/
structure TakesOver (s : Server) (st : Store) (b : portalWalletLoginRequest) (c : WalletChallenge)
    (w : Wallet) (user : User) : Prop where
  complete : b.complete = true
  found : st.walletChallenges (TrimSpace b.ChallengeID) = some c
  live : c.live st.now = true
  signer : signerOf s.ethereum (TrimSpace b.Message) (TrimSpace b.Signature) = some w
  address : ToLower (TrimSpace b.Address) = ToLower (TrimSpace c.Address)
  message : TrimSpace b.Message = TrimSpace c.Message
  spells : spells (ToLower (TrimSpace b.Address)) w = true
  unlinked : st.linkedName (ToLower (TrimSpace b.Address)) = ""
  valid : ValidateManagedHandle (TrimSpace c.Username) = .ok (TrimSpace c.Username)
  known : st.users (TrimSpace c.Username) = some user
  customer : TrimSpace user.Role = RoleCustomer
  foreign : ¬st.Linked w (TrimSpace c.Username)

theorem takesOver_iff (ctx : Context) (b : portalWalletLoginRequest) :
    s.takesOver st (.portalWalletLogin ctx (.ok b)) = true ↔
      ∃ c w user, TakesOver s st b c w user := by
  refine ⟨?_, ?_⟩
  · intro h
    simp only [Server.takesOver] at h
    split at h
    · next c w hc hw =>
        simp only [Bool.and_eq_true, beq_iff_eq, Option.any_eq_true, Bool.not_eq_true',
          decide_eq_false_iff_not] at h
        obtain ⟨⟨⟨⟨⟨⟨⟨⟨hcomplete, hlive⟩, haddress⟩, hmessage⟩, hspells⟩, hunlinked⟩, hvalid⟩, user,
          huser, hcustomer⟩, hforeign⟩ := h
        have hok : ValidateManagedHandle (TrimSpace c.Username) = .ok (TrimSpace c.Username) := by
          cases hh : ValidateManagedHandle (TrimSpace c.Username) with
          | error e =>
              rw [hh] at hvalid
              cases hvalid
          | ok handle => rw [ValidateManagedHandle_eq hh]
        exact ⟨c, w, user, hcomplete, hc, hlive, hw, haddress, hmessage, hspells, hunlinked, hok,
          huser, hcustomer, hforeign⟩
    · cases h
  · rintro ⟨c, w, user, h⟩
    simp only [Server.takesOver, h.found, h.signer, h.complete, h.live, h.spells, h.unlinked,
      h.valid, h.known, Option.any_some, h.customer]
    simp [h.address, h.message, h.foreign, Except.toBool]

section Run

variable {ctx : Context} {b : portalWalletLoginRequest} {c : WalletChallenge} {w : Wallet}
  {user : User} {I : Store → Prop}

theorem calm_parsePortalWalletLogin (h : b.complete = true) :
    Ensures (calmEnv token) I (Server.parsePortalWalletLogin (.ok b))
      (fun req st' => st' = st ∧ req = ⟨TrimSpace b.ChallengeID, TrimSpace b.Address,
        TrimSpace b.Signature, TrimSpace b.Message, TrimSpace b.Email, TrimSpace b.DisplayName⟩)
      st := by
  simp only [portalWalletLoginRequest.complete, Bool.and_eq_true, bne_iff_ne] at h
  obtain ⟨⟨⟨hid, haddress⟩, hsignature⟩, hmessage⟩ := h
  refine ensures_bind (ensures_pure (P := fun req st' => req = b ∧ st' = st) ⟨rfl, rfl⟩) ?_
  rintro req st' ⟨rfl, rfl⟩
  refine ensures_bind (R := fun checked st'' => st'' = st' ∧ checked = ⟨TrimSpace req.ChallengeID,
    TrimSpace req.Address, TrimSpace req.Signature, TrimSpace req.Message⟩) ?_ ?_
  · refine ensures_ite (fun hempty => absurd hempty hid) fun _ => ?_
    refine ensures_ite (fun hempty => absurd hempty haddress) fun _ => ?_
    refine ensures_ite (fun hempty => absurd hempty hsignature) fun _ => ?_
    exact ensures_ite (fun hempty => absurd hempty hmessage) fun _ => ensures_pure ⟨rfl, rfl⟩
  · rintro checked st'' ⟨rfl, rfl⟩
    exact ensures_pure ⟨rfl, rfl⟩

theorem TakesOver.username_ne (h : TakesOver s st b c w user) : TrimSpace c.Username ≠ "" := by
  intro hempty
  have hvalid := h.valid
  rw [hempty] at hvalid
  revert hvalid
  decide

theorem TakesOver.validated (h : TakesOver s st b c w user) :
    Ensures (calmEnv token) I
      (s.validatePortalWalletLoginChallenge ⟨TrimSpace b.ChallengeID, TrimSpace b.Address,
        TrimSpace b.Signature, TrimSpace b.Message, TrimSpace b.Email, TrimSpace b.DisplayName⟩)
      (fun r st' => SameAuth st st' ∧ r = (c, TrimSpace c.Username, ToLower (TrimSpace b.Address)))
      st := by
  have hcomplete := h.complete
  simp only [portalWalletLoginRequest.complete, Bool.and_eq_true, bne_iff_ne] at hcomplete
  have hid : TrimSpace (TrimSpace b.ChallengeID) ≠ "" := by
    rw [TrimSpace_idem]
    exact hcomplete.1.1.1
  have hfound : st.walletChallenges (TrimSpace (TrimSpace b.ChallengeID)) = some c := by
    rw [TrimSpace_idem]
    exact h.found
  have hspent : c.Spent = false := by
    have hlive := h.live
    simp only [WalletChallenge.live, Bool.and_eq_true, Bool.not_eq_true'] at hlive
    exact hlive.1.2
  have hsig : verifyEthereumSignature s.ethereum (ToLower (TrimSpace (TrimSpace b.Address)))
      (TrimSpace b.Message) (TrimSpace b.Signature) = true := by
    rw [TrimSpace_idem]
    simp only [verifyEthereumSignature, h.signer, h.spells]
  refine ensures_bind (calm_findWalletChallenge hid hfound h.live) ?_
  rintro c' st₁ ⟨rfl, rfl⟩
  refine ensures_ite (fun he => absurd he h.username_ne) fun _ => ?_
  refine ensures_ite (fun he => absurd (by rw [TrimSpace_idem]; exact h.address) he) fun _ => ?_
  refine ensures_ite (fun he => absurd (by rw [TrimSpace_idem]; exact h.message) he) fun _ => ?_
  refine ensures_ite (fun he => ?_) fun _ => ?_
  · rw [hsig] at he
    cases he
  · refine ensures_bind (calm_redeem hid hfound hspent) ?_
    rintro - st₂ h₂
    exact ensures_pure ⟨h₂, by rw [TrimSpace_idem]⟩

theorem TakesOver.opened (h : TakesOver s st b c w user) :
    Ensures (calmEnv token) (fun _ => False) (s.handlePortalWalletLogin ctx (.ok b))
      (fun _ st' => Opened s token (TrimSpace c.Username) st') st := by
  refine ensures_bind (calm_parsePortalWalletLogin h.complete) ?_
  rintro req st₀ ⟨rfl, rfl⟩
  refine ensures_bind h.validated ?_
  rintro r st₁ ⟨h₁, rfl⟩
  have haddress : ToLower (TrimSpace (ToLower (TrimSpace b.Address))) = ToLower (TrimSpace b.Address)
      := by rw [TrimSpace_ToLower_TrimSpace, ToLower_idem]
  have hne : ToLower (TrimSpace (ToLower (TrimSpace b.Address))) ≠ "" := by
    rw [haddress]
    intro hempty
    have hspells := mem_spellings h.spells (ToLower_idem _)
    rw [hempty, Wallet.spellings, List.mem_cons, List.mem_singleton] at hspells
    have hlength := w.hex_length
    rcases hspells with he | he
    · rw [← he] at hlength
      exact absurd hlength (by decide)
    · have htwo := congrArg (fun t => t.toList.length) he
      simp only [String.toList_append, List.length_append, hlength] at htwo
      exact absurd htwo (by decide)
  refine ensures_bind (calm_walletLinkedUsername hne) ?_
  rintro r st₂ ⟨rfl, rfl⟩
  have hunlinked : st₂.linkedName (ToLower (TrimSpace (ToLower (TrimSpace b.Address)))) = "" := by
    rw [haddress]
    simp only [Store.linkedName, h₁.links]
    exact h.unlinked
  rw [hunlinked]
  refine ensures_ite (fun he => absurd rfl he.1) fun _ => ?_
  refine ensures_bind (calm_now (P := fun _ st' => st' = st₂) rfl) ?_
  rintro t st₃ rfl
  refine ensures_bind (R := fun _ _ => True) ?_ ?_
  · unfold Server.ensurePortalWalletUser
    rw [h.valid]
    refine ensures_ite (fun he => absurd he h.username_ne) fun _ => ?_
    refine ensures_bind (R := fun found _ => found = some user) ?_ ?_
    · refine ensures_bind (calm_getUser (P := fun r _ => r = .ok user) ?_) ?_
      · rw [h₁.users, h.known]
        rfl
      · rintro r st' rfl
        exact ensures_pure rfl
    · rintro found st' rfl
      refine ensures_ite (fun _ => ?_) fun he => absurd rfl he
      exact ensures_bind (calm_linkPortalWalletToCustomer _ _ _ _ _ h.customer)
        fun _ _ _ => ensures_pure trivial
  · rintro user' st₄ -
    refine ensures_bind (calm_createOperatorSession _ _) ?_
    rintro r st₅ ⟨⟨expiresAt, rfl⟩, hopened⟩
    rw [TrimSpace_idem] at hopened
    refine ensures_bind (R := fun _ st' => Opened s token (TrimSpace c.Username) st') ?_ ?_
    · exact ensures_bind (calm_write_one rfl hopened) fun _ _ hopened => ensures_pure hopened
    · exact fun _ _ hopened => ensures_pure hopened

end Run

/-- Whenever nothing fails and the token is new, the exception is a takeover. -/
theorem takesOver_unsafe {req : Request} (h : s.takesOver st req = true)
    (hfresh : st.operatorSessions (TrimSpace (s.sha256HexTrimmed token)) = none) :
    ¬s.LoginSafe st req (s.step st (req, fun _ => .ok token)) := by
  intro hsafe
  cases req with
  | portalWalletLogin ctx body =>
      cases body with
      | error e => cases h
      | ok b =>
          obtain ⟨c, w, user, ht⟩ := (takesOver_iff ctx b).1 h
          obtain ⟨ss, hss, hname, hmethod⟩ : Opened s token (TrimSpace c.Username)
              (s.step st (.portalWalletLogin ctx (.ok b), fun _ => .ok token)) := by
            exact step_of_calm (wp_discard ht.opened.total)
          rcases hsafe.sessions _ ss hss with hold | hissued
          · rw [hfresh] at hold
            cases hold
          · rcases hissued.signed with ⟨w', hw', hl⟩ | ⟨hm, -⟩
            · obtain rfl : w = w' := Option.some.inj (ht.signer.symm.trans hw')
              rw [hname, ht.known] at hl
              exact hl.elim ht.foreign fun hnew => nomatch hnew.1
            · rw [hm] at hmethod
              exact absurd hmethod (by decide)
  | _ => cases h

end Takeover

/-! ## A takeover -/

section Sample

/-- The table after the customer's first login. -/
def registered : Store :=
  (Write.createUser (Server.portalUser customerName (walletAddress customerWallet) "" "" sampleNow) ::
    Server.linkRows customerName (walletAddress customerWallet) 1 sampleNow).foldl Write.apply
      (.empty sampleNow)

theorem registered_ready :
    Ready (.empty sampleNow) registered customerWallet customerName RoleCustomer :=
  portalRows_ready (Store.empty_wf sampleNow) (.refl _) customerName_trimmed (walletAddress_lower _)
    (List.mem_cons_of_mem _ List.mem_cons_self) rfl 1 "" "" sampleNow

/-- The intruder asks for a challenge in the customer's name, and logs in with it at the portal. -/
def intrusion : List (Request × (Nat → Choice)) :=
  [(.walletChallenge (.ok ⟨walletAddress intruderWallet, 1, customerName⟩), fun _ => .ok "second"),
    (sampleLogin intruderWallet "second" "0x02", fun _ => .ok "session")]

/-- A challenge in the name of the customer is stored as asked for. -/
theorem calm_handleWalletChallenge {I : Store → Prop} {st : Store} (w : Wallet) (token : String)
    (hnow : st.now = sampleNow) :
    Ensures (calmEnv token) I
      (sampleServer.handleWalletChallenge (.ok ⟨walletAddress w, 1, customerName⟩))
      (fun _ st' => SameAuth st st' ∧ st'.now = sampleNow ∧
        st'.walletChallenges (TrimSpace token) = some (sampleChallenge w token)) st := by
  have hname := customerName_trimmed
  have hne := customerName_ne
  have htrim := walletAddress_trimmed w
  have haddress := walletAddress_lower w
  have hlong : walletAddress w ≠ "" := by
    intro hempty
    have hlength := congrArg (fun t => t.toList.length) hempty
    simp only [walletAddress, String.toList_append, List.length_append, w.hex_length] at hlength
    exact absurd hlength (by decide)
  have hdomain : (if TrimSpace sampleServer.WebAuthnRPID = "" then lesserHostDomain
      else TrimSpace sampleServer.WebAuthnRPID) = lesserHostDomain := if_pos (by decide)
  refine ensures_bind (ensures_pure (P := fun req st' =>
    req = ⟨walletAddress w, 1, customerName⟩ ∧ st' = st) ⟨rfl, rfl⟩) ?_
  rintro req st₀ ⟨rfl, rfl⟩
  simp only [htrim, hname]
  refine ensures_ite (fun h => absurd h hlong) fun _ => ensures_ite (fun h => absurd h hne) fun _ => ?_
  refine ensures_bind (R := fun r st' => (∃ c, r = .ok c) ∧ SameAuth st₀ st' ∧ st'.now = sampleNow ∧
    st'.walletChallenges (TrimSpace token) = some (sampleChallenge w token)) ?_ ?_
  · unfold Server.createWalletChallenge
    simp only [haddress, hname, hdomain]
    refine ensures_ite (fun h => absurd h hne) fun _ => ensures_ite (fun h => absurd h hlong)
      fun _ => ?_
    refine ensures_bind (calm_newToken (P := fun r st' => r = .ok token ∧ st' = st₀) ⟨rfl, rfl⟩) ?_
    rintro r st₁ ⟨rfl, rfl⟩
    refine ensures_bind (calm_newToken (P := fun r st' => r = .ok token ∧ st' = st₁) ⟨rfl, rfl⟩) ?_
    rintro r st₂ ⟨rfl, rfl⟩
    refine ensures_bind (calm_now (P := fun t st' => t = sampleNow ∧ st' = st₂) ⟨hnow, rfl⟩) ?_
    rintro t st₃ ⟨rfl, rfl⟩
    refine ensures_bind (R := fun r st' => r = .ok () ∧ SameAuth st₃ st' ∧ st'.now = sampleNow ∧
      st'.walletChallenges (TrimSpace token) = some (sampleChallenge w token)) ?_ ?_
    · refine calm_write_one rfl ⟨rfl, Write.apply_same (w := .putWalletChallenge _) trivial st₃, ?_, ?_⟩
      · rw [Write.apply]
        exact hnow
      · simp only [Write.apply, WalletChallenge.key, set_self]
        rfl
    · rintro r st₄ ⟨rfl, h⟩
      exact ensures_pure ⟨⟨_, rfl⟩, h⟩
  · rintro r st₁ ⟨⟨c, rfl⟩, h⟩
    exact ensures_pure h

theorem intrusion_challenge :
    SameAuth registered (sampleServer.step registered
        (.walletChallenge (.ok ⟨walletAddress intruderWallet, 1, customerName⟩),
          fun _ => .ok "second")) ∧
      (sampleServer.step registered
        (.walletChallenge (.ok ⟨walletAddress intruderWallet, 1, customerName⟩),
          fun _ => .ok "second")).now = sampleNow ∧
      (sampleServer.step registered
        (.walletChallenge (.ok ⟨walletAddress intruderWallet, 1, customerName⟩),
          fun _ => .ok "second")).walletChallenges "second"
            = some (sampleChallenge intruderWallet "second") := by
  have hid : TrimSpace "second" = "second" := by decide
  have hcalm := calm_handleWalletChallenge (I := fun _ => False) intruderWallet "second"
    (rfl : registered.now = sampleNow)
  rw [hid] at hcalm
  refine step_of_calm (Q := fun st' => SameAuth registered st' ∧ st'.now = sampleNow ∧
    st'.walletChallenges "second" = some (sampleChallenge intruderWallet "second")) ?_
  rw [Server.serve]
  exact wp_discard hcalm.total

theorem sampleChallenge_message (w : Wallet) (token : String) :
    (sampleChallenge w token).Message = buildWalletAuthMessage lesserHostDomain (walletAddress w) 1
      token customerName sampleNow (sampleNow.Add walletChallengeDuration) := rfl

theorem lesserHostDomain_head : lesserHostDomain.toList.head? = some 'l' := by decide

theorem sampleChallenge_trimmed (w : Wallet) (token : String) :
    TrimSpace (sampleChallenge w token).Message = (sampleChallenge w token).Message := by
  rw [sampleChallenge_message]
  exact (buildWalletAuthMessage_trimmed _ _ _ _ _ _ lesserHostDomain_head (by decide)).TrimSpace_eq

theorem sampleChallenge_ne (w : Wallet) (token : String) :
    (sampleChallenge w token).Message ≠ "" := by
  intro hempty
  have hhead := buildWalletAuthMessage_head (walletAddress w) 1 token customerName sampleNow
    (sampleNow.Add walletChallengeDuration) lesserHostDomain_head
  rw [← sampleChallenge_message, hempty] at hhead
  exact absurd hhead (by decide)

/-- The second request of the intrusion is what `takesOver` describes. -/
theorem intrusion_takesOver :
    ∃ c w user, TakesOver sampleServer (sampleServer.step registered
      (.walletChallenge (.ok ⟨walletAddress intruderWallet, 1, customerName⟩),
        fun _ => .ok "second"))
      ⟨"second", walletAddress intruderWallet, "0x02",
        (sampleChallenge intruderWallet "second").Message, "", ""⟩ c w user := by
  have hchallenge := intrusion_challenge
  revert hchallenge
  generalize sampleServer.step registered (.walletChallenge
    (.ok ⟨walletAddress intruderWallet, 1, customerName⟩), fun _ => .ok "second") = st
  rintro ⟨hsame, hnow, hfound⟩
  obtain ⟨user, huser, hrole⟩ := registered_ready.role
  have haddress := walletAddress_lower intruderWallet
  have hid : TrimSpace "second" = "second" := by decide
  have hsignature : TrimSpace "0x02" = "0x02" := by decide
  have hname := customerName_trimmed
  have hfound' : st.walletChallenges (TrimSpace "second")
      = some (sampleChallenge intruderWallet "second") := hid.symm ▸ hfound
  have hunlinked : st.linkedName (ToLower (TrimSpace (walletAddress intruderWallet))) = "" := by
    rw [haddress, Store.linkedName, hsame.links]
    decide
  refine ⟨sampleChallenge intruderWallet "second", intruderWallet, user, ?_, ?_, ?_, ?_, ?_, rfl, ?_,
    ?_, ?_, ?_, ?_, ?_⟩
  · simp only [portalWalletLoginRequest.complete, sampleChallenge_trimmed, Bool.and_eq_true,
      bne_iff_ne]
    exact ⟨⟨⟨by decide, by decide⟩, by decide⟩, sampleChallenge_ne _ _⟩
  · exact hfound'
  · rw [hnow]
    decide
  · rw [sampleChallenge_trimmed, hsignature]
    simp [signerOf, sampleServer, sampleEthereum, lowerRecoveryByte]
  · exact congrArg _ rfl
  · rw [haddress]
    decide
  · exact hunlinked
  · decide
  · rw [hsame.users]
    exact hname.symm ▸ huser
  · rw [hrole]
    decide
  · rw [hsame.linked]
    decide

/-- A customer's account is opened to a wallet it is not linked to. -/
theorem not_wallet_login_safe :
    ¬∀ (s : Server) (st : Store) (reqs : List (Request × (Nat → Choice))), st.Wf →
      Along s.step (fun st a => s.LoginSafe st a.1 (s.step st a)) st reqs := by
  intro h
  have hrun := h sampleServer registered intrusion registered_ready.calm.wf
  refine takesOver_unsafe ((takesOver_iff _ _).2 intrusion_takesOver) ?_ hrun.2.1
  rw [intrusion_challenge.1.sessions]
  rfl

end Sample

end LesserHost.ControlPlane
