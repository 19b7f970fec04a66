import LesserHost.ControlPlane.WalletLinks

set_option autoImplicit false

/-! # No account takeover by wallet login, and the exception

Each handler is followed from its challenge to its session: what a challenge that was redeemed says
about the table, what the look-ups found, and which rows were written before the session. -/

namespace LesserHost.ControlPlane

open LesserHost.Go Prog

/-! ## Operations -/

section Operations

variable {I : Store → Prop} {st : Store}

theorem lookup_ok {α : Type} {row : Option α} {a : α} (h : lookup row = .ok a) : row = some a := by
  cases row with
  | none => cases h
  | some b => exact congrArg some (Except.ok.inj h)

theorem lookup_notFound {α : Type} {row : Option α} (h : lookup row = .error .notFound) :
    row = none := by
  cases row with
  | none => rfl
  | some b => cases h

/-- A read leaves the table alone; its answer is what is there, a miss, or a fault. -/
theorem attempt_lookup {α : Type} (c : Choice) (st : Store) (row : Option α) :
    ∃ r, c.attempt st (lookup row, st) = (r, st) ∧ (∀ a, r = .ok a → row = some a) ∧
      (r = .error .notFound → row = none) := by
  refine ⟨(c.attempt st (lookup row, st)).1, ?_, ?_, ?_⟩
  · exact Prod.ext rfl (attempt_read c st (lookup row))
  · intro a ha
    exact lookup_ok (attempt_ok ha).2
  · intro he
    exact lookup_notFound (attempt_error he (by decide)).2

theorem ensures_getUser (username : String) {P : Result User → Store → Prop}
    (h : ∀ r, (∀ x, r = .ok x → st.users username = some x) →
      (r = .error .notFound → st.users username = none) → P r st) :
    Ensures storeEnv I (perform (Op.getUser username) : Handler (Result User)) P st := by
  refine ensures_perform fun c => ?_
  obtain ⟨r, hr, hok, hnone⟩ := attempt_lookup c st (st.users username)
  have hh : handle (.getUser username) c st = (r, st) := hr
  rw [show storeEnv.handle (.getUser username) c st = (r, st) from hh]
  exact h r hok hnone

theorem ensures_now {P : Time → Store → Prop}
    (h : ∀ t, st.now.nanos ≤ t.nanos → P t { st with now := t }) :
    Ensures storeEnv I now P st := by
  refine ensures_perform fun c => h (st.now.Add c.elapsed) ?_
  simp only [Time.Add]
  omega

/-- The three ends of a write. -/
theorem ensures_write (ws : List Write) {P : Result Unit → Store → Prop}
    (hok : ws.all (Write.allowed st) = true → P (.ok ()) (ws.foldl Write.apply st))
    (hcond : ws.all (Write.allowed st) = false → P (.error .conditionFailed) st)
    (hfault : ∀ st', st' = st ∨ (ws.all (Write.allowed st) = true ∧ st' = ws.foldl Write.apply st) →
      P (.error .other) st') :
    Ensures storeEnv I (write ws) P st := by
  refine ensures_perform fun c => ?_
  have hh : storeEnv.handle (.write ws) c st = c.attempt st (st.write ws) := rfl
  rw [hh]
  rcases write_cases st ws with ⟨hall, hw⟩ | ⟨hall, hw⟩
  · rw [hw]
    unfold Choice.attempt
    split
    · exact hok hall
    · exact hfault _ (Or.inl rfl)
    · exact hfault _ (Or.inr ⟨hall, rfl⟩)
  · rw [hw]
    unfold Choice.attempt
    split
    · exact hcond hall
    · exact hfault _ (Or.inl rfl)
    · exact hfault _ (Or.inl rfl)

/-- A quiet part keeps what decides who may log in. -/
theorem ensures_same {α : Type} {p : Handler α} {st₀ : Store} (hp : p.Only Op.quiet)
    (h : SameAuth st₀ st) (hI : ∀ st', SameAuth st₀ st' → I st') :
    Ensures storeEnv I p (fun _ st' => SameAuth st₀ st') st :=
  ensures_of_wp (wp_same hp h) hI

theorem ensures_evolves {α : Type} {p : Handler α} {g : Grant} {st₀ : Store}
    (hp : p.Only (Op.permitted g)) (h : Evolves g st₀ st) (hI : ∀ st', Evolves g st₀ st' → I st') :
    Ensures storeEnv I p (fun _ st' => Evolves g st₀ st') st :=
  ensures_of_wp (wp_evolves hp h) hI

end Operations

/-! ## Challenges and links -/

section Lookups

variable {I : Store → Prop} {st : Store}

theorem SameAuth.at_now (st : Store) (t : Time) : SameAuth st { st with now := t } :=
  ⟨rfl, rfl, rfl, rfl⟩

/-- What a verifier learns from a challenge it finds. -/
theorem ensures_findWalletChallenge (id : String) (hI : ∀ st', SameAuth st st' → I st') :
    Ensures storeEnv I (Server.findWalletChallenge id)
      (fun c st' => SameAuth st st' ∧ st.walletChallenges (TrimSpace id) = some c ∧
        c.live st.now = true) st := by
  unfold Server.findWalletChallenge
  have hget : Ensures storeEnv I (Server.getWalletChallenge id)
      (fun r st' => SameAuth st st' ∧ ∀ c, r = .ok c →
        st.walletChallenges (TrimSpace id) = some c ∧ c.live st.now = true) st := by
    unfold Server.getWalletChallenge
    refine ensures_ite (fun _ => ensures_pure ⟨.refl st, fun _ hc => nomatch hc⟩) fun _ => ?_
    refine ensures_bind (R := fun r st' => st' = st ∧ ∀ c, r = .ok c →
      st.walletChallenges (TrimSpace id) = some c) ?_ ?_
    · refine ensures_perform fun c => ?_
      obtain ⟨r, hr, hok, -⟩ := attempt_lookup c st (st.walletChallenges (TrimSpace id))
      have hh : storeEnv.handle (.getWalletChallenge (TrimSpace id)) c st = (r, st) := hr
      rw [hh]
      exact ⟨rfl, hok⟩
    · rintro (e | challenge) st' ⟨rfl, hfound⟩
      · exact ensures_pure ⟨.refl _, fun _ hc => nomatch hc⟩
      · refine ensures_bind (ensures_now (P := fun t st'' =>
          st'.now.nanos ≤ t.nanos ∧ SameAuth st' st'') fun t ht => ⟨ht, .at_now st' t⟩) ?_
        rintro t st'' ⟨ht, hsame⟩
        refine ensures_ite (fun _ => ?_) fun hexp => ensures_ite (fun _ => ?_) fun hspent => ?_
        · refine ensures_bind (ensures_same (deleteWalletChallenge_only _) hsame hI) ?_
          exact fun _ _ h => ensures_pure ⟨h, fun _ hc => nomatch hc⟩
        · exact ensures_pure ⟨hsame, fun _ hc => nomatch hc⟩
        · refine ensures_pure ⟨hsame, ?_⟩
          rintro c hc
          obtain rfl := Except.ok.inj hc
          refine ⟨hfound _ rfl, ?_⟩
          -- what has not expired by the later time had not expired before
          have hearlier : st'.now.After challenge.ExpiresAt = true →
              t.After challenge.ExpiresAt = true := by
            simp only [Time.After, decide_eq_true_eq]
            omega
          simp only [not_or, Bool.not_eq_true] at hspent
          simp only [WalletChallenge.live, hspent.1, hspent.2, Bool.not_false, Bool.and_true,
            Bool.not_eq_true', Bool.and_eq_false_iff]
          by_contra hboth
          push Not at hboth
          simp only [ne_eq, Bool.not_eq_false'] at hboth
          exact hexp ⟨by simpa using hboth.1, hearlier (by simpa using hboth.2)⟩
  refine ensures_bind hget ?_
  rintro ((_ | _ | _) | c) st' ⟨hsame, hc⟩
  · exact ensures_fail (hI _ hsame)
  · exact ensures_fail (hI _ hsame)
  · exact ensures_fail (hI _ hsame)
  · exact ensures_pure ⟨hsame, hc c rfl⟩

theorem ensures_redeem (id : String) {st₀ : Store} (h : SameAuth st₀ st)
    (hI : ∀ st', SameAuth st₀ st' → I st') :
    Ensures storeEnv I (Server.redeemWalletChallenge id) (fun _ st' => SameAuth st₀ st') st :=
  ensures_same (redeemWalletChallenge_only id) h hI

theorem ensures_firstWalletIndex (walletType address : String) :
    Ensures storeEnv I
      (perform (Op.firstWalletIndex walletType address) : Handler (Result WalletIndex))
      (fun r st' => st' = st ∧
        (∀ row, r = .ok row → (st.walletIndexes walletType address).head? = some row) ∧
        (r = .error .notFound → (st.walletIndexes walletType address).head? = none)) st := by
  refine ensures_perform fun c => ?_
  obtain ⟨r, hr, hok, hnone⟩ := attempt_lookup c st (st.walletIndexes walletType address).head?
  have hh : storeEnv.handle (.firstWalletIndex walletType address) c st = (r, st) := hr
  rw [hh]
  exact ⟨rfl, hok, hnone⟩

theorem ensures_walletLinkedUsername (address : String) :
    Ensures storeEnv I (Server.walletLinkedUsername Server.walletTypeEthereum address)
      (fun r st' => st' = st ∧ ∀ linked, r = .ok linked →
        linked = st.linkedName (ToLower (TrimSpace address))) st := by
  have htype : (if TrimSpace Server.walletTypeEthereum = "" then Server.walletTypeEthereum
      else TrimSpace Server.walletTypeEthereum) = Server.walletTypeEthereum := by decide
  unfold Server.walletLinkedUsername
  refine ensures_ite (fun _ => ensures_pure ⟨rfl, fun _ hc => nomatch hc⟩) fun _ => ?_
  refine ensures_bind (ensures_firstWalletIndex _ _) ?_
  rintro ((_ | _ | _) | row) st' ⟨rfl, hok, hnone⟩
  · refine ensures_pure ⟨rfl, fun linked hl => ?_⟩
    have hempty := hnone rfl
    rw [htype] at hempty
    rw [Store.linkedName, hempty]
    exact (Except.ok.inj hl).symm
  · exact ensures_pure ⟨rfl, fun _ hc => nomatch hc⟩
  · exact ensures_pure ⟨rfl, fun _ hc => nomatch hc⟩
  · refine ensures_pure ⟨rfl, fun linked hl => ?_⟩
    have hrow := hok row rfl
    rw [htype] at hrow
    rw [Store.linkedName, hrow]
    exact (Except.ok.inj hl).symm

theorem verifyEthereumSignature_ok {eth : Ethereum} {address message signature : String}
    (h : ¬verifyEthereumSignature eth address message signature = false) :
    ∃ w, signerOf eth message signature = some w ∧ spells address w = true := by
  unfold verifyEthereumSignature at h
  cases hw : signerOf eth message signature with
  | none => simp [hw] at h
  | some w => exact ⟨w, rfl, by simpa [hw] using h⟩

theorem ensures_checkWalletVerifyRequest (field : String) (req : walletVerifyRequest)
    (hI : I st) :
    Ensures storeEnv I (Server.checkWalletVerifyRequest field req)
      (fun req' st' => st' = st ∧ req' = ⟨TrimSpace req.ChallengeID, TrimSpace req.Address,
        TrimSpace req.Signature, TrimSpace req.Message⟩ ∧ TrimSpace req.ChallengeID ≠ "" ∧
        TrimSpace req.Address ≠ "" ∧ TrimSpace req.Signature ≠ "" ∧ TrimSpace req.Message ≠ "")
      st := by
  unfold Server.checkWalletVerifyRequest
  refine ensures_ite (fun _ => ensures_fail hI) fun hid => ?_
  refine ensures_ite (fun _ => ensures_fail hI) fun haddress => ?_
  refine ensures_ite (fun _ => ensures_fail hI) fun hsignature => ?_
  refine ensures_ite (fun _ => ensures_fail hI) fun hmessage => ?_
  exact ensures_pure ⟨rfl, rfl, hid, haddress, hsignature, hmessage⟩

theorem ensures_ParseJSON {α : Type} (body : Body α) (hI : I st) :
    Ensures storeEnv I (ParseJSON body) (fun req st' => st' = st ∧ body = .ok req) st := by
  cases body with
  | error e => exact ensures_fail hI
  | ok req => exact ensures_pure ⟨rfl, rfl⟩

end Lookups

/-! ## The operator's login -/

section Handlers

variable {s : Server} {st : Store}

theorem ensures_verifyWalletLoginChallenge {I : Store → Prop} (req : walletVerifyRequest)
    (hI : ∀ st', SameAuth st st' → I st') :
    Ensures storeEnv I (s.verifyWalletLoginChallenge req)
      (fun username st' => SameAuth st st' ∧ TrimSpace username = username ∧
        ∃ w, signerOf s.ethereum req.Message req.Signature = some w ∧ st.Linked w username) st := by
  refine ensures_bind (ensures_findWalletChallenge req.ChallengeID hI) ?_
  rintro challenge st₁ ⟨h₁, -, -⟩
  refine ensures_ite (fun _ => ensures_fail (hI _ h₁)) fun _ => ?_
  refine ensures_ite (fun _ => ensures_fail (hI _ h₁)) fun haddress => ?_
  refine ensures_ite (fun _ => ensures_fail (hI _ h₁)) fun _ => ?_
  refine ensures_ite (fun _ => ensures_fail (hI _ h₁)) fun hsig => ?_
  obtain ⟨w, hw, hspells⟩ := verifyEthereumSignature_ok hsig
  refine ensures_bind (ensures_redeem _ h₁ hI) ?_
  rintro - st₂ h₂
  refine ensures_bind (ensures_walletLinkedUsername _) ?_
  rintro (e | linked) st₃ ⟨rfl, hlinked⟩
  · exact ensures_fail (hI _ h₂)
  · refine ensures_ite (fun _ => ensures_fail (hI _ h₂)) fun hne => ?_
    refine ensures_ite (fun _ => ensures_fail (hI _ h₂)) fun heq => ?_
    refine ensures_pure ⟨h₂, TrimSpace_idem _, w, hw, ?_⟩
    -- the name of the link is the name of the challenge
    have hname := hlinked linked rfl
    simp only [TrimSpace_ToLower_TrimSpace, ToLower_idem] at hname
    rw [not_not.1 heq] at hname hne
    exact h₂.linked.1 (.of_linkedName (mem_spellings hspells (ToLower_idem _)) hname.symm hne)

theorem ensures_parseWalletLoginRequest {I : Store → Prop} (body : Body walletVerifyRequest)
    (hI : I st) :
    Ensures storeEnv I (Server.parseWalletLoginRequest body)
      (fun req st' => st' = st ∧ ∃ b, body = .ok b ∧ req = ⟨TrimSpace b.ChallengeID,
        TrimSpace b.Address, TrimSpace b.Signature, TrimSpace b.Message⟩) st := by
  refine ensures_bind (ensures_ParseJSON body hI) ?_
  rintro b st' ⟨rfl, hb⟩
  exact (ensures_checkWalletVerifyRequest "" b hI).mono fun req st' h => ⟨h.1, b, hb, h.2.1⟩

theorem handleWalletLogin_good (hwf : st.Wf) (ctx : Context) (body : Body walletVerifyRequest) :
    wp storeEnv (s.handleWalletLogin ctx body)
      (fun _ st' => s.Good st (.walletLogin ctx body) st') st := by
  have hquiet : ∀ st', SameAuth st st' → s.Good st (.walletLogin ctx body) st' :=
    fun st' h => (h.calm hwf).good
  refine Ensures.wp ?_
  refine ensures_bind (ensures_parseWalletLoginRequest body (hquiet _ (.refl st))) ?_
  rintro req st' ⟨rfl, b, rfl, rfl⟩
  refine ensures_bind (ensures_verifyWalletLoginChallenge _ hquiet) ?_
  rintro username st₁ ⟨h₁, htrim, w, hw, hlinked⟩
  refine ensures_bind (ensures_getUser (I := _) username (P := fun r st'' => st'' = st₁ ∧
    ∀ x, r = .ok x → st₁.users username = some x) fun r hok _ => ⟨rfl, hok⟩) ?_
  rintro (e | user) st'' ⟨rfl, huser⟩
  · exact ensures_fail (hquiet _ h₁)
  · have hfound := huser user rfl
    have hrole : TrimSpace user.Role = user.Role :=
      (hwf.roles username user (by rw [← h₁.users]; exact hfound)).1
    have hgood : ∀ st', Evolves (.sessionOf username user.Role "wallet") st'' st' →
        s.Good _ (.walletLogin ctx (.ok b)) st' := fun st' h =>
      (h₁.calm hwf).login h ⟨user, hfound, rfl⟩ (Or.inl ⟨w, hw, Or.inl hlinked⟩)
    refine ensures_bind (ensures_evolves (createOperatorSession_only ?_) (.refl _ _) hgood) ?_
    · exact fun token now => ⟨htrim, hrole, (by decide : TrimSpace "wallet" = "wallet")⟩
    · rintro (e | ⟨token, expiresAt⟩) st₂ h₂
      · exact ensures_fail (hgood _ h₂)
      · refine ensures_bind (ensures_evolves (now_only.mono fun _ => Op.quiet.permitted) h₂ hgood) ?_
        rintro t st₃ h₃
        refine ensures_bind (ensures_evolves
          ((writeAuditLog_only _).mono fun _ => Op.quiet.permitted) h₃ hgood) ?_
        exact fun _ _ h => ensures_pure (hgood _ h)

/-! ## The portal's login -/

/-- What the portal's login knows of the challenge it redeemed. -/
structure Redeemed (s : Server) (st : Store) (req : portalWalletLoginRequest)
    (c : WalletChallenge) (username address : String) (w : Wallet) : Prop where
  found : st.walletChallenges (TrimSpace req.ChallengeID) = some c
  live : c.live st.now = true
  named : username = TrimSpace c.Username
  claimed : address = ToLower (TrimSpace req.Address)
  asked : address = ToLower (TrimSpace c.Address)
  message : TrimSpace req.Message = TrimSpace c.Message
  signer : signerOf s.ethereum req.Message req.Signature = some w
  spells : spells address w = true

theorem Redeemed.trimmed {req : portalWalletLoginRequest} {c : WalletChallenge}
    {username address : String} {w : Wallet} (h : Redeemed s st req c username address w) :
    TrimSpace username = username := by
  rw [h.named, TrimSpace_idem]

theorem Redeemed.lower {req : portalWalletLoginRequest} {c : WalletChallenge}
    {username address : String} {w : Wallet} (h : Redeemed s st req c username address w) :
    ToLower address = address ∧ ToLower (TrimSpace address) = address := by
  rw [h.claimed, TrimSpace_ToLower_TrimSpace, ToLower_idem]
  exact ⟨rfl, rfl⟩

/-- Outside the exception, an unlinked address of a wallet that logs in as a customer who exists is
    another spelling of one that is linked. -/
theorem Redeemed.linked_of_unlinked {ctx : Context} {b : portalWalletLoginRequest}
    {c : WalletChallenge} {username address : String} {w : Wallet} {st₁ : Store} {user : User}
    (h : Redeemed s st ⟨TrimSpace b.ChallengeID, TrimSpace b.Address, TrimSpace b.Signature,
      TrimSpace b.Message, TrimSpace b.Email, TrimSpace b.DisplayName⟩ c username address w)
    (hcomplete : b.complete = true)
    (hcond : s.takesOver st (.portalWalletLogin ctx (.ok b)) = false)
    (hunlinked : st₁.linkedName address = "") (h₁ : SameAuth st st₁)
    (hvalid : (ValidateManagedHandle username).toBool = true)
    (hfound : st.users username = some user) (hcustomer : TrimSpace user.Role = RoleCustomer) :
    st.Linked w username := by
  have hname : st.linkedName address = "" := by
    rw [← hunlinked]
    simp only [Store.linkedName, h₁.links]
  have hchallenge := h.found
  have hclaimed := h.claimed
  simp only [TrimSpace_idem] at hchallenge hclaimed
  have hmessage := h.message
  simp only [TrimSpace_idem] at hmessage
  have hasked : ToLower (TrimSpace b.Address) = ToLower (TrimSpace c.Address) :=
    hclaimed.symm.trans h.asked
  have hsigner : signerOf s.ethereum (TrimSpace b.Message) (TrimSpace b.Signature) = some w :=
    h.signer
  have hspells := h.spells
  rw [hclaimed] at hspells hname
  rw [h.named] at hvalid hfound ⊢
  simp only [Server.takesOver, hchallenge, hsigner, hcomplete, h.live, hspells, hname, hvalid, hfound,
    hcustomer, Option.any_some] at hcond
  simpa [hasked, hmessage] using hcond

theorem ensures_validatePortalWalletLoginChallenge {I : Store → Prop}
    (req : portalWalletLoginRequest) (hI : ∀ st', SameAuth st st' → I st') :
    Ensures storeEnv I (s.validatePortalWalletLoginChallenge req)
      (fun r st' => SameAuth st st' ∧ ∃ w, Redeemed s st req r.1 r.2.1 r.2.2 w) st := by
  refine ensures_bind (ensures_findWalletChallenge req.ChallengeID hI) ?_
  rintro challenge st₁ ⟨h₁, hfound, hlive⟩
  refine ensures_ite (fun _ => ensures_fail (hI _ h₁)) fun _ => ?_
  refine ensures_ite (fun _ => ensures_fail (hI _ h₁)) fun haddress => ?_
  refine ensures_ite (fun _ => ensures_fail (hI _ h₁)) fun hmessage => ?_
  refine ensures_ite (fun _ => ensures_fail (hI _ h₁)) fun hsig => ?_
  obtain ⟨w, hw, hspells⟩ := verifyEthereumSignature_ok hsig
  refine ensures_bind (ensures_redeem _ h₁ hI) ?_
  rintro - st₂ h₂
  exact ensures_pure ⟨h₂, w, hfound, hlive, rfl, rfl, not_not.1 haddress, not_not.1 hmessage, hw,
    hspells⟩

theorem ensures_parsePortalWalletLogin {I : Store → Prop} (body : Body portalWalletLoginRequest)
    (hI : I st) :
    Ensures storeEnv I (Server.parsePortalWalletLogin body)
      (fun req st' => st' = st ∧ ∃ b, body = .ok b ∧ req = ⟨TrimSpace b.ChallengeID,
        TrimSpace b.Address, TrimSpace b.Signature, TrimSpace b.Message, TrimSpace b.Email,
        TrimSpace b.DisplayName⟩ ∧ b.complete = true) st := by
  refine ensures_bind (ensures_ParseJSON body hI) ?_
  rintro b st' ⟨rfl, hb⟩
  refine ensures_bind (ensures_checkWalletVerifyRequest "" _ hI) ?_
  rintro checked st'' ⟨rfl, rfl, hid, haddress, hsignature, hmessage⟩
  refine ensures_pure ⟨rfl, b, hb, rfl, ?_⟩
  simp only [portalWalletLoginRequest.complete, Bool.and_eq_true, bne_iff_ne]
  exact ⟨⟨⟨hid, haddress⟩, hsignature⟩, hmessage⟩

/-- The table is ready for a session of the user: nothing but harmless rows were added, the user
    exists with the role, and the wallet was linked to the user or the user is new. -/
structure Ready (st st₁ : Store) (w : Wallet) (username role : String) : Prop where
  calm : Calm st st₁
  role : ∃ x, st₁.users username = some x ∧ x.Role = role
  linked : st.Linked w username ∨ (st.users username = none ∧ st₁.Linked w username)

/-- The grant of a link of one address to one user. -/
def Grant.linkOf (username address : String) (newUser : Prop) : Grant where
  user u := newUser ∧ u = username
  link a u := a = address ∧ u = username
  session _ := False

theorem linkRows_permitted {username address : String} {newUser : Prop} {chainID : Int} {now : Time}
    (hname : TrimSpace username = username) (haddress : ToLower (TrimSpace address) = address) :
    ∀ w ∈ Server.linkRows username address chainID now,
      w.permitted (.linkOf username address newUser) ∧ w.plain := by
  intro w hw
  simp only [Server.linkRows, List.mem_cons, List.not_mem_nil, or_false] at hw
  rcases hw with rfl | rfl
  · exact ⟨⟨address, rfl, hname⟩, trivial⟩
  · exact ⟨⟨haddress, by simp only [WalletIndex.UpdateKeys, hname]⟩, trivial⟩

/-- The rows of a link make the link. -/
theorem linked_of_linkRows {username address : String} {chainID : Int} {now : Time} {w : Wallet}
    (haddress : ToLower (TrimSpace address) = address) (hname : TrimSpace username = username)
    (hw : address ∈ w.spellings) (st : Store) :
    ((Server.linkRows username address chainID now).foldl Write.apply st).Linked w username := by
  refine ⟨address, hw, WalletIndex.UpdateKeys Server.walletTypeEthereum address username, ?_, ?_⟩
  · simp only [Server.linkRows, List.foldl_cons, List.foldl_nil, Write.apply,
      WalletIndex.UpdateKeys, haddress, set_self]
    exact mem_insertIndex.2 (Or.inl rfl)
  · simp only [WalletIndex.UpdateKeys, hname]

/-- A link to a user who is new or whom the wallet of the address is linked to. -/
theorem Calm.of_link {st₀ st₁ : Store} {username address : String} {newUser : Prop}
    (hwf : st.Wf) (h₀ : SameAuth st st₀) (h : Evolves (.linkOf username address newUser) st₀ st₁)
    (hlink : (∃ w : Wallet, address ∈ w.spellings ∧ st.Linked w username) ∨
      st.users username = none) (huser : (st₁.users username).isSome) : Calm st st₁ where
  sessions id ss hss := by
    rcases h.sessions id ss hss with hold | hnew
    · rw [← h₀.sessions]
      exact hold
    · exact hnew.elim
  links w' u hl := by
    rcases h.linked_cases hl with hold | ⟨a, ha, rfl, rfl⟩
    · exact Or.inl (h₀.linked.1 hold)
    · refine hlink.imp_left ?_
      rintro ⟨w, hw, a', ha', hrow⟩
      exact ⟨a', by rw [spellings_eq hw ha]; exact ha', hrow⟩
  wf := hwf.evolves (h₀.evolves.trans h) fun a u hu => hu.2 ▸ huser

/-- The grants of a link whose rows are in the table make it ready. -/
theorem Ready.of_link {st₀ st₁ : Store} {w : Wallet} {username address role : String}
    {newUser : Prop} (hwf : st.Wf) (h₀ : SameAuth st st₀)
    (h : Evolves (.linkOf username address newUser) st₀ st₁) (hw : address ∈ w.spellings)
    (hlink : st.Linked w username ∨ st.users username = none) (hnew : st₁.Linked w username)
    (hrole : ∃ x, st₁.users username = some x ∧ x.Role = role) :
    Ready st st₁ w username role where
  calm := .of_link hwf h₀ h (hlink.imp_left fun hl => ⟨w, hw, hl⟩) (by
    obtain ⟨x, hx, -⟩ := hrole
    rw [hx]
    rfl)
  role := hrole
  linked := hlink.imp_right fun hnone => ⟨hnone, hnew⟩

theorem portalUser_key {username address email displayName : String} {now : Time}
    (hname : TrimSpace username = username) :
    (Server.portalUser username address email displayName now).key = username := hname

theorem portalUser_role (username address email displayName : String) (now : Time) :
    (Server.portalUser username address email displayName now).Role = RoleCustomer := rfl

theorem goodRole_customer : GoodRole RoleCustomer := ⟨by decide, by decide⟩

theorem goodRole_admin : GoodRole RoleAdmin := ⟨by decide, by decide⟩

/-- Nothing is in the way of a link to a user who does not exist. -/
theorem linkRows_allowed (hwf : st.Wf) {username address : String} {chainID : Int} {now : Time}
    (hname : TrimSpace username = username) (hnone : st.users username = none) :
    (Server.linkRows username address chainID now).all (Write.allowed st) = true := by
  have habsent : ¬(st.users username).isSome := by rw [hnone]; decide
  have hcredential : ∀ w : WalletCredential, w.Username = username →
      Write.allowed st (.createWalletCredential w) = true := by
    intro w hw
    rw [Write.allowed, Option.isNone_iff_eq_none, ← Option.not_isSome_iff_eq_none]
    intro hsome
    obtain ⟨c, hc⟩ := Option.isSome_iff_exists.1 hsome
    have huser := hwf.credentials _ c hc
    rw [WalletCredential.key, hw, hname] at huser
    exact habsent huser
  have hindex : Write.allowed st
      (.createWalletIndex (WalletIndex.UpdateKeys Server.walletTypeEthereum address username)) = true := by
    simp only [Write.allowed, WalletIndex.UpdateKeys, List.all_eq_true, bne_iff_ne]
    intro row hrow heq
    have hrowUser := hwf.links _ row hrow
    rw [heq, TrimSpace_idem, hname] at hrowUser
    exact habsent hrowUser
  rw [Server.linkRows, List.all_cons, List.all_cons, List.all_nil, hcredential _ rfl, hindex]
  rfl

/-- What the transaction of a first login leaves behind. -/
theorem portalRows_ready {st₀ : Store} {w : Wallet} {username address : String} (hwf : st.Wf)
    (h₀ : SameAuth st st₀) (hname : TrimSpace username = username)
    (haddress : ToLower (TrimSpace address) = address) (hw : address ∈ w.spellings)
    (hnone : st.users username = none) (chainID : Int) (email displayName : String) (now : Time) :
    Ready st ((Write.createUser (Server.portalUser username address email displayName now) ::
      Server.linkRows username address chainID now).foldl Write.apply st₀) w username
      RoleCustomer := by
  have hkey : (Server.portalUser username address email displayName now).key = username :=
    portalUser_key hname
  rw [List.foldl_cons]
  have hcreated : Evolves (.linkOf username address True) st₀
      ((Write.createUser (Server.portalUser username address email displayName now)).apply st₀) :=
    .createUser (by rw [hkey, h₀.users]; exact hnone) ⟨trivial, hkey⟩ goodRole_customer
  have hlinked : Evolves (.linkOf username address True)
      ((Write.createUser (Server.portalUser username address email displayName now)).apply st₀)
      ((Server.linkRows username address chainID now).foldl Write.apply
        ((Write.createUser (Server.portalUser username address email displayName now)).apply st₀)) :=
    foldl_evolves (linkRows_permitted hname haddress)
  refine .of_link hwf h₀ (hcreated.trans hlinked) hw (Or.inr hnone)
    (linked_of_linkRows haddress hname hw _) ?_
  obtain ⟨x, hx, hrole⟩ := hlinked.kept username
    (Server.portalUser username address email displayName now)
    (by simp only [Write.apply, hkey, set_self])
  exact ⟨x, hx, hrole.trans (portalUser_role _ _ _ _ _)⟩

theorem ensures_createPortalWalletUser {I : Store → Prop} {st₀ : Store} {w : Wallet}
    {username address : String} (hwf : st.Wf) (h₀ : SameAuth st st₀)
    (hname : TrimSpace username = username) (haddress : ToLower (TrimSpace address) = address)
    (hw : address ∈ w.spellings) (hnone : st.users username = none)
    (hI : ∀ st', Calm st st' → I st') (chainID : Int) (email displayName : String) (now : Time) :
    Ensures storeEnv I
      (Server.createPortalWalletUser username address chainID email displayName now)
      (fun user st' => Ready st st' w username user.Role) st₀ := by
  have hfree : st₀.users username = none := by rw [h₀.users]; exact hnone
  have hdone := portalRows_ready hwf h₀ hname haddress hw hnone chainID email displayName now
  refine ensures_bind (ensures_write _ (P := fun r st' =>
    (r = .ok () ∧ Ready st st' w username RoleCustomer) ∨ (r = .error .other ∧ I st')) ?_ ?_ ?_) ?_
  · exact fun _ => Or.inl ⟨rfl, hdone⟩
  · intro hblocked
    rw [List.all_cons, linkRows_allowed (h₀.calm hwf).wf hname hfree, Bool.and_true, Write.allowed,
      portalUser_key hname, hfree] at hblocked
    cases hblocked
  · rintro st' (rfl | ⟨-, rfl⟩)
    · exact Or.inr ⟨rfl, hI _ (h₀.calm hwf)⟩
    · exact Or.inr ⟨rfl, hI _ hdone.calm⟩
  · rintro r st' (⟨rfl, hready⟩ | ⟨rfl, hst'⟩)
    · exact ensures_pure hready
    · exact ensures_fail hst'

theorem ensures_linkPortalWalletToCustomer {I : Store → Prop} {st₀ : Store} {w : Wallet}
    {username address : String} {user : User} (hwf : st.Wf) (h₀ : SameAuth st st₀)
    (hname : TrimSpace username = username) (haddress : ToLower (TrimSpace address) = address)
    (hw : address ∈ w.spellings) (huser : st.users username = some user)
    (hlink : TrimSpace user.Role = RoleCustomer → st.Linked w username)
    (hI : ∀ st', Calm st st' → I st') (chainID : Int) (email : String) (now : Time) :
    Ensures storeEnv I
      (Server.linkPortalWalletToCustomer user username address chainID email now)
      (fun _ st' => Ready st st' w username user.Role) st₀ := by
  refine ensures_ite (fun _ => ensures_fail (hI _ (h₀.calm hwf))) fun hcustomer => ?_
  have hlinked := hlink (not_not.1 hcustomer)
  -- whatever of the link is written, the wallet was linked to the user before
  have hready : ∀ st', Evolves (.linkOf username address False) st₀ st' →
      Ready st st' w username user.Role := fun st' h =>
    .of_link hwf h₀ h hw (Or.inl hlinked) (h.linked (h₀.linked.2 hlinked))
      (h.kept username user (by rw [h₀.users]; exact huser))
  have hrows : Evolves (.linkOf username address False) st₀
      ((Server.linkRows username address chainID now).foldl Write.apply st₀) :=
    foldl_evolves (linkRows_permitted hname haddress)
  refine ensures_bind (ensures_write _ (P := fun _ st' =>
    Evolves (.linkOf username address False) st₀ st') ?_ ?_ ?_) ?_
  · exact fun _ => hrows
  · exact fun _ => .refl _ _
  · rintro st' (rfl | ⟨-, rfl⟩)
    · exact .refl _ _
    · exact hrows
  · rintro ((_ | _ | _) | ⟨⟩) st' h
    · exact ensures_fail (hI _ (hready _ h).calm)
    · exact (ensures_evolves (fillUserEmail_only _ _ _) h fun _ h' => hI _ (hready _ h').calm).mono
        fun _ _ h' => hready _ h'
    · exact ensures_fail (hI _ (hready _ h).calm)
    · exact (ensures_evolves (fillUserEmail_only _ _ _) h fun _ h' => hI _ (hready _ h').calm).mono
        fun _ _ h' => hready _ h'

theorem ensures_ensurePortalWalletUser {I : Store → Prop} {st₀ : Store} {w : Wallet}
    {username address linked : String} (hwf : st.Wf) (h₀ : SameAuth st st₀)
    (hname : TrimSpace username = username) (haddress : ToLower (TrimSpace address) = address)
    (hw : address ∈ w.spellings) (hlinked : linked ≠ "" → st.Linked w username)
    (hlink : linked = "" → (ValidateManagedHandle username).toBool = true →
      ∀ user, st.users username = some user → TrimSpace user.Role = RoleCustomer →
        st.Linked w username)
    (hI : ∀ st', Calm st st' → I st') (chainID : Int) (email displayName : String) (now : Time) :
    Ensures storeEnv I
      (Server.ensurePortalWalletUser username address chainID linked email displayName now)
      (fun user st' => Ready st st' w username user.Role) st₀ := by
  unfold Server.ensurePortalWalletUser
  cases hvalid : ValidateManagedHandle username with
  | error e => exact ensures_fail (hI _ (h₀.calm hwf))
  | ok normalizedUsername =>
      obtain rfl := ValidateManagedHandle_eq hvalid
      refine ensures_ite (fun _ => ensures_fail (hI _ (h₀.calm hwf))) fun _ => ?_
      refine ensures_bind (R := fun found st' => st' = st₀ ∧ st.users normalizedUsername = found)
        ?_ ?_
      · refine ensures_bind (ensures_getUser normalizedUsername (P := fun r st' => st' = st₀ ∧
          (∀ x, r = .ok x → st.users normalizedUsername = some x) ∧
          (r = .error .notFound → st.users normalizedUsername = none)) ?_) ?_
        · intro r hok hnone
          rw [h₀.users] at hok hnone
          exact ⟨rfl, hok, hnone⟩
        · rintro ((_ | _ | _) | user) st' ⟨rfl, hok, hnone⟩
          · exact ensures_pure ⟨rfl, hnone rfl⟩
          · exact ensures_fail (hI _ (h₀.calm hwf))
          · exact ensures_fail (hI _ (h₀.calm hwf))
          · exact ensures_pure ⟨rfl, hok user rfl⟩
      · rintro (_ | user) st' ⟨rfl, hfound⟩
        · exact ensures_createPortalWalletUser hwf h₀ hname haddress hw hfound hI chainID email
            displayName now
        · refine ensures_ite (fun hunlinked => ?_) fun hne => ?_
          · refine ensures_bind (ensures_linkPortalWalletToCustomer hwf h₀ hname haddress hw hfound
              (hlink hunlinked (by rw [hvalid]; rfl) user hfound) hI chainID email now) ?_
            exact fun _ _ h => ensures_pure h
          · exact ensures_pure ⟨h₀.calm hwf, ⟨user, by rw [h₀.users]; exact hfound, rfl⟩,
              Or.inl (hlinked hne)⟩

/-- The portal opens a session in the stored role. -/
theorem portalSessionRole_eq {user : User} (h : GoodRole user.Role) :
    Server.portalSessionRole user = user.Role := by
  unfold Server.portalSessionRole
  rw [h.1, if_neg h.2]

theorem handlePortalWalletLogin_good (hwf : st.Wf) (ctx : Context)
    (body : Body portalWalletLoginRequest)
    (hcond : s.takesOver st (.portalWalletLogin ctx body) = false) :
    wp storeEnv (s.handlePortalWalletLogin ctx body)
      (fun _ st' => s.Good st (.portalWalletLogin ctx body) st') st := by
  have hquiet : ∀ st', SameAuth st st' → s.Good st (.portalWalletLogin ctx body) st' :=
    fun st' h => (h.calm hwf).good
  refine Ensures.wp ?_
  refine ensures_bind (ensures_parsePortalWalletLogin body (hquiet _ (.refl st))) ?_
  rintro req st' ⟨rfl, b, rfl, rfl, hcomplete⟩
  refine ensures_bind (ensures_validatePortalWalletLoginChallenge _ hquiet) ?_
  rintro ⟨challenge, username, address⟩ st₁ ⟨h₁, w, hredeemed⟩
  have hw : address ∈ w.spellings := mem_spellings hredeemed.spells hredeemed.lower.1
  refine ensures_bind (ensures_walletLinkedUsername _) ?_
  rintro (e | linked) st₂ ⟨rfl, hlinked⟩
  · exact ensures_fail (hquiet _ h₁)
  · have hname := hlinked linked rfl
    rw [hredeemed.lower.2] at hname
    refine ensures_ite (fun _ => ensures_fail (hquiet _ h₁)) fun hother => ?_
    refine ensures_bind (ensures_now (P := fun _ st₃ => SameAuth st' st₃)
      fun t _ => h₁.trans (.at_now _ t)) ?_
    rintro t st₃ h₃
    refine ensures_bind (ensures_ensurePortalWalletUser (w := w) hwf h₃
      hredeemed.trimmed hredeemed.lower.2 hw ?_ ?_ (fun _ h => h.good) _ _ _ _) ?_
    · intro hne
      have heq : linked = username := by
        by_contra hdiff
        exact hother ⟨hne, hdiff⟩
      exact h₁.linked.1 (.of_linkedName hw (hname.symm.trans heq) (heq ▸ hne))
    · intro hunlinked hvalid user hfound hcustomer
      exact hredeemed.linked_of_unlinked hcomplete hcond (hname.symm.trans hunlinked) h₁ hvalid hfound
        hcustomer
    · rintro user st₄ hready
      have hrole : GoodRole user.Role := by
        obtain ⟨x, hx, hr⟩ := hready.role
        exact hr ▸ hready.calm.wf.roles _ x hx
      have hgood : ∀ st'', Evolves (.sessionOf username user.Role "wallet") st₄ st'' →
          s.Good st' (.portalWalletLogin ctx (.ok b)) st'' := fun st'' h =>
        hready.calm.login h hready.role (Or.inl ⟨w, hredeemed.signer, hready.linked⟩)
      rw [portalSessionRole_eq hrole]
      refine ensures_bind (ensures_evolves (createOperatorSession_only ?_) (.refl _ _) hgood) ?_
      · exact fun token now =>
          ⟨hredeemed.trimmed, hrole.1, (by decide : TrimSpace "wallet" = "wallet")⟩
      · rintro (e | ⟨token, expiresAt⟩) st₅ h₅
        · exact ensures_fail (hgood _ h₅)
        · refine ensures_bind (ensures_evolves
            ((tryWriteAuditLog_only _ _).mono fun _ => Op.quiet.permitted) h₅ hgood) ?_
          exact fun _ _ h => ensures_pure (hgood _ h)

/-! ## Creating the primary admin -/

theorem buildSetupAdminUserModel_key (username displayName : String) (now : Time) :
    (Server.buildSetupAdminUserModel username displayName now).key = TrimSpace username :=
  TrimSpace_idem username

/-- The admin's row under a name that is free. -/
theorem evolves_createAdmin {g : Grant} {st₀ : Store} {username displayName : String} {now : Time}
    (hfree : st₀.users (TrimSpace username) = none) (hg : g.user (TrimSpace username)) :
    Evolves g st₀ ((Write.createUser
      (Server.buildSetupAdminUserModel username displayName now)).apply st₀) := by
  refine .createUser ?_ ?_ goodRole_admin
  · rw [buildSetupAdminUserModel_key]
    exact hfree
  · rw [buildSetupAdminUserModel_key]
    exact hg

theorem users_createAdmin (st₀ : Store) (username displayName : String) (now : Time) :
    ((Write.createUser (Server.buildSetupAdminUserModel username displayName now)).apply st₀).users
      (TrimSpace username) = some (Server.buildSetupAdminUserModel username displayName now) := by
  simp only [Write.apply, buildSetupAdminUserModel_key, set_self]

theorem ensures_createSetupAdminUser {I : Store → Prop} {st₀ : Store} (hwf : st.Wf)
    (h₀ : SameAuth st st₀) (username displayName address : String) (now : Time)
    (hI : ∀ st', Calm st st' → I st') :
    Ensures storeEnv I (Server.createSetupAdminUser username displayName now)
      (fun _ st' => st.users (TrimSpace username) = none ∧
        (st'.users (TrimSpace username)).isSome ∧
        Evolves (.linkOf (TrimSpace username) address True) st₀ st') st₀ := by
  have hdone : [Write.createUser (Server.buildSetupAdminUserModel username displayName now)].all
      (Write.allowed st₀) = true → ∀ st', st' = [Write.createUser
        (Server.buildSetupAdminUserModel username displayName now)].foldl Write.apply st₀ →
      st.users (TrimSpace username) = none ∧ (st'.users (TrimSpace username)).isSome ∧
        Evolves (.linkOf (TrimSpace username) address True) st₀ st' := by
    rintro hall st' rfl
    rw [List.all_cons, List.all_nil, Bool.and_true, Write.allowed, buildSetupAdminUserModel_key,
      Option.isNone_iff_eq_none] at hall
    refine ⟨by rw [← h₀.users]; exact hall, ?_, evolves_createAdmin hall ⟨trivial, rfl⟩⟩
    rw [List.foldl_cons, List.foldl_nil, users_createAdmin]
    rfl
  refine ensures_bind (ensures_write _ (P := fun r st' => (r = .ok () ∧
    st.users (TrimSpace username) = none ∧ (st'.users (TrimSpace username)).isSome ∧
      Evolves (.linkOf (TrimSpace username) address True) st₀ st') ∨ (∃ e, r = .error e) ∧ I st')
    ?_ ?_ ?_) ?_
  · exact fun hall => Or.inl ⟨rfl, hdone hall _ rfl⟩
  · exact fun _ => Or.inr ⟨⟨_, rfl⟩, hI _ (h₀.calm hwf)⟩
  · rintro st' (rfl | ⟨hall, rfl⟩)
    · exact Or.inr ⟨⟨_, rfl⟩, hI _ (h₀.calm hwf)⟩
    · obtain ⟨hnone, hsome, hevolves⟩ := hdone hall _ rfl
      exact Or.inr ⟨⟨_, rfl⟩, hI _ (.of_link hwf h₀ hevolves (Or.inr hnone) hsome)⟩
  · rintro r st' (⟨rfl, h⟩ | ⟨⟨_ | _ | _, rfl⟩, hst'⟩)
    · exact ensures_pure h
    · exact ensures_fail hst'
    · exact ensures_fail hst'
    · exact ensures_fail hst'

theorem writeLink_only {g : Grant} {w : Write} (h : w.permitted g) :
    (Server.writeLink w).Only (Op.permitted g) := by
  refine only_bind (write_one_permitted h) fun r => ?_
  rcases r with e | ⟨⟩ <;> simp

theorem linkSetupAdminWallet_only (username walletAddr : String) (chainID : Int) (now : Time) :
    (Server.linkSetupAdminWallet username walletAddr chainID now).Only
      (Op.permitted (.linkOf (TrimSpace username) (ToLower (TrimSpace walletAddr)) True)) := by
  refine only_bind (writeLink_only ⟨_, rfl, TrimSpace_idem username⟩) fun _ => writeLink_only ?_
  exact ⟨rfl, TrimSpace_idem username⟩

theorem setControlPlanePrimaryAdmin_only (username : String) :
    (Server.setControlPlanePrimaryAdmin username).Only Op.quiet := by
  refine only_bind (write_one_only trivial) fun r => ?_
  rcases r with e | ⟨⟩ <;> simp

theorem rejectBootstrapWalletAsSetupAdmin_only (walletAddr : String) :
    (s.rejectBootstrapWalletAsSetupAdmin walletAddr).Only Op.quiet := by
  unfold Server.rejectBootstrapWalletAsSetupAdmin
  exact only_ite (by simp) (by simp)

theorem verifySetupCreateAdminWallet_only (username : String) (wallet : walletVerifyRequest) :
    (s.verifySetupCreateAdminWallet username wallet).Only Op.quiet := by
  refine only_bind (findWalletChallenge_only _) fun challenge =>
    only_ite (by simp) (only_ite (by simp) (only_ite (by simp)
      (only_bind (walletLinkedUsername_only _ _) fun r => ?_)))
  rcases r with e | existing
  · simp
  · exact only_ite (by simp) (only_ite (by simp)
      (only_bind (redeemWalletChallenge_only _) fun _ => only_pure _))

theorem ensures_handleSetupCreateAdminWithWallet {I : Store → Prop} {st₀ : Store} (hwf : st.Wf)
    (h₀ : SameAuth st st₀) (hI : ∀ st', Calm st st' → I st') (ctx : Context)
    (username displayName : String) (wallet : walletVerifyRequest) :
    Ensures storeEnv I (s.handleSetupCreateAdminWithWallet ctx username displayName wallet)
      (fun _ st' => I st') st₀ := by
  have hquiet : ∀ st', SameAuth st st' → I st' := fun st' h => hI _ (h.calm hwf)
  refine ensures_bind (ensures_same (rejectBootstrapWalletAsSetupAdmin_only _) h₀ hquiet) ?_
  rintro - st₁ h₁
  refine ensures_bind (ensures_same (verifySetupCreateAdminWallet_only _ _) h₁ hquiet) ?_
  rintro ⟨adminWalletAddr, chainID⟩ st₂ h₂
  refine ensures_bind (ensures_same now_only h₂ hquiet) ?_
  rintro t st₃ h₃
  refine ensures_bind (ensures_createSetupAdminUser hwf h₃ username displayName
    (ToLower (TrimSpace adminWalletAddr)) t hI) ?_
  rintro - st₄ ⟨hnone, hsome, h₄⟩
  -- from here on the user exists, and was not there before the request
  have hlater : ∀ st', Evolves (.linkOf (TrimSpace username) (ToLower (TrimSpace adminWalletAddr))
      True) st₄ st' → I st' := fun st' h =>
    hI _ (.of_link hwf h₃ (h₄.trans h) (Or.inr hnone) (h.user_isSome hsome))
  refine ensures_bind (ensures_evolves (linkSetupAdminWallet_only _ _ _ _) (.refl _ _) hlater) ?_
  rintro - st₅ h₅
  refine ensures_bind (ensures_evolves
    ((setControlPlanePrimaryAdmin_only _).mono fun _ => Op.quiet.permitted) h₅ hlater) ?_
  rintro - st₆ h₆
  refine ensures_bind (ensures_evolves
    ((writeAuditLog_only _).mono fun _ => Op.quiet.permitted) h₆ hlater) ?_
  exact fun _ _ h => ensures_pure (hlater _ h)

/-- The rows of the passkey's transaction after the admin's own: a credential, a session of the
    admin, and quiet rows. -/
theorem passkeyRows_good {st₀ : Store} {req : Request} {username displayName token : String}
    {t : Time} {credential : WebAuthnCredential} {cfg : ControlPlaneConfig}
    {audit audit' : AuditLogEntry} {challenge userID : String} {ws : List Write} (hwf : st.Wf)
    (h₀ : SameAuth st st₀)
    (hws : ws = [.createUser (Server.buildSetupAdminUserModel username displayName t),
      .createWebAuthnCredential credential,
      .createOperatorSession (s.buildOperatorSessionModel token username RoleAdmin "webauthn" t),
      .createControlPlaneConfig cfg, .putAuditLogEntry audit, .putAuditLogEntry audit',
      .consumeWebAuthnChallenge challenge userID t])
    (hall : ws.all (Write.allowed st₀) = true) :
    s.Good st req (ws.foldl Write.apply st₀) := by
  subst hws
  rw [List.all_cons, Bool.and_eq_true, Write.allowed, buildSetupAdminUserModel_key,
    Option.isNone_iff_eq_none] at hall
  have hnone : st.users (TrimSpace username) = none := by rw [← h₀.users]; exact hall.1
  have hadmin := users_createAdmin st₀ username displayName t
  have hcreated : Calm st ((Write.createUser (Server.buildSetupAdminUserModel username displayName
      t)).apply st₀) :=
    @Calm.of_link _ _ _ _ "" _ hwf h₀ (evolves_createAdmin hall.1 ⟨trivial, rfl⟩) (Or.inr hnone)
      (by rw [hadmin]; rfl)
  rw [List.foldl_cons]
  refine hcreated.login (foldl_evolves (g := .sessionOf (TrimSpace username) RoleAdmin "webauthn")
    ?_) ⟨_, hadmin, rfl⟩ (Or.inr ⟨rfl, hnone⟩)
  intro w hw
  simp only [List.mem_cons, List.not_mem_nil, or_false] at hw
  rcases hw with rfl | rfl | rfl | rfl | rfl | rfl
  case inr.inl =>
    exact ⟨⟨rfl, goodRole_admin.1, (by decide : TrimSpace "webauthn" = "webauthn")⟩,
      trivial⟩
  all_goals exact ⟨trivial, trivial⟩

theorem ensures_handleSetupCreateAdminWithPasskey {st₀ : Store} (hwf : st.Wf)
    (h₀ : SameAuth st st₀) (req : Request) (ctx : Context) (username displayName : String)
    (passkey : webAuthnFinishRegistrationRequest) :
    Ensures storeEnv (s.Good st req)
      (s.handleSetupCreateAdminWithPasskey ctx username displayName passkey)
      (fun _ st' => s.Good st req st') st₀ := by
  have hquiet : ∀ st', SameAuth st st' → s.Good st req st' := fun st' h => (h.calm hwf).good
  refine ensures_bind (R := fun _ st' => SameAuth st st') ?_ ?_
  · unfold Server.ensureWebAuthnConfigured
    split
    · exact ensures_pure h₀
    · exact ensures_fail (hquiet _ h₀)
  rintro library st₁ h₁
  refine ensures_bind (ensures_same (setupAdminExistingUserConflict_only _) h₁ hquiet) ?_
  rintro - st₂ h₂
  refine ensures_bind (ensures_same (completeWebAuthnRegistration_only _ _ _ _ _) h₂ hquiet) ?_
  rintro credential st₃ h₃
  refine ensures_bind (ensures_same newToken_only h₃ hquiet) ?_
  rintro (e | token) st₄ h₄
  · exact ensures_fail (hquiet _ h₄)
  refine ensures_bind (ensures_write _ (P := fun r st' => s.Good st req st' ∧
    (r = .error .conditionFailed → SameAuth st st')) ?_ ?_ ?_) ?_
  · exact fun hall => ⟨passkeyRows_good hwf h₄ rfl hall, fun he => nomatch he⟩
  · exact fun _ => ⟨hquiet _ h₄, fun _ => h₄⟩
  · rintro st' (rfl | ⟨hall, rfl⟩)
    · exact ⟨hquiet _ h₄, fun he => nomatch he⟩
    · exact ⟨passkeyRows_good hwf h₄ rfl hall, fun he => nomatch he⟩
  · rintro ((_ | _ | _) | ⟨⟩) st' ⟨hgood, hsame⟩
    · exact ensures_fail hgood
    · exact (ensures_same (mapSetupPasskeyCreateAdminConditionFailure_only _ _) (hsame rfl)
        hquiet).mono fun _ st'' h => hquiet st'' h
    · exact ensures_fail hgood
    · exact ensures_pure hgood

theorem handleSetupCreateAdmin_good (hwf : st.Wf) (ctx : Context)
    (body : Body setupCreateAdminRequest) :
    wp storeEnv (s.handleSetupCreateAdmin ctx body)
      (fun _ st' => s.Good st (.setupCreateAdmin ctx body) st') st := by
  have hquiet : ∀ st', SameAuth st st' → s.Good st (.setupCreateAdmin ctx body) st' :=
    fun st' h => (h.calm hwf).good
  refine Ensures.wp ?_
  refine ensures_bind (ensures_same (validateSetupCreateAdminState_only ctx) (.refl st) hquiet) ?_
  rintro - st₁ h₁
  refine ensures_bind (ensures_same (parseSetupCreateAdminRequestInput_only body) h₁ hquiet) ?_
  rintro ⟨username, displayName, wallet | passkey⟩ st₂ h₂
  · exact ensures_handleSetupCreateAdminWithWallet hwf h₂ (fun _ h => h.good) ctx username
      displayName wallet
  · exact ensures_handleSetupCreateAdminWithPasskey hwf h₂ _ ctx username displayName passkey

/-! ## Runs -/

/-- Outside the exception, every request of every endpoint is safe. -/
theorem step_good (hwf : st.Wf) (a : Request × (Nat → Choice))
    (hcond : s.takesOver st a.1 = false) : s.Good st a.1 (s.step st a) := by
  obtain ⟨req, ch⟩ := a
  have hquiet : (s.serve req).Only Op.quiet → s.Good st req (s.step st (req, ch)) := fun h =>
    (run_of_wp (wp_same h (.refl st)) ch).calm hwf |>.good
  cases req with
  | walletLogin ctx body => exact run_of_wp (wp_discard (handleWalletLogin_good hwf ctx body)) ch
  | portalWalletLogin ctx body =>
      exact run_of_wp (wp_discard (handlePortalWalletLogin_good hwf ctx body hcond)) ch
  | setupCreateAdmin ctx body =>
      exact run_of_wp (wp_discard (handleSetupCreateAdmin_good hwf ctx body)) ch
  | _ => exact hquiet (serve_only_of_quiet trivial)

/-- In every run in which no request takes an account over by linking a foreign wallet to it, every
    request is safe: sessions go to linked wallets and new users, in the stored role, and no account
    that exists is given another wallet. -/
theorem wallet_login_safe (s : Server) {st : Store} (hwf : st.Wf)
    (reqs : List (Request × (Nat → Choice)))
    (hcond : Along s.step (fun st a => s.takesOver st a.1 = false) st reqs) :
    Along s.step (fun st a => s.LoginSafe st a.1 (s.step st a)) st reqs :=
  hcond.of_inv (I := Store.Wf) (fun _ a hwf h => (step_good hwf a h).wf)
    (fun _ a hwf h => (step_good hwf a h).safe) hwf

end Handlers

/-! ## A first login -/

section Sample

/-- Where no user exists there is no account to take over. -/
theorem takesOver_of_no_users {s : Server} {st : Store} (h : ∀ u, st.users u = none)
    (req : Request) : s.takesOver st req = false := by
  unfold Server.takesOver
  split
  · dsimp only
    split
    · simp [h]
    · rfl
  · rfl

def customerWallet : Wallet := .replicate 20 1
def intruderWallet : Wallet := .replicate 20 2

def walletAddress (w : Wallet) : String := "0x" ++ w.hex

theorem walletAddress_trimmed (w : Wallet) : TrimSpace (walletAddress w) = walletAddress w := by
  refine IsTrimmed.TrimSpace_eq (Trimmed.of_forall fun c hc => ?_)
  rw [walletAddress, String.toList_append, List.mem_append] at hc
  rcases hc with hc | hc
  · exact isSpace_of_all (by decide) hc
  · rw [Wallet.hex, String.toList_ofList] at hc
    exact isSpace_of_hex (hexEncode_hex _ c hc)

theorem walletAddress_lower (w : Wallet) : ToLower (TrimSpace (walletAddress w)) = walletAddress w := by
  have hfront : ToLower "0x" = "0x" := by decide
  rw [walletAddress_trimmed, walletAddress, ToLower_append, hfront, Wallet.hex,
    ToLower_hex (hexEncode_hex _)]

def customerName : String := "wallet-" ++ customerWallet.hex

theorem customerName_trimmed : TrimSpace customerName = customerName := by
  refine IsTrimmed.TrimSpace_eq (Trimmed.of_forall fun c hc => ?_)
  rw [customerName, String.toList_append, List.mem_append] at hc
  rcases hc with hc | hc
  · exact isSpace_of_all (by decide) hc
  · rw [Wallet.hex, String.toList_ofList] at hc
    exact isSpace_of_hex (hexEncode_hex _ c hc)

theorem customerName_ne : customerName ≠ "" := by
  intro h
  have hlength := congrArg (fun t => t.toList.length) h
  simp only [customerName, String.toList_append, List.length_append, Wallet.hex_length] at hlength
  exact absurd hlength (by decide)

/-- The first of January 2024. -/
def sampleNow : Time := ⟨738885 * 24 * Hour, .utc⟩

/-- The challenge a wallet is given that asks in the name of the customer. -/
def sampleChallenge (w : Wallet) (token : String) : WalletChallenge where
  ID := token
  Username := customerName
  Address := walletAddress w
  ChainID := 1
  Nonce := token
  Message := buildWalletAuthMessage lesserHostDomain (walletAddress w) 1 token customerName sampleNow
    (sampleNow.Add walletChallengeDuration)
  IssuedAt := sampleNow
  ExpiresAt := sampleNow.Add walletChallengeDuration
  Used := false
  Spent := false

/-- The customer and the intruder have each signed one challenge, and nothing else. -/
def sampleEthereum : Ethereum where
  Decode signature :=
    if signature = "0x01" then some (List.replicate 65 1)
    else if signature = "0x02" then some (List.replicate 65 2)
    else none
  recover message sig :=
    if message = (sampleChallenge customerWallet "first").Message ∧ sig = List.replicate 65 1 then
      some customerWallet
    else if message = (sampleChallenge intruderWallet "second").Message ∧
        sig = List.replicate 65 2 then
      some intruderWallet
    else none

def sampleServer : Server where
  WebAuthnRPID := ""
  BootstrapWalletAddress := ""
  sha256 bs := .ofFn fun i => bs.getD i 0
  ethereum := sampleEthereum
  webAuthn := none

def sampleLogin (w : Wallet) (token signature : String) : Request :=
  .portalWalletLogin ⟨"request", "", "", ""⟩
    (.ok ⟨token, walletAddress w, signature, (sampleChallenge w token).Message, "", ""⟩)

/-- A customer asks the portal of a fresh deployment for a challenge and logs in with it. -/
def firstLogin : List (Request × (Nat → Choice)) :=
  [(.portalWalletChallenge (.ok ⟨walletAddress customerWallet, 1⟩), fun _ => .ok "first"),
    (sampleLogin customerWallet "first" "0x01", fun _ => .ok "session")]

theorem wallet_login_safe_first :
    Along sampleServer.step (fun st a => sampleServer.LoginSafe st a.1 (sampleServer.step st a))
      (.empty sampleNow) firstLogin := by
  refine wallet_login_safe sampleServer (Store.empty_wf sampleNow) firstLogin ⟨rfl, ?_, trivial⟩
  refine takesOver_of_no_users (fun u => ?_) _
  have hquiet : SameAuth (.empty sampleNow) (sampleServer.step (.empty sampleNow)
      (.portalWalletChallenge (.ok ⟨walletAddress customerWallet, 1⟩), fun _ => .ok "first")) := by
    rw [Server.step]
    exact run_of_wp (wp_same (@serve_only_of_quiet sampleServer
      (.portalWalletChallenge (.ok ⟨walletAddress customerWallet, 1⟩)) trivial)
      (.refl (.empty sampleNow))) (fun _ => .ok "first")
  rw [hquiet.users]
  rfl

end Sample

end LesserHost.ControlPlane
