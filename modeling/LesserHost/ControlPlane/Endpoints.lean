import LesserHost.ControlPlane.Grants

set_option autoImplicit false

/-! # The public endpoints and what they write

`Request` is a call of one of the public wallet and setup endpoints, `Server.step` the table it
leaves behind for the choices its environment makes. The parts of the handlers that read,
keep challenges, spend them or write the audit log are quiet. -/

namespace LesserHost.ControlPlane

open LesserHost.Go Prog

/-! ## Requests -/

inductive Request where
  | walletChallenge (body : Body walletChallengeRequest)
  | portalWalletChallenge (body : Body portalWalletChallengeRequest)
  | walletLogin (ctx : Context) (body : Body walletVerifyRequest)
  | portalWalletLogin (ctx : Context) (body : Body portalWalletLoginRequest)
  | setupBootstrapChallenge (body : Body setupBootstrapChallengeRequest)
  | setupBootstrapVerify (body : Body setupBootstrapVerifyRequest)
  | setupWebAuthnRegisterBegin (ctx : Context) (body : Body setupPasskeyRegisterBeginRequest)
  | setupCreateAdmin (ctx : Context) (body : Body setupCreateAdminRequest)
  | setupFinalize (ctx : Context)

/-- Run a handler for its effect. -/
def discard {α : Type} (p : Handler α) : Handler Unit := p >>= fun _ => pure ()

def Server.serve (s : Server) : Request → Handler Unit
  | .walletChallenge body => discard (s.handleWalletChallenge body)
  | .portalWalletChallenge body => discard (s.handlePortalWalletChallenge body)
  | .walletLogin ctx body => discard (s.handleWalletLogin ctx body)
  | .portalWalletLogin ctx body => discard (s.handlePortalWalletLogin ctx body)
  | .setupBootstrapChallenge body => discard (s.handleSetupBootstrapChallenge body)
  | .setupBootstrapVerify body => discard (s.handleSetupBootstrapVerify body)
  | .setupWebAuthnRegisterBegin ctx body => discard (s.handleSetupWebAuthnRegisterBegin ctx body)
  | .setupCreateAdmin ctx body => discard (s.handleSetupCreateAdmin ctx body)
  | .setupFinalize ctx => discard (Server.handleSetupFinalize ctx)

/-- The table after a request. -/
def Server.step (s : Server) (st : Store) (a : Request × (Nat → Choice)) : Store :=
  (run storeEnv (s.serve a.1) a.2 st).2

theorem wp_discard {α : Type} {env : Env Op Op.Res Store Choice} {p : Handler α} {Q : Store → Prop}
    {st : Store} (h : wp env p (fun _ st' => Q st') st) :
    wp env (discard p) (fun _ st' => Q st') st :=
  wp_bind_of h (fun _ _ hQ => (wp_pure _).2 hQ) (fun _ _ hQ => hQ)

/-! ## Quiet parts -/

section Only

variable {α : Type} {s : Server}

@[simp] theorem fail_only {ok : Op → Prop} (code message : String) :
    (fail code message : Handler α).Only ok := only_fail _

theorem ParseJSON_only (body : Body α) : (ParseJSON body).Only Op.quiet := by
  cases body <;> simp [ParseJSON]

theorem write_one_only {w : Write} (h : w.quiet) : (write [w]).Only Op.quiet := by
  refine (only_perform _).2 fun w' hw' => ?_
  obtain rfl := List.mem_singleton.1 hw'
  exact h

theorem now_only : now.Only Op.quiet := (only_perform _).2 trivial

theorem newToken_only : newToken.Only Op.quiet := (only_perform _).2 trivial

theorem createWalletChallenge_only (address : String) (chainID : Int) (username : String) :
    (s.createWalletChallenge address chainID username).Only Op.quiet := by
  unfold Server.createWalletChallenge
  refine only_ite (by simp) (only_ite (by simp) (only_bind newToken_only fun r => ?_))
  rcases r with e | nonce
  · simp
  · refine only_bind newToken_only fun r => ?_
    rcases r with e | id
    · simp
    · refine only_bind now_only fun t => only_bind (write_one_only trivial) fun r => ?_
      rcases r with e | ⟨⟩ <;> simp

theorem deleteWalletChallenge_only (id : String) :
    (Server.deleteWalletChallenge id).Only Op.quiet :=
  only_ite (only_pure _) (write_one_only trivial)

theorem getWalletChallenge_only (id : String) :
    (Server.getWalletChallenge id).Only Op.quiet := by
  refine only_ite (only_pure _) (only_bind ((only_perform _).2 trivial) fun r => ?_)
  rcases r with e | challenge
  · simp
  · refine only_bind now_only fun t => only_ite ?_ ?_
    · exact only_bind (deleteWalletChallenge_only _) fun _ => only_pure _
    · exact only_ite (only_pure _) (only_pure _)

theorem findWalletChallenge_only (id : String) :
    (Server.findWalletChallenge id).Only Op.quiet := by
  refine only_bind (getWalletChallenge_only id) fun r => ?_
  rcases r with (_ | _ | _) | challenge <;> simp

theorem redeemWalletChallenge_only (id : String) :
    (Server.redeemWalletChallenge id).Only Op.quiet := by
  refine only_bind (only_ite (by simp) (write_one_only trivial)) fun r => ?_
  rcases r with (_ | _ | _) | ⟨⟩ <;> simp

theorem checkWalletVerifyRequest_only (field : String) (req : walletVerifyRequest) :
    (Server.checkWalletVerifyRequest field req).Only Op.quiet :=
  only_ite (by simp) (only_ite (by simp) (only_ite (by simp) (only_ite (by simp) (by simp))))

theorem walletLinkedUsername_only (walletType address : String) :
    (Server.walletLinkedUsername walletType address).Only Op.quiet := by
  unfold Server.walletLinkedUsername
  refine only_ite (by simp) (only_bind ((only_perform _).2 trivial) fun r => ?_)
  rcases r with (_ | _ | _) | index <;> simp

theorem tryWriteAuditLog_only (ctx : Context) (entry : AuditLogEntry) :
    (Server.tryWriteAuditLog ctx entry).Only Op.quiet :=
  only_bind (write_one_only trivial) fun _ => only_pure _

theorem writeAuditLog_only (entry : AuditLogEntry) :
    (Server.writeAuditLog entry).Only Op.quiet := by
  refine only_bind (write_one_only trivial) fun r => ?_
  rcases r with e | ⟨⟩ <;> simp

/-! ### Setup -/

theorem loadControlPlaneConfig_only : Server.loadControlPlaneConfig.Only Op.quiet := by
  refine only_bind ((only_perform _).2 trivial) fun r => ?_
  rcases r with (_ | _ | _) | cfg <;> simp

theorem requireLocked_only : Server.requireLocked.Only Op.quiet :=
  only_bind loadControlPlaneConfig_only fun _ => only_ite (by simp) (by simp)

theorem requireBootstrapWallet_only : s.requireBootstrapWallet.Only Op.quiet :=
  only_ite (by simp) (by simp)

theorem verifySetupBootstrapChallenge_only (bootstrapWallet : String) (req : walletVerifyRequest) :
    (s.verifySetupBootstrapChallenge bootstrapWallet req).Only Op.quiet :=
  only_ite (by simp) (only_bind (findWalletChallenge_only _) fun _ =>
    only_ite (by simp) (only_ite (by simp) (only_ite (by simp) (only_ite (by simp)
      (redeemWalletChallenge_only _)))))

theorem findSetupSession_only (candidates : List String) :
    (Server.findSetupSession candidates).Only Op.quiet := by
  induction candidates with
  | nil => exact fail_only _ _
  | cons candidate rest ih =>
      refine only_ite ih (only_bind ((only_perform _).2 trivial) fun r => ?_)
      rcases r with (_ | _ | _) | session
      · exact ih
      · simp
      · simp
      · simp

theorem requireSetupSession_only (ctx : Context) :
    (s.requireSetupSession ctx).Only Op.quiet :=
  only_ite (by simp) (only_bind (findSetupSession_only _) fun _ => only_bind now_only fun _ =>
    only_ite (only_bind (write_one_only trivial) fun _ => fail_only _ _)
      (only_ite (by simp) (only_ite (by simp) (by simp))))

theorem validateSetupCreateAdminState_only (ctx : Context) :
    (s.validateSetupCreateAdminState ctx).Only Op.quiet :=
  only_bind requireLocked_only fun _ =>
    only_ite (by simp) (only_bind (requireSetupSession_only ctx) fun _ => only_pure _)

theorem validateSetupAdminIdentity_only (username displayName : String) :
    (Server.validateSetupAdminIdentity username displayName).Only Op.quiet := by
  refine only_ite (by simp) ?_
  split
  · simp
  · exact only_ite (by simp) (by simp)

theorem setupAdminExistingUserConflict_only (username : String) :
    (Server.setupAdminExistingUserConflict username).Only Op.quiet := by
  refine only_bind ((only_perform _).2 trivial) fun r => ?_
  rcases r with (_ | _ | _) | user
  · simp
  · simp
  · simp
  · exact only_ite (by simp) (by simp)

theorem checkPasskeyRequest_only (req : webAuthnFinishRegistrationRequest) :
    (Server.checkPasskeyRequest req).Only Op.quiet :=
  only_ite (by simp) (only_ite (by simp) (by simp))

theorem parseSetupCreateAdminRequestInput_only (body : Body setupCreateAdminRequest) :
    (Server.parseSetupCreateAdminRequestInput body).Only Op.quiet := by
  refine only_bind (ParseJSON_only body) fun req =>
    only_bind (validateSetupAdminIdentity_only _ _) fun id => ?_
  rcases req with ⟨username, displayName, _ | wallet, _ | passkey⟩
  · exact fail_only _ _
  · exact only_bind (checkPasskeyRequest_only _) fun _ => only_pure _
  · exact only_bind (checkWalletVerifyRequest_only _ _) fun _ => only_pure _
  · exact fail_only _ _

theorem getWebAuthnChallenge_only (challenge : String) :
    (Server.getWebAuthnChallenge challenge).Only Op.quiet := by
  refine only_bind ((only_perform _).2 trivial) fun r => ?_
  rcases r with e | c
  · simp
  · exact only_bind now_only fun _ =>
      only_ite (only_bind (write_one_only trivial) fun _ => only_pure _) (by simp)

theorem beginWebAuthnRegistration_only (library : WebAuthn) (username displayName : String)
    (creds : List WebAuthnCredential) :
    (Server.beginWebAuthnRegistration library username displayName creds).Only
      Op.quiet := by
  refine only_bind newToken_only fun r => ?_
  rcases r with e | challenge
  · simp
  · dsimp only
    split
    · simp
    · refine only_bind now_only fun t => only_bind (write_one_only trivial) fun r => ?_
      rcases r with e | ⟨⟩ <;> simp

theorem completeWebAuthnRegistration_only (library : WebAuthn) (username displayName : String)
    (req : webAuthnFinishRegistrationRequest) (creds : List WebAuthnCredential) :
    (Server.completeWebAuthnRegistration library username displayName req creds).Only
      Op.quiet := by
  refine only_ite (by simp) (only_bind ?_ fun session => only_ite (by simp) ?_)
  · refine only_bind (getWebAuthnChallenge_only _) fun r => ?_
    rcases r with (_ | _ | _) | challengeData
    · simp
    · simp
    · simp
    · exact only_ite (by simp) (only_ite (by simp) (by simp))
  · split
    · simp
    · split
      · simp
      · exact only_bind now_only fun _ => only_pure _

theorem mapSetupPasskeyCreateAdminConditionFailure_only (username challenge : String) :
    (Server.mapSetupPasskeyCreateAdminConditionFailure username challenge : Handler α).Only
      Op.quiet := by
  refine only_bind (setupAdminExistingUserConflict_only username) fun _ =>
    only_bind (getWebAuthnChallenge_only challenge) fun r => ?_
  rcases r with (_ | _ | _) | c
  · simp
  · simp
  · simp
  · exact only_bind loadControlPlaneConfig_only fun _ => only_ite (by simp) (by simp)

theorem requirePrimaryAdminPasskey_only (username : String) :
    (Server.requirePrimaryAdminPasskey username).Only Op.quiet := by
  refine only_bind (only_bind ((only_perform _).2 trivial) fun r => ?_) fun r => ?_
  · rcases r with e | items
    · simp
    · exact only_ite (by simp) (by simp)
  · rcases r with e | creds
    · simp
    · exact only_ite (by simp) (by simp)

/-- The requests that only issue challenges, open a setup session or end the setup. -/
theorem serve_only_of_quiet {req : Request}
    (h : match req with
      | .walletLogin _ _ | .portalWalletLogin _ _ | .setupCreateAdmin _ _ => False
      | _ => True) : (s.serve req).Only Op.quiet := by
  cases req with
  | walletLogin | portalWalletLogin | setupCreateAdmin => exact h.elim
  | walletChallenge body =>
      refine only_bind (only_bind (ParseJSON_only body) fun req =>
        only_ite (by simp) (only_ite (by simp) (only_bind (createWalletChallenge_only _ _ _) fun r => ?_)))
        fun _ => only_pure _
      rcases r with e | challenge <;> simp
  | portalWalletChallenge body =>
      refine only_bind (only_bind (ParseJSON_only body) fun req =>
        only_ite (by simp) (only_bind (createWalletChallenge_only _ _ _) fun r => ?_)) fun _ => only_pure _
      rcases r with e | challenge <;> simp
  | setupBootstrapChallenge body =>
      refine only_bind (only_bind requireLocked_only fun _ =>
        only_bind requireBootstrapWallet_only fun _ => only_bind (ParseJSON_only body) fun req =>
        only_ite (by simp) (only_ite (by simp) (only_bind (createWalletChallenge_only _ _ _) fun r => ?_)))
        fun _ => only_pure _
      rcases r with e | challenge <;> simp
  | setupBootstrapVerify body =>
      refine only_bind (only_bind requireLocked_only fun _ =>
        only_bind requireBootstrapWallet_only fun _ =>
        only_bind (only_bind (ParseJSON_only body) fun _ => checkWalletVerifyRequest_only _ _)
          fun req => only_bind (verifySetupBootstrapChallenge_only _ _) fun _ =>
        only_bind newToken_only fun r => ?_) fun _ => only_pure _
      rcases r with e | token
      · simp
      · refine only_bind now_only fun t => only_bind (write_one_only trivial) fun r => ?_
        rcases r with e | ⟨⟩ <;> simp
  | setupWebAuthnRegisterBegin ctx body =>
      refine only_bind (only_bind ?_ fun library =>
        only_bind (validateSetupCreateAdminState_only ctx) fun _ =>
        only_bind (ParseJSON_only body) fun req =>
        only_bind (validateSetupAdminIdentity_only _ _) fun id =>
        only_bind (setupAdminExistingUserConflict_only _) fun _ =>
        beginWebAuthnRegistration_only _ _ _ _) fun _ => only_pure _
      unfold Server.ensureWebAuthnConfigured
      split <;> simp
  | setupFinalize ctx =>
      refine only_bind (only_bind requireLocked_only fun cfg => ?_) fun _ => only_pure _
      rcases cfg with _ | cfg
      · simp
      · refine only_ite (by simp) (only_ite (by simp) (only_ite (by simp) (only_ite (by simp)
          (only_bind (requirePrimaryAdminPasskey_only _) fun _ => only_bind now_only fun t =>
          only_bind (write_one_only trivial) fun r => ?_))))
        rcases r with e | ⟨⟩
        · simp
        · exact only_bind (writeAuditLog_only _) fun _ => only_pure _

end Only

/-! ## Parts permitted by a grant -/

section Permitted

variable {g : Grant} {s : Server}

theorem write_one_permitted {w : Write} (h : w.permitted g) :
    (write [w]).Only (Op.permitted g) :=
  (only_perform _).2 ⟨h, fun _ hw => nomatch hw⟩

/-- A session the grant allows, whatever token it is opened under. -/
theorem createOperatorSession_only {username role method : String}
    (h : ∀ token now, g.session (s.buildOperatorSessionModel token username role method now)) :
    (s.createOperatorSession username role method).Only (Op.permitted g) := by
  refine only_bind (now_only.mono fun _ => Op.quiet.permitted) fun t =>
    only_bind (newToken_only.mono fun _ => Op.quiet.permitted) fun r => ?_
  rcases r with e | token
  · simp
  · refine only_bind (write_one_permitted (h token t.UTC)) fun r => ?_
    rcases r with e | ⟨⟩ <;> simp

theorem fillUserEmail_only (user : User) (username email : String) :
    (Server.fillUserEmail user username email).Only (Op.permitted g) :=
  only_ite (only_bind (write_one_permitted trivial) fun _ => only_pure _) (only_pure _)

end Permitted

end LesserHost.ControlPlane
