import LesserHost.SoulLifecycle.Handlers

set_option autoImplicit false

/-! # What the requests write

`Writes` lists the transactions a request can come to, each with the identity it was computed from and
what the request has tested there. Every handler performs no other transaction (`handle_writes`), so
nothing below looks at the handlers again. -/

namespace LesserHost.SoulLifecycle

open LesserHost.Go
open LesserHost.ControlPlane (AppTheoryError StoreError newAppTheoryError)

/-! ## Requests -/

inductive Request where
  | archiveAgentBegin (agentID : String)
  | archiveAgent (agentID : String) (req : soulArchiveRequest)
  | designateSuccessorBegin (agentID successorAgentID : String)
  | designateSuccessor (agentID : String) (req : soulDesignateSuccessorRequest)
  | suspend (agentID reason : String)
  | reinstate (agentID : String)
  | selfSuspend (agentID reason : String)
  | selfReinstate (agentID : String)
  | publish (agentID : String)
  | convergePublished (agentID : String)
  | appendContinuity (agentID : String) (req : soulAppendContinuityRequest)

/-- The response. -/
inductive Response where
  | begun (r : LifecycleBegin)
  | done
  | entry (e : SoulAgentContinuity) (created : Bool)

def Request.handler (s : Server) (admits : SoulAgentIdentity → Except AppTheoryError Unit) :
    Request → Handler Response
  | .archiveAgentBegin agentID => do return .begun (← handleSoulArchiveAgentBegin s agentID)
  | .archiveAgent agentID req => do
      handleSoulArchiveAgent s agentID req
      return .done
  | .designateSuccessorBegin agentID successorAgentID => do
      return .begun (← handleSoulDesignateSuccessorBegin s agentID successorAgentID)
  | .designateSuccessor agentID req => do
      handleSoulDesignateSuccessor s agentID req
      return .done
  | .suspend agentID reason => do
      handleSuspendSoulAgent agentID reason
      return .done
  | .reinstate agentID => do
      handleReinstateSoulAgent agentID
      return .done
  | .selfSuspend agentID reason => do
      handleSoulSelfSuspend agentID reason
      return .done
  | .selfReinstate agentID => do
      handleSoulSelfReinstate agentID
      return .done
  | .publish agentID => do
      publishSoulAgentRegistration admits agentID
      return .done
  | .convergePublished agentID => do
      convergePublishedIdentity admits agentID
      return .done
  | .appendContinuity agentID req => do
      let (entry, created) ← handleSoulAppendContinuity s agentID req
      return .entry entry created

/-! ## The transactions of a request -/

/-- Lower case, without white space around. -/
def Normal (s : String) : Prop := ToLower (TrimSpace s) = s

/-- An identity as `getSoulAgentIdentity` returns it. -/
def Read (identity : SoulAgentIdentity) : Prop := ∃ item, identity = readRepair item

inductive Writes : Request → List Write → Prop where
  | archiveAgentBegin {agentID : String} (challenge : SoulLifecycleChallenge) :
      Writes (.archiveAgentBegin agentID) [.createChallenge challenge]
  | archiveAgent {agentID : String} {req : soulArchiveRequest} {agentIDHex : String}
      {identity : SoulAgentIdentity} (hread : Read identity) (challenge : SoulLifecycleChallenge)
      (reason sig : String) (parsedTS now : Time) :
      Writes (.archiveAgent agentID req)
        (archiveWrites agentIDHex identity challenge reason sig parsedTS now)
  | designateSuccessorBegin {agentID successorAgentID : String} (challenge : SoulLifecycleChallenge) :
      Writes (.designateSuccessorBegin agentID successorAgentID) [.createChallenge challenge]
  | designateSuccessor {agentID : String} {req : soulDesignateSuccessorRequest}
      {agentIDHex successorIDHex : String} {identity successorIdentity : SoulAgentIdentity}
      (hagent : Normal agentIDHex) (hagent' : agentIDHex ≠ "")
      (hsuccessor : Normal successorIDHex) (hsuccessor' : successorIDHex ≠ "")
      (hother : successorIDHex ≠ agentIDHex) (challenge : SoulLifecycleChallenge)
      (reason predSig succSig : String) (parsedTS now : Time) :
      Writes (.designateSuccessor agentID req)
        (successionWrites agentIDHex successorIDHex identity successorIdentity challenge reason predSig
          succSig parsedTS now)
  | suspend {agentID reason agentIDHex : String} {identity : SoulAgentIdentity} (reason' : String) :
      Writes (.suspend agentID reason)
        [.updateStatus agentIDHex identity (withStatus identity SoulAgentStatusSuspended reason')]
  | reinstate {agentID agentIDHex : String} {identity : SoulAgentIdentity}
      (hstatus : TrimSpace identity.Status = SoulAgentStatusSuspended) :
      Writes (.reinstate agentID)
        [.updateStatus agentIDHex identity (withStatus identity SoulAgentStatusActive "")]
  | selfSuspend {agentID reason agentIDHex : String} {identity : SoulAgentIdentity}
      (hread : Read identity) (hstatus : effectiveStatus identity = SoulAgentStatusActive)
      (reason' : String) :
      Writes (.selfSuspend agentID reason)
        [.updateStatus agentIDHex identity (withStatus identity SoulAgentStatusSelfSuspended reason')]
  | selfReinstate {agentID agentIDHex : String} {identity : SoulAgentIdentity}
      (hstatus : TrimSpace identity.Status = SoulAgentStatusSelfSuspended) :
      Writes (.selfReinstate agentID)
        [.updateStatus agentIDHex identity (withStatus identity SoulAgentStatusActive "")]
  | publish {agentID agentIDHex : String} {identity published : SoulAgentIdentity}
      (hread : Read identity) (version : Bool)
      (hactive : shouldPersistSoulIdentityActivationOnRegistrationPublish identity true = true →
        published.Status = SoulAgentStatusActive) :
      Writes (.publish agentID)
        [.updatePublished agentIDHex identity published version
          (shouldPersistSoulIdentityActivationOnRegistrationPublish identity true)]
  | convergePublished {agentID agentIDHex : String} {identity published : SoulAgentIdentity}
      (hread : Read identity)
      (hactive : shouldPersistSoulIdentityActivationOnRegistrationPublish identity false = true →
        published.Status = SoulAgentStatusActive) :
      Writes (.convergePublished agentID)
        [.updatePublished agentIDHex identity published false
          (shouldPersistSoulIdentityActivationOnRegistrationPublish identity false)]
  | appendContinuity {agentID : String} {req : soulAppendContinuityRequest}
      (entry : SoulAgentContinuity) :
      Writes (.appendContinuity agentID req) [.createContinuity entry]

/-- An operation of a request. -/
def Performs (r : Request) (o : Op) : Prop := ∀ ws, o = .write ws → Writes r ws

/-! ## The handlers -/

section Yields

variable {ok : Op → Prop}

theorem yields_liftExcept {α : Type} {x : Except AppTheoryError α} {R : α → Prop}
    (h : ∀ a, x = .ok a → R a) : (liftExcept x).Yields ok R := by
  cases x with
  | ok a => exact Prog.yields_pure (h a rfl)
  | error e => exact Prog.yields_fail

end Yields

section Handlers

variable {r : Request}

theorem performs_other {o : Op} (h : ∀ ws, o ≠ .write ws) : Performs r o :=
  fun ws ho => absurd ho (h ws)

theorem yields_now : now.Yields (Performs r) fun _ => True := by
  unfold now
  refine Prog.yields_perform (o := Op.now) (R := fun _ => True) ?_ fun _ => trivial
  exact performs_other fun _ h => by cases h

theorem yields_requireSoulDomainAccess (domain : String) :
    (requireSoulDomainAccess domain).Yields (Performs r) fun _ => True := by
  unfold requireSoulDomainAccess
  refine Prog.yields_bind (R := fun _ => True) (Prog.yields_perform ?_ fun _ => trivial) fun x _ => ?_
  · exact performs_other fun _ h => by cases h
  · exact yields_liftExcept fun _ _ => trivial

theorem yields_getSoulAgentIdentity (agentID : String) :
    (getSoulAgentIdentity agentID).Yields (Performs r) fun x => ∀ identity, x = .ok identity →
      Read identity := by
  unfold getSoulAgentIdentity
  refine Prog.yields_ite (fun _ => Prog.yields_pure fun _ h => by cases h) fun _ => ?_
  refine Prog.yields_bind (R := fun _ => True) (Prog.yields_perform ?_ fun _ => trivial) fun x _ => ?_
  · exact performs_other fun _ h => by cases h
  · split
    · exact Prog.yields_pure fun _ h => by cases h
    · exact Prog.yields_pure fun _ h => ⟨_, (Except.ok.inj h).symm⟩

theorem yields_requireActive (agentIDHex : String) :
    (requireActiveSoulAgentWithDomainAccess agentIDHex).Yields (Performs r) fun identity =>
      Read identity ∧ effectiveStatus identity = SoulAgentStatusActive := by
  unfold requireActiveSoulAgentWithDomainAccess
  refine Prog.yields_bind (yields_getSoulAgentIdentity agentIDHex) fun x hx => ?_
  split
  · exact Prog.yields_fail
  · exact Prog.yields_fail
  · next identity =>
      refine Prog.yields_ite (fun _ => Prog.yields_fail) fun hactive => ?_
      refine Prog.yields_bind (yields_requireSoulDomainAccess _) fun _ _ => ?_
      exact Prog.yields_pure ⟨hx identity rfl, not_not.1 hactive⟩

theorem yields_loadSoulLifecycleIdentity (agentIDHex : String) :
    (loadSoulLifecycleIdentity agentIDHex).Yields (Performs r) Read := by
  unfold loadSoulLifecycleIdentity
  refine Prog.yields_bind (yields_getSoulAgentIdentity agentIDHex) fun x hx => ?_
  split
  · exact Prog.yields_fail
  · next identity =>
      refine Prog.yields_bind (yields_requireSoulDomainAccess _) fun _ _ => ?_
      exact Prog.yields_pure (hx identity rfl)

theorem yields_loadOperatorIdentity (agentIDHex : String) :
    (loadOperatorIdentity agentIDHex).Yields (Performs r) Read := by
  unfold loadOperatorIdentity
  refine Prog.yields_bind (yields_getSoulAgentIdentity agentIDHex) fun x hx => ?_
  split
  · exact Prog.yields_fail
  · exact Prog.yields_fail
  · exact Prog.yields_pure (hx _ rfl)

theorem yields_loadSoulActiveSuccessorIdentity (identity : SoulAgentIdentity) (successorIDHex : String) :
    (loadSoulActiveSuccessorIdentity identity successorIDHex).Yields (Performs r) fun _ => True := by
  unfold loadSoulActiveSuccessorIdentity
  refine Prog.yields_bind (yields_getSoulAgentIdentity successorIDHex) fun x _ => ?_
  split
  · exact Prog.yields_fail
  · refine Prog.yields_ite (fun _ => Prog.yields_fail) fun _ => ?_
    refine Prog.yields_ite (fun _ => ?_) fun _ => ?_
    · refine Prog.yields_bind (yields_requireSoulDomainAccess _) fun _ _ => ?_
      exact Prog.yields_ite (fun _ => Prog.yields_fail) fun _ => Prog.yields_pure trivial
    · exact Prog.yields_ite (fun _ => Prog.yields_fail) fun _ => Prog.yields_pure trivial

theorem yields_newSoulContinuityNonce : newSoulContinuityNonce.Yields (Performs r) fun _ => True := by
  unfold newSoulContinuityNonce
  refine Prog.yields_bind (R := fun _ => True) (Prog.yields_perform ?_ fun _ => trivial) fun x _ => ?_
  · exact performs_other fun _ h => by cases h
  · split
    · exact Prog.yields_pure trivial
    · exact Prog.yields_fail

theorem yields_loadSoulLifecycleChallenge (agentIDHex nonce purpose successorIDHex : String)
    (now : Time) : (loadSoulLifecycleChallenge agentIDHex nonce purpose successorIDHex now).Yields
      (Performs r) fun _ => True := by
  unfold loadSoulLifecycleChallenge
  refine Prog.yields_ite (fun _ => Prog.yields_fail) fun _ => ?_
  refine Prog.yields_bind (R := fun _ => True) (Prog.yields_perform ?_ fun _ => trivial) fun x _ => ?_
  · exact performs_other fun _ h => by cases h
  · split
    · exact Prog.yields_fail
    · exact Prog.yields_fail
    · exact yields_liftExcept fun _ _ => trivial

theorem yields_writeOr {ws : List Write} {failure : StoreError → AppTheoryError} (h : Writes r ws) :
    (writeOr ws failure).Yields (Performs r) fun _ => True := by
  unfold writeOr
  refine Prog.yields_bind (R := fun _ => True) (Prog.yields_perform ?_ fun _ => trivial) fun x _ => ?_
  · intro ws' hws
    cases hws
    exact h
  · split
    · exact Prog.yields_pure trivial
    · exact Prog.yields_fail

theorem parseSoulAgentIDHex_normal {agentID agentIDHex : String}
    (h : parseSoulAgentIDHex agentID = .ok agentIDHex) : Normal agentIDHex ∧ agentIDHex ≠ "" := by
  unfold parseSoulAgentIDHex at h
  dsimp only at h
  split at h
  · cases h
  · next hne =>
      split at h
      · cases h
      · obtain rfl := Except.ok.inj h
        exact ⟨by rw [Normal, TrimSpace_ToLower_TrimSpace, ToLower_idem], hne⟩

theorem normalizeSoulSuccessorAgentID_normal {successorAgentID agentIDHex successorIDHex : String}
    (h : normalizeSoulSuccessorAgentID successorAgentID agentIDHex = .ok successorIDHex) :
    Normal successorIDHex ∧ successorIDHex ≠ "" ∧ successorIDHex ≠ agentIDHex := by
  unfold normalizeSoulSuccessorAgentID at h
  dsimp only at h
  split at h
  · cases h
  · next hne =>
      split at h
      · cases h
      · next hother =>
          obtain rfl := Except.ok.inj h
          exact ⟨by rw [Normal, TrimSpace_ToLower_TrimSpace, ToLower_idem], hne, hother⟩

/-! ## The requests -/

theorem performs_archiveAgentBegin (s : Server) (agentID : String) :
    (handleSoulArchiveAgentBegin s agentID).Yields (Performs (.archiveAgentBegin agentID))
      fun _ => True := by
  unfold handleSoulArchiveAgentBegin
  refine Prog.yields_bind (yields_liftExcept fun _ _ => trivial) fun agentIDHex _ => ?_
  refine Prog.yields_bind (yields_loadSoulLifecycleIdentity agentIDHex) fun identity _ => ?_
  refine Prog.yields_bind (yields_liftExcept fun _ _ => trivial) fun _ _ => ?_
  refine Prog.yields_bind yields_now fun now _ => ?_
  refine Prog.yields_bind yields_newSoulContinuityNonce fun nonce _ => ?_
  refine Prog.yields_bind (yields_liftExcept fun _ _ => trivial) fun digest _ => ?_
  refine Prog.yields_bind (yields_writeOr ?_) fun _ _ => Prog.yields_pure trivial
  exact .archiveAgentBegin _

theorem performs_archiveAgent (s : Server) (agentID : String) (req : soulArchiveRequest) :
    (handleSoulArchiveAgent s agentID req).Yields (Performs (.archiveAgent agentID req))
      fun _ => True := by
  unfold handleSoulArchiveAgent
  refine Prog.yields_bind (yields_liftExcept fun _ _ => trivial) fun agentIDHex _ => ?_
  refine Prog.yields_bind (yields_loadSoulLifecycleIdentity agentIDHex) fun identity hread => ?_
  refine Prog.yields_bind (yields_liftExcept fun _ _ => trivial) fun _ _ => ?_
  refine Prog.yields_bind yields_now fun received _ => ?_
  refine Prog.yields_bind (yields_liftExcept fun _ _ => trivial) fun stamp _ => ?_
  refine Prog.yields_bind (yields_liftExcept fun _ _ => trivial) fun sig _ => ?_
  refine Prog.yields_bind (yields_liftExcept fun _ _ => trivial) fun nonce _ => ?_
  refine Prog.yields_bind yields_now fun now _ => ?_
  refine Prog.yields_bind (yields_loadSoulLifecycleChallenge _ _ _ _ _) fun challenge _ => ?_
  refine Prog.yields_bind (yields_liftExcept fun _ _ => trivial) fun digest _ => ?_
  refine Prog.yields_ite (fun _ => Prog.yields_fail) fun _ => yields_writeOr ?_
  exact .archiveAgent hread challenge _ sig _ now

theorem performs_designateSuccessorBegin (s : Server) (agentID successorAgentID : String) :
    (handleSoulDesignateSuccessorBegin s agentID successorAgentID).Yields
      (Performs (.designateSuccessorBegin agentID successorAgentID)) fun _ => True := by
  unfold handleSoulDesignateSuccessorBegin
  refine Prog.yields_bind (yields_liftExcept fun _ _ => trivial) fun agentIDHex _ => ?_
  refine Prog.yields_bind (yields_loadSoulLifecycleIdentity agentIDHex) fun identity _ => ?_
  refine Prog.yields_bind (yields_liftExcept fun _ _ => trivial) fun _ _ => ?_
  refine Prog.yields_bind (yields_liftExcept fun _ _ => trivial) fun successorIDHex _ => ?_
  refine Prog.yields_bind (yields_loadSoulActiveSuccessorIdentity _ _) fun _ _ => ?_
  refine Prog.yields_bind yields_newSoulContinuityNonce fun nonce _ => ?_
  refine Prog.yields_bind yields_now fun now _ => ?_
  refine Prog.yields_bind (yields_liftExcept fun _ _ => trivial) fun declared _ => ?_
  refine Prog.yields_bind (yields_liftExcept fun _ _ => trivial) fun received _ => ?_
  refine Prog.yields_bind (yields_writeOr ?_) fun _ _ => Prog.yields_pure trivial
  exact .designateSuccessorBegin _

theorem performs_designateSuccessor (s : Server) (agentID : String)
    (req : soulDesignateSuccessorRequest) :
    (handleSoulDesignateSuccessor s agentID req).Yields (Performs (.designateSuccessor agentID req))
      fun _ => True := by
  unfold handleSoulDesignateSuccessor
  refine Prog.yields_bind (yields_liftExcept fun _ h => parseSoulAgentIDHex_normal h)
    fun agentIDHex hagent => ?_
  refine Prog.yields_bind (yields_loadSoulLifecycleIdentity agentIDHex) fun identity hread => ?_
  refine Prog.yields_bind (yields_liftExcept fun _ _ => trivial) fun _ _ => ?_
  refine Prog.yields_bind (yields_liftExcept fun _ h => normalizeSoulSuccessorAgentID_normal h)
    fun successorIDHex hsuccessor => ?_
  refine Prog.yields_bind yields_now fun received _ => ?_
  refine Prog.yields_bind (yields_liftExcept fun _ _ => trivial) fun stamp _ => ?_
  refine Prog.yields_bind (yields_liftExcept fun _ _ => trivial) fun predSig _ => ?_
  refine Prog.yields_bind (yields_liftExcept fun _ _ => trivial) fun succSig _ => ?_
  refine Prog.yields_bind (yields_liftExcept fun _ _ => trivial) fun nonce _ => ?_
  refine Prog.yields_bind yields_now fun now _ => ?_
  refine Prog.yields_bind (yields_loadSoulLifecycleChallenge _ _ _ _ _) fun challenge _ => ?_
  refine Prog.yields_bind (yields_loadSoulActiveSuccessorIdentity _ _) fun successorIdentity _ => ?_
  refine Prog.yields_bind (yields_liftExcept fun _ _ => trivial) fun declared _ => ?_
  refine Prog.yields_ite (fun _ => Prog.yields_fail) fun _ => ?_
  refine Prog.yields_bind (yields_liftExcept fun _ _ => trivial) fun receivedDigest _ => ?_
  refine Prog.yields_ite (fun _ => Prog.yields_fail) fun _ => yields_writeOr ?_
  exact .designateSuccessor hagent.1 hagent.2 hsuccessor.1 hsuccessor.2.1 hsuccessor.2.2 challenge _
    predSig succSig _ now

theorem performs_suspend (agentID reason : String) :
    (handleSuspendSoulAgent agentID reason).Yields (Performs (.suspend agentID reason))
      fun _ => True := by
  unfold handleSuspendSoulAgent
  refine Prog.yields_bind (yields_liftExcept fun _ _ => trivial) fun agentIDHex _ => ?_
  refine Prog.yields_bind (yields_loadOperatorIdentity agentIDHex) fun identity _ => ?_
  refine Prog.yields_ite (fun _ => yields_writeOr ?_) fun _ => Prog.yields_pure trivial
  exact .suspend _

theorem performs_reinstate (agentID : String) :
    (handleReinstateSoulAgent agentID).Yields (Performs (.reinstate agentID)) fun _ => True := by
  unfold handleReinstateSoulAgent
  refine Prog.yields_bind (yields_liftExcept fun _ _ => trivial) fun agentIDHex _ => ?_
  refine Prog.yields_bind (yields_loadOperatorIdentity agentIDHex) fun identity _ => ?_
  refine Prog.yields_ite (fun _ => Prog.yields_fail) fun hstatus => yields_writeOr ?_
  exact .reinstate (not_not.1 hstatus)

theorem performs_selfSuspend (agentID reason : String) :
    (handleSoulSelfSuspend agentID reason).Yields (Performs (.selfSuspend agentID reason))
      fun _ => True := by
  unfold handleSoulSelfSuspend
  refine Prog.yields_bind (yields_liftExcept fun _ _ => trivial) fun agentIDHex _ => ?_
  refine Prog.yields_bind (yields_requireActive agentIDHex) fun identity hidentity => ?_
  exact yields_writeOr (.selfSuspend hidentity.1 hidentity.2 _)

theorem performs_selfReinstate (agentID : String) :
    (handleSoulSelfReinstate agentID).Yields (Performs (.selfReinstate agentID)) fun _ => True := by
  unfold handleSoulSelfReinstate
  refine Prog.yields_bind (yields_liftExcept fun _ _ => trivial) fun agentIDHex _ => ?_
  refine Prog.yields_bind (yields_loadSoulLifecycleIdentity agentIDHex) fun identity _ => ?_
  refine Prog.yields_ite (fun _ => Prog.yields_fail) fun hstatus => yields_writeOr ?_
  exact .selfReinstate (not_not.1 hstatus)

theorem performs_publish (admits : SoulAgentIdentity → Except AppTheoryError Unit) (agentID : String) :
    (publishSoulAgentRegistration admits agentID).Yields (Performs (.publish agentID))
      fun _ => True := by
  unfold publishSoulAgentRegistration
  refine Prog.yields_bind (yields_liftExcept fun _ _ => trivial) fun agentIDHex _ => ?_
  refine Prog.yields_bind (yields_loadSoulLifecycleIdentity agentIDHex) fun identity hread => ?_
  refine Prog.yields_bind (yields_liftExcept fun _ _ => trivial) fun _ _ => ?_
  refine Prog.yields_bind (R := fun _ => True) (Prog.yields_perform ?_ fun _ => trivial) fun x _ => ?_
  · exact performs_other fun _ h => by cases h
  refine Prog.yields_bind (yields_liftExcept fun _ _ => trivial) fun version _ => ?_
  unfold finalizeSoulAgentRegistrationV2Identity
  refine Prog.yields_ite (fun _ => yields_writeOr ?_) fun _ => Prog.yields_pure trivial
  refine .publish hread _ fun hactive => ?_
  simp only [SoulAgentIdentity.UpdateKeys, activated, hactive, if_true]
  decide

theorem performs_convergePublished (admits : SoulAgentIdentity → Except AppTheoryError Unit)
    (agentID : String) :
    (convergePublishedIdentity admits agentID).Yields (Performs (.convergePublished agentID))
      fun _ => True := by
  unfold convergePublishedIdentity
  refine Prog.yields_bind (yields_liftExcept fun _ _ => trivial) fun agentIDHex _ => ?_
  refine Prog.yields_bind (yields_loadSoulLifecycleIdentity agentIDHex) fun identity hread => ?_
  refine Prog.yields_bind (yields_liftExcept fun _ _ => trivial) fun _ _ => ?_
  unfold ensureSoulAgentRegistrationPublishedIdentityActive
  refine Prog.yields_ite (fun _ => Prog.yields_pure trivial) fun _ => ?_
  refine Prog.yields_ite (fun _ => yields_writeOr ?_) fun _ => Prog.yields_pure trivial
  refine .convergePublished hread fun hactive => ?_
  simp only [SoulAgentIdentity.UpdateKeys, activated, hactive, if_true]
  decide

theorem performs_appendContinuity (s : Server) (agentID : String) (req : soulAppendContinuityRequest) :
    (handleSoulAppendContinuity s agentID req).Yields (Performs (.appendContinuity agentID req))
      fun _ => True := by
  unfold handleSoulAppendContinuity
  refine Prog.yields_bind (yields_liftExcept fun _ _ => trivial) fun agentIDHex _ => ?_
  refine Prog.yields_bind (yields_requireActive agentIDHex) fun identity _ => ?_
  refine Prog.yields_bind yields_now fun now _ => ?_
  refine Prog.yields_bind (yields_liftExcept fun _ _ => trivial) fun entryData _ => ?_
  refine Prog.yields_bind (yields_liftExcept fun _ _ => trivial) fun digest _ => ?_
  refine Prog.yields_ite (fun _ => Prog.yields_fail) fun _ => ?_
  refine Prog.yields_bind (R := fun _ => True) (Prog.yields_perform ?_ fun _ => trivial) fun x _ => ?_
  · intro ws hws
    cases hws
    exact .appendContinuity _
  split
  · exact Prog.yields_pure trivial
  · unfold loadMatchingSoulContinuityReplay
    refine Prog.yields_bind (R := fun _ => True) ?_ fun _ _ => Prog.yields_pure trivial
    refine Prog.yields_bind (R := fun _ => True) (Prog.yields_perform ?_ fun _ => trivial) fun y _ => ?_
    · exact performs_other fun _ h => by cases h
    split
    · exact Prog.yields_fail
    · split
      · exact Prog.yields_fail
      · exact Prog.yields_ite (fun _ => Prog.yields_fail) fun _ => Prog.yields_pure trivial
  · exact Prog.yields_fail

end Handlers

/-- **No request performs another transaction.** -/
theorem handler_performs (s : Server) (admits : SoulAgentIdentity → Except AppTheoryError Unit)
    (r : Request) : (r.handler s admits).Only (Performs r) := by
  cases r with
  | archiveAgentBegin agentID =>
      exact Prog.only_bind (performs_archiveAgentBegin s agentID).only fun _ => Prog.only_pure _
  | archiveAgent agentID req =>
      exact Prog.only_bind (performs_archiveAgent s agentID req).only fun _ => Prog.only_pure _
  | designateSuccessorBegin agentID successorAgentID =>
      exact Prog.only_bind (performs_designateSuccessorBegin s agentID successorAgentID).only
        fun _ => Prog.only_pure _
  | designateSuccessor agentID req =>
      exact Prog.only_bind (performs_designateSuccessor s agentID req).only fun _ => Prog.only_pure _
  | suspend agentID reason =>
      exact Prog.only_bind (performs_suspend agentID reason).only fun _ => Prog.only_pure _
  | reinstate agentID =>
      exact Prog.only_bind (performs_reinstate agentID).only fun _ => Prog.only_pure _
  | selfSuspend agentID reason =>
      exact Prog.only_bind (performs_selfSuspend agentID reason).only fun _ => Prog.only_pure _
  | selfReinstate agentID =>
      exact Prog.only_bind (performs_selfReinstate agentID).only fun _ => Prog.only_pure _
  | publish agentID =>
      exact Prog.only_bind (performs_publish admits agentID).only fun _ => Prog.only_pure _
  | convergePublished agentID =>
      exact Prog.only_bind (performs_convergePublished admits agentID).only fun _ => Prog.only_pure _
  | appendContinuity agentID req =>
      exact Prog.only_bind (performs_appendContinuity s agentID req).only fun _ => Prog.only_pure _

/-! ## Interleavings -/

/-- The requests, side by side over one table. -/
def lifecycle {ι : Type} (s : Server) (admits : SoulAgentIdentity → Except AppTheoryError Unit)
    (requests : ι → Request) (t : Table) :
    Config ι Op Op.Res AppTheoryError Response (Traced ι Op Table Choice) where
  state := Traced.start t
  threads i := (requests i).handler s admits

/-! ## Identifiers -/

/-- `getSoulAgentIdentity` of a normal identifier. -/
def fetchIdentity (agentID : String) : Handler (Except StoreError SoulAgentIdentity) := do
  match ← Prog.perform (.getIdentity agentID : Op) with
  | .error e => return .error e
  | .ok item => return .ok (readRepair item)

theorem getSoulAgentIdentity_normal {agentID : String} (h : Normal agentID) (hne : agentID ≠ "") :
    getSoulAgentIdentity agentID = fetchIdentity agentID := by
  unfold getSoulAgentIdentity
  dsimp only
  rw [h, if_neg hne]
  rfl

/-- An identifier of 64 equal digits. -/
def agentIDOf (digit : Char) : String := String.ofList ('0' :: 'x' :: List.replicate 64 digit)

theorem agentIDOf_ne_empty (digit : Char) : agentIDOf digit ≠ "" := by
  intro h
  have hlist := congrArg String.toList h
  rw [agentIDOf, String.toList_ofList] at hlist
  cases hlist

theorem agentIDOf_ne {c d : Char} (h : c ≠ d) : agentIDOf c ≠ agentIDOf d := by
  intro heq
  have hlist := congrArg String.toList heq
  simp only [agentIDOf, String.toList_ofList, List.replicate_succ] at hlist
  exact h (List.cons.inj (List.cons.inj (List.cons.inj hlist).2).2).1

theorem normal_agentIDOf {d : Char} (h : isLowerHexChar d = true) :
    Normal (agentIDOf d) := by
  have hdigits : ∀ c ∈ List.replicate 64 d, isLowerHexChar c = true := by
    intro c hc
    rw [List.eq_of_mem_replicate hc]
    exact h
  have htrimmed : IsTrimmed (agentIDOf d) := by
    refine isTrimmed_of_ends (a := '0') (b := d) ?_ ?_ (by decide) (isSpace_of_hex h)
    · rw [agentIDOf, String.toList_ofList, List.head?_cons]
    · rw [agentIDOf, String.toList_ofList]
      rfl
  rw [Normal, htrimmed.TrimSpace_eq]
  rw [ToLower, agentIDOf, String.toList_ofList, List.map_cons, List.map_cons,
    List.map_congr_left fun c hc => toLowerChar_of_hex (hdigits c hc), List.map_id']
  rw [show toLowerChar '0' = '0' by decide, show toLowerChar 'x' = 'x' by decide]

theorem parse_agentIDOf {d : Char} (h : isLowerHexChar d = true)
    (hhex : (JSONText.hexValue d).isSome = true) :
    parseSoulAgentIDHex (agentIDOf d) = .ok (agentIDOf d) := by
  have hlen : len (agentIDOf d) = 66 := by
    rw [len, agentIDOf, String.toList_ofList, List.map_cons, List.map_cons, List.map_replicate,
      utf8Size_of_hex h]
    decide
  have hprefix : HasPrefix (agentIDOf d) "0x" = true := by
    rw [HasPrefix, agentIDOf, String.toList_ofList]
    simp
  have hall : ((agentIDOf d).toList.drop 2).all (fun c => (JSONText.hexValue c).isSome) = true := by
    rw [agentIDOf, String.toList_ofList]
    simp [hhex]
  unfold parseSoulAgentIDHex
  dsimp only
  rw [normal_agentIDOf h, if_neg (agentIDOf_ne_empty d), hlen, hprefix, hall]
  rw [if_neg (by simp)]

end LesserHost.SoulLifecycle
