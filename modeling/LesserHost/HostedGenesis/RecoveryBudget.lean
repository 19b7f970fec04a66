import LesserHost.HostedGenesis.Authoring
import LesserHost.HostedGenesis.Completion
import LesserHost.HostedGenesis.CandidateSteps
import LesserHost.HostedGenesis.SessionCommits

set_option autoImplicit false

/-! # The recovery budget of a session

A run of one session: failures are recorded and retries take it back to work. What the stored failure
offers is bounded by what it offered before, one attempt less for every retry, since a new failure is
capped by the one it replaces. There is one pair of codes it is not capped for: an assistant turn that
fails after the MicroVM was unavailable brings its own budget. -/

namespace LesserHost.HostedGenesis

open LesserHost.Go

/-! ## Runs -/

inductive RecoveryEvent where
  | recordFailure (now : Time) (turnID requestID : String) (failure : CompletionFailure)
      (refused : Bool)
  | retryAssistantTurn (call : RetryCall)
  | retryMicroVM (call : RetryCall)

def RecoveryEvent.isRetry : RecoveryEvent → Bool
  | .recordFailure .. => false
  | .retryAssistantTurn _ => true
  | .retryMicroVM _ => true

/-- The attempts that a failure still offers. -/
def Failure.offers (f : Failure) : Nat :=
  if isBoundedRecoveryFailure f.Code = true ∧ f.Recovery.Action = RecoveryActionRetrySameStep ∧
      f.Retryable = true then f.Recovery.MaxAttempts.toNat
  else 0

section Runs

variable (sv : Services) (slug conversationID : String)

/-- The session and its conversation, as a retry reads them. -/
def readSession (db : DB) : Option (HostedGenesisSession × SoulAgentMintConversation) := do
  let session ← (GetHostedGenesisSession sv db slug conversationID).toOption
  let conv ← GetSoulAgentMintConversation db session.AgentID session.ConversationID
  return (session, conv)

/-- The table after an event that was carried out. -/
def RecoveryEvent.commit (db : DB) : RecoveryEvent → Option DB
  | .recordFailure now turnID requestID failure refused =>
      (RecordFailure sv now ⟨slug, conversationID, turnID, requestID⟩ failure refused db).toOption.map
        Prod.snd
  | .retryAssistantTurn call =>
      (readSession sv slug conversationID db).bind fun (session, conv) =>
        (retryHostedGenesisFailedAssistantTurn sv call session conv db).toOption
  | .retryMicroVM call =>
      (readSession sv slug conversationID db).bind fun (session, conv) =>
        (retryHostedGenesisMicroVMUnavailable sv call session conv db).toOption

def recoveryStep (db : DB) (e : RecoveryEvent) : DB := (e.commit sv slug conversationID db).getD db

def recoveryRun (db : DB) (events : List RecoveryEvent) : DB :=
  events.foldl (recoveryStep sv slug conversationID) db

/-- A retry that is carried out costs an attempt. -/
def RecoveryEvent.paid (db : DB) (e : RecoveryEvent) : Nat :=
  if e.isRetry ∧ (e.commit sv slug conversationID db).isSome then 1 else 0

/-- The retries of a run that were carried out. -/
def retries (db : DB) : List RecoveryEvent → Nat
  | [] => 0
  | e :: events => e.paid sv slug conversationID db
      + retries (recoveryStep sv slug conversationID db e) events

def storedFailure (db : DB) : Option Failure :=
  (db.sessions (sessionKey slug conversationID)).bind (·.Failure)

def offered (db : DB) : Nat := ((storedFailure slug conversationID db).map Failure.offers).getD 0

/-- An assistant turn that fails after the MicroVM was unavailable asks for no more attempts than are
left. -/
def RecoveryEvent.Spares (db : DB) : RecoveryEvent → Prop
  | .recordFailure _ _ _ failure _ => ∀ row prior,
      db.sessions (sessionKey slug conversationID) = some row →
      completionFailureStatusTerminal (NormalizeStatus row.Status) = false →
      row.Failure = some prior → prior.Code = FailureCodeMicroVMUnavailable →
      failure.Code = FailureCodeAssistantTurnFailed → failure.Retryable = true →
      failure.Recovery.Action = RecoveryActionRetrySameStep →
      failure.Recovery.MaxAttempts ≤ prior.Recovery.MaxAttempts
  | .retryAssistantTurn _ => True
  | .retryMicroVM _ => True

def SparesAll (db : DB) : List RecoveryEvent → Prop
  | [] => True
  | e :: events => e.Spares slug conversationID db ∧
      SparesAll (recoveryStep sv slug conversationID db e) events

/-- What a run keeps, cut at any place: what is offered never grows, a bootstrap that is to be restarted
stays so, and the first failure pays for all retries. -/
structure BudgetKept (db : DB) (events : List RecoveryEvent) : Prop where
  never_grows : ∀ before after, events = before ++ after →
    (storedFailure slug conversationID (recoveryRun sv slug conversationID db before)).isSome →
    offered slug conversationID (recoveryRun sv slug conversationID db events)
      ≤ offered slug conversationID (recoveryRun sv slug conversationID db before)
  restart_stays : ∀ before after f, events = before ++ after →
    storedFailure slug conversationID (recoveryRun sv slug conversationID db before) = some f →
    f.Recovery.Action = RecoveryActionRestartSoulBootstrap →
    storedFailure slug conversationID (recoveryRun sv slug conversationID db events) = some f
  retries_paid : ∀ before e after, events = before ++ e :: after →
    storedFailure slug conversationID (recoveryRun sv slug conversationID db before) = none →
    (storedFailure slug conversationID
      (recoveryRun sv slug conversationID db (before ++ [e]))).isSome →
    retries sv slug conversationID db events
      ≤ offered slug conversationID (recoveryRun sv slug conversationID db (before ++ [e]))

end Runs

/-! ## One failure after another -/

/-- The failure of a session that is at work again. -/
structure Failure.Carried (f : Failure) : Prop where
  bounded : isBoundedRecoveryFailure f.Code = true
  action : f.Recovery.Action = RecoveryActionRetrySameStep
  attempts : f.Retryable = true ∨ f.Recovery.MaxAttempts ≤ 0

theorem Failure.Carried.offers {f : Failure} (h : f.Carried) : f.offers = f.Recovery.MaxAttempts.toNat := by
  unfold Failure.offers
  rcases h.attempts with hretry | hnone
  · rw [if_pos ⟨h.bounded, h.action, hretry⟩]
  · split_ifs
    · rfl
    · omega

theorem offers_le (f : Failure) : f.offers ≤ f.Recovery.MaxAttempts.toNat := by
  unfold Failure.offers
  split_ifs
  · exact le_rfl
  · exact Nat.zero_le _

theorem offers_exhausted (f : Failure) : f.exhausted.offers = 0 := by
  unfold Failure.offers Failure.exhausted
  split_ifs <;> rfl

theorem capped_le (f : Failure) (maxAttempts : Int) :
    (f.capped maxAttempts).Recovery.MaxAttempts ≤ maxAttempts := by
  unfold Failure.capped
  split_ifs with h
  · exact le_rfl
  · omega

/-- A failure is capped by the one before, unless it is the pair of codes that is not. -/
theorem offers_applyPriorRecoveryBudget {next prior : Failure} (carried : prior.Carried)
    (spares : prior.Code = FailureCodeMicroVMUnavailable → next.Code = FailureCodeAssistantTurnFailed →
      next.Retryable = true → next.Recovery.Action = RecoveryActionRetrySameStep →
      next.Recovery.MaxAttempts ≤ prior.Recovery.MaxAttempts) :
    (applyPriorRecoveryBudget next (some prior)).offers ≤ prior.offers := by
  rw [carried.offers]
  simp only [applyPriorRecoveryBudget]
  split_ifs with huncapped hrestart hretry hnone
  · -- the new failure is stored as it is
    unfold Failure.offers
    split_ifs with hoffers
    · obtain ⟨hbounded, haction, hretryable⟩ := hoffers
      have hcodes : next.Code ≠ prior.Code ∧ next.Code ≠ FailureCodeMicroVMUnavailable := by
        rcases huncapped with h | h | h
        · exact absurd hbounded (by rw [h]; decide)
        · exact absurd carried.bounded (by rw [h]; decide)
        · exact h
      have hnext : next.Code = FailureCodeAssistantTurnFailed := by
        simp only [isBoundedRecoveryFailure, Bool.or_eq_true, beq_iff_eq] at hbounded
        exact hbounded.resolve_right hcodes.2
      have hprior : prior.Code = FailureCodeMicroVMUnavailable := by
        have h := carried.bounded
        simp only [isBoundedRecoveryFailure, Bool.or_eq_true, beq_iff_eq] at h
        exact h.resolve_left fun h => hcodes.1 (hnext.trans h.symm)
      have := spares hprior hnext hretryable haction
      omega
    · exact Nat.zero_le _
  · rw [offers_exhausted]
    exact Nat.zero_le _
  · rw [offers_exhausted]
    exact Nat.zero_le _
  · have hle := offers_le (next.capped prior.Recovery.MaxAttempts)
    have hcap := capped_le next prior.Recovery.MaxAttempts
    omega
  · exact absurd carried.action hretry

theorem carried_carryForward {f : Failure} (bounded : isBoundedRecoveryFailure f.Code = true)
    (action : f.Recovery.Action = RecoveryActionRetrySameStep) (retryable : f.Retryable = true) :
    (hostedGenesisRetryCarryForward f).Carried := by
  refine ⟨bounded, action, ?_⟩
  by_cases h : max (f.Recovery.MaxAttempts - 1) 0 = 0
  · exact Or.inr (le_of_eq h)
  · refine Or.inl ?_
    simp only [hostedGenesisRetryCarryForward, if_neg h, retryable]

theorem offers_carryForward {f : Failure} (bounded : isBoundedRecoveryFailure f.Code = true)
    (action : f.Recovery.Action = RecoveryActionRetrySameStep) (retryable : f.Retryable = true)
    (left : 0 < f.Recovery.MaxAttempts) :
    (hostedGenesisRetryCarryForward f).offers + 1 = f.offers := by
  rw [(carried_carryForward bounded action retryable).offers, Failure.offers,
    if_pos ⟨bounded, action, retryable⟩]
  simp only [hostedGenesisRetryCarryForward]
  omega

/-! ## One event after another -/

section Steps

variable {sv : Services} {slug conversationID : String} {db db' : DB}

theorem getSession_ok {session : HostedGenesisSession}
    (h : GetHostedGenesisSession sv db slug conversationID = .ok session) :
    ∃ row candidate, db.sessions (sessionKey slug conversationID) = some row ∧
      session = { row with DeclarationCandidate := candidate } := by
  have hpk : HostedGenesisSessionPK (TrimSpace slug) = HostedGenesisSessionPK slug := by
    unfold HostedGenesisSessionPK normalizeSlug
    rw [TrimSpace_idem]
  have hsk : HostedGenesisSessionSK (TrimSpace conversationID)
      = HostedGenesisSessionSK conversationID := by
    unfold HostedGenesisSessionSK
    rw [TrimSpace_idem]
  have hkey : sessionKey (TrimSpace slug) (TrimSpace conversationID)
      = sessionKey slug conversationID := by
    unfold sessionKey
    rw [hpk, hsk]
  simp only [GetHostedGenesisSession, guard_ok, hkey] at h
  obtain ⟨-, h⟩ := h
  cases hrow : db.sessions (sessionKey slug conversationID) with
  | none =>
      rw [hrow] at h
      cases h
  | some row =>
      rw [hrow] at h
      cases hcandidate : NormalizePersistedDeclarationCandidate sv row.DeclarationCandidate with
      | error err => simp only [hcandidate, reduceCtorEq] at h
      | ok candidate =>
          simp only [hcandidate, Except.ok.injEq] at h
          exact ⟨row, candidate, rfl, h.symm⟩

/-- The row under which a session is read is its own. -/
def HostedGenesisSession.Keyed (row : HostedGenesisSession) (key : Key) : Prop :=
  sessionKey row.InstanceSlug row.ConversationID = key

/-- A failure that was recorded. -/
structure Recorded (failure : CompletionFailure) (row next : HostedGenesisSession) : Prop where
  working : completionFailureStatusTerminal (NormalizeStatus row.Status) = false
  status : NormalizeStatus next.Status = StatusFailed
  failure : next.Failure = some (applyPriorRecoveryBudget failure.envelope row.Failure)
  slug : next.InstanceSlug = row.InstanceSlug
  conversation : next.ConversationID = row.ConversationID

theorem Writes.outcome {c : Commit} {status : String}
    {update : HostedGenesisSession → HostedGenesisSession} (h : Writes sv c status update)
    (old : HostedGenesisSession) :
    NormalizeStatus (update old).Status = NormalizeStatus c.item.Status ∧
      (update old).Failure = c.item.Failure ∧ (update old).InstanceSlug = old.InstanceSlug ∧
      (update old).ConversationID = old.ConversationID := by
  cases h with
  | set item normalized follows =>
      refine ⟨?_, normalized.failure, rfl, rfl⟩
      rw [HostedGenesisSession.set, normalized.status, NormalizeStatus_idem]
  | failure failed follows => exact ⟨rfl, rfl, rfl, rfl⟩

theorem RecordFailure_ok {now : Time} {turnID requestID : String} {failure : CompletionFailure}
    {refused : Bool} {row progressed : HostedGenesisSession}
    (hrow : db.sessions (sessionKey slug conversationID) = some row)
    (hkeyed : row.Keyed (sessionKey slug conversationID))
    (h : RecordFailure sv now ⟨slug, conversationID, turnID, requestID⟩ failure refused db
      = .ok (progressed, db')) :
    ∃ next, db'.sessions (sessionKey slug conversationID) = some next ∧ Recorded failure row next := by
  simp only [RecordFailure, bind_ok, guard_ok, mapError_ok] at h
  obtain ⟨_, -, _, -, session, hsession, hworking, _, -, _, -, h⟩ := h
  obtain ⟨row', candidate, hrow', rfl⟩ := getSession_ok hsession
  obtain rfl : row = row' := Option.some.inj (hrow.symm.trans hrow')
  split at h
  · cases h
  · simp only [guard_ok, bind_ok, mapError_ok, pure_ok, Prod.mk.injEq] at h
    obtain ⟨-, written, hrun, -, rfl⟩ := h
    obtain ⟨old, status, update, hold, -, -, hwrites, hsessions⟩ := Commit.run_ok hrun
    have hkey : sessionKey row.InstanceSlug row.ConversationID = sessionKey slug conversationID := hkeyed
    simp only [Commit.key, HostedGenesisSession.progressedFailure, hkey] at hold hsessions
    obtain rfl : row = old := Option.some.inj (hrow.symm.trans hold)
    obtain ⟨hstatus, hfailure, hslug, hconversation⟩ := hwrites.outcome row
    refine ⟨update row, ?_, ?_, ?_, ?_, hslug, hconversation⟩
    · rw [hsessions, Function.update_self]
    · simpa using hworking
    · have hfailed : NormalizeStatus StatusFailed = StatusFailed := by decide
      exact hstatus.trans hfailed
    · exact hfailure

/-- A retry that was written. -/
structure Retried (row next : HostedGenesisSession) : Prop where
  failed : NormalizeStatus row.Status = StatusFailed
  offered : ∃ f, row.Failure = some f ∧ isBoundedRecoveryFailure f.Code = true ∧
    f.Recovery.Action = RecoveryActionRetrySameStep ∧ f.Retryable = true ∧ 0 < f.Recovery.MaxAttempts
  status : NormalizeStatus next.Status = StatusInProgress
  failure : next.Failure = row.Failure.map hostedGenesisRetryCarryForward
  keyed : sessionKey next.InstanceSlug next.ConversationID
    = sessionKey row.InstanceSlug row.ConversationID

theorem BeforeUpdate_key {now : Time} {item item' : HostedGenesisSession}
    (h : item.BeforeUpdate sv now = .ok item') :
    sessionKey item'.InstanceSlug item'.ConversationID
      = sessionKey item.InstanceSlug item.ConversationID := by
  simp only [HostedGenesisSession.BeforeUpdate, HostedGenesisSession.validateAndUpdateKeys, bind_ok,
    pure_ok] at h
  obtain ⟨keyed, hkeyed, _, -, rfl⟩ := h
  obtain ⟨revision, hash, phase, checkpoint, rfl⟩ := UpdateKeys_ok hkeyed
  exact sessionKey_normal item.InstanceSlug item.ConversationID

/-- What is written for a retry. -/
theorem persistRetry_ok {failed progressed : HostedGenesisSession} {conv : SoulAgentMintConversation}
    {now : Time} {code : String} {refused : Bool}
    (h : persistHostedGenesisFailedRetryPending sv failed progressed conv now code refused db = .ok db') :
    ∃ old item, db.sessions (sessionKey progressed.InstanceSlug progressed.ConversationID) = some old ∧
      Normalized sv progressed item ∧ sessionKey item.InstanceSlug item.ConversationID
        = sessionKey progressed.InstanceSlug progressed.ConversationID ∧
      db'.sessions = Function.update db.sessions
        (sessionKey progressed.InstanceSlug progressed.ConversationID) (some (item.setRetry old)) := by
  simp only [persistHostedGenesisFailedRetryPending, addHostedGenesisSessionRecoveryRetryWrite, bind_ok,
    guard_ok] at h
  obtain ⟨write, ⟨hstatus, hwrite⟩, htransact⟩ := h
  split at hwrite
  · cases hwrite
  · simp only [guard_ok, bind_ok, refuse_ok, pure_ok] at hwrite
    obtain ⟨-, _, -, item, hitem, rfl⟩ := hwrite
    have hnormal := BeforeUpdate_ok hitem
    obtain ⟨-, hholds, rfl⟩ := TransactWrite_ok htransact
    have hguard := hholds _ List.mem_cons_self
    rw [TransactItem.holds, hnormal.key, Meets, Option.any_eq_true] at hguard
    obtain ⟨old, hold, -⟩ := hguard
    refine ⟨old, item, hold, hnormal, BeforeUpdate_key hitem, ?_⟩
    rw [List.foldl_cons, List.foldl_cons, List.foldl_nil]
    simp only [TransactItem.write, hnormal.key, hold, Option.map_some]

theorem retryFailure_some {session : HostedGenesisSession} {code : String} {f : Failure}
    (h : retryFailure sv session code = some f) :
    NormalizeStatus session.Status = StatusFailed ∧ session.Failure = some f ∧ f.Code = code ∧
      f.Recovery.Action = RecoveryActionRetrySameStep := by
  unfold retryFailure at h
  split_ifs at h with hcandidate
  rw [not_or, not_not] at hcandidate
  rw [Option.filter_eq_some_iff, Bool.and_eq_true, beq_iff_eq, beq_iff_eq] at h
  exact ⟨hcandidate.2, h.1, h.2.1, h.2.2⟩

/-- Both retries write the same row, for a failure of their code. -/
theorem retried_of_persist {row session : HostedGenesisSession} {candidate : Option DeclarationCandidate}
    {conv : SoulAgentMintConversation} {call : RetryCall} {code : String}
    (hrow : db.sessions (sessionKey slug conversationID) = some row)
    (hkeyed : row.Keyed (sessionKey slug conversationID))
    (hsession : session = { row with DeclarationCandidate := candidate })
    (hcode : isBoundedRecoveryFailure code = true)
    (hoffered : (retryFailure sv session code).any (fun failure =>
      failure.Retryable && decide (0 < failure.Recovery.MaxAttempts)) = true)
    (h : persistHostedGenesisFailedRetryPending sv session
      (session.progressedRetry call.RequestID call.now) conv call.now code call.refused db = .ok db') :
    ∃ next, db'.sessions (sessionKey slug conversationID) = some next ∧ Retried row next := by
  obtain ⟨f, hf, hleft⟩ := (Option.any_eq_true _ _).1 hoffered
  obtain ⟨hfailed, hfailure, rfl, haction⟩ := retryFailure_some hf
  rw [Bool.and_eq_true, decide_eq_true_eq] at hleft
  obtain ⟨old, item, hold, hnormal, hitem, hsessions⟩ := persistRetry_ok h
  subst hsession
  have hkey : sessionKey row.InstanceSlug row.ConversationID = sessionKey slug conversationID := hkeyed
  simp only [HostedGenesisSession.progressedRetry, hkey] at hold hsessions hitem
  obtain rfl : row = old := Option.some.inj (hrow.symm.trans hold)
  refine ⟨item.setRetry row, ?_, hfailed, ⟨f, hfailure, hcode, haction, hleft.1, hleft.2⟩, ?_, ?_, ?_⟩
  · rw [hsessions, Function.update_self]
  · have hstatus : item.Status = NormalizeStatus StatusInProgress := hnormal.status
    change NormalizeStatus item.Status = StatusInProgress
    rw [hstatus]
    decide
  · exact hnormal.failure
  · exact hitem.trans hkey.symm

theorem retryAssistant_ok {row session : HostedGenesisSession} {candidate : Option DeclarationCandidate}
    {conv : SoulAgentMintConversation} {call : RetryCall}
    (hrow : db.sessions (sessionKey slug conversationID) = some row)
    (hkeyed : row.Keyed (sessionKey slug conversationID))
    (hsession : session = { row with DeclarationCandidate := candidate })
    (h : retryHostedGenesisFailedAssistantTurn sv call session conv db = .ok db') :
    ∃ next, db'.sessions (sessionKey slug conversationID) = some next ∧ Retried row next := by
  simp only [retryHostedGenesisFailedAssistantTurn, guard_ok, bind_ok, mapError_ok] at h
  obtain ⟨hcan, turnID, -, -, _, -, _, -, hpersist⟩ := h
  exact retried_of_persist hrow hkeyed hsession (by decide) (Bool.not_eq_false _ ▸ hcan) hpersist

theorem retryMicroVM_ok {row session : HostedGenesisSession} {candidate : Option DeclarationCandidate}
    {conv : SoulAgentMintConversation} {call : RetryCall}
    (hrow : db.sessions (sessionKey slug conversationID) = some row)
    (hkeyed : row.Keyed (sessionKey slug conversationID))
    (hsession : session = { row with DeclarationCandidate := candidate })
    (h : retryHostedGenesisMicroVMUnavailable sv call session conv db = .ok db') :
    ∃ next, db'.sessions (sessionKey slug conversationID) = some next ∧ Retried row next := by
  simp only [retryHostedGenesisMicroVMUnavailable, guard_ok, bind_ok, mapError_ok] at h
  obtain ⟨hcan, _, -, -, _, -, hpersist⟩ := h
  exact retried_of_persist hrow hkeyed hsession (by decide) (Bool.not_eq_false _ ▸ hcan) hpersist

theorem readSession_some {row session : HostedGenesisSession} {conv : SoulAgentMintConversation}
    (hrow : db.sessions (sessionKey slug conversationID) = some row)
    (h : readSession sv slug conversationID db = some (session, conv)) :
    ∃ candidate, session = { row with DeclarationCandidate := candidate } := by
  simp only [readSession, Option.bind_eq_bind, Option.bind_eq_some_iff, Option.pure_def,
    Option.some.injEq, Prod.mk.injEq] at h
  obtain ⟨read, hread, _, -, rfl, -⟩ := h
  obtain ⟨row', candidate, hrow', hsession⟩ := getSession_ok (toOption_some.1 hread)
  obtain rfl : row = row' := Option.some.inj (hrow.symm.trans hrow')
  exact ⟨candidate, hsession⟩

variable (sv) in
/-- **What one event does to the row**: nothing, or it records its failure, or it is a retry. -/
theorem step_cases {row : HostedGenesisSession} (e : RecoveryEvent)
    (hrow : db.sessions (sessionKey slug conversationID) = some row)
    (hkeyed : row.Keyed (sessionKey slug conversationID)) :
    (e.commit sv slug conversationID db = none ∧ recoveryStep sv slug conversationID db e = db) ∨
    ∃ next, (recoveryStep sv slug conversationID db e).sessions (sessionKey slug conversationID)
        = some next ∧
      ((∃ now turnID requestID failure refused,
          e = .recordFailure now turnID requestID failure refused ∧ Recorded failure row next) ∨
        (e.isRetry = true ∧ Retried row next)) := by
  cases hcommit : e.commit sv slug conversationID db with
  | none => exact Or.inl ⟨rfl, by rw [recoveryStep, hcommit, Option.getD_none]⟩
  | some after =>
      refine Or.inr ?_
      rw [recoveryStep, hcommit, Option.getD_some]
      cases e with
      | recordFailure now turnID requestID failure refused =>
          simp only [RecoveryEvent.commit, Option.map_eq_some_iff] at hcommit
          obtain ⟨⟨progressed, written⟩, hrecord, rfl⟩ := hcommit
          obtain ⟨next, hnext, hrecorded⟩ := RecordFailure_ok hrow hkeyed (toOption_some.1 hrecord)
          exact ⟨next, hnext, Or.inl ⟨now, turnID, requestID, failure, refused, rfl, hrecorded⟩⟩
      | retryAssistantTurn call =>
          obtain ⟨⟨session, conv⟩, hread, hretry⟩ := Option.bind_eq_some_iff.1 hcommit
          obtain ⟨candidate, hsession⟩ := readSession_some hrow hread
          obtain ⟨next, hnext, hretried⟩ :=
            retryAssistant_ok hrow hkeyed hsession (toOption_some.1 hretry)
          exact ⟨next, hnext, Or.inr ⟨rfl, hretried⟩⟩
      | retryMicroVM call =>
          obtain ⟨⟨session, conv⟩, hread, hretry⟩ := Option.bind_eq_some_iff.1 hcommit
          obtain ⟨candidate, hsession⟩ := readSession_some hrow hread
          obtain ⟨next, hnext, hretried⟩ :=
            retryMicroVM_ok hrow hkeyed hsession (toOption_some.1 hretry)
          exact ⟨next, hnext, Or.inr ⟨rfl, hretried⟩⟩

/-! ## A session between events -/

/-- A session at work carries the failure of its last retry, if any. -/
def Steady (slug conversationID : String) (db : DB) : Prop :=
  ∃ row, db.sessions (sessionKey slug conversationID) = some row ∧
    row.Keyed (sessionKey slug conversationID) ∧
    (NormalizeStatus row.Status = StatusFailed ∨ ∀ f, row.Failure = some f → f.Carried)

theorem storedFailure_row {row : HostedGenesisSession}
    (hrow : db.sessions (sessionKey slug conversationID) = some row) :
    storedFailure slug conversationID db = row.Failure := by
  rw [storedFailure, hrow, Option.bind_some]

theorem offered_some {f : Failure} (h : storedFailure slug conversationID db = some f) :
    offered slug conversationID db = f.offers := by
  rw [offered, h, Option.map_some, Option.getD_some]

theorem paid_none {e : RecoveryEvent} (h : e.commit sv slug conversationID db = none) :
    e.paid sv slug conversationID db = 0 := by
  rw [RecoveryEvent.paid, h, if_neg]
  rintro ⟨-, hsome⟩
  cases hsome

theorem Recorded.not_failed {failure : CompletionFailure} {row next : HostedGenesisSession}
    (h : Recorded failure row next) : NormalizeStatus row.Status ≠ StatusFailed := by
  intro hfailed
  have hworking := h.working
  rw [hfailed] at hworking
  exact absurd hworking (by decide)

theorem Steady.step (steady : Steady slug conversationID db) (e : RecoveryEvent) :
    Steady slug conversationID (recoveryStep sv slug conversationID db e) := by
  obtain ⟨row, hrow, hkeyed, hstate⟩ := steady
  rcases step_cases sv e hrow hkeyed with ⟨-, hsame⟩ | ⟨next, hnext, hcase⟩
  · rw [hsame]
    exact ⟨row, hrow, hkeyed, hstate⟩
  · rcases hcase with ⟨_, _, _, failure, _, -, hrecorded⟩ | ⟨-, hretried⟩
    · refine ⟨next, hnext, ?_, Or.inl hrecorded.status⟩
      rw [HostedGenesisSession.Keyed, hrecorded.slug, hrecorded.conversation]
      exact hkeyed
    · obtain ⟨f, hf, hbounded, haction, hretryable, -⟩ := hretried.offered
      refine ⟨next, hnext, hretried.keyed.trans hkeyed, Or.inr fun g hg => ?_⟩
      rw [hretried.failure, hf, Option.map_some] at hg
      obtain rfl := Option.some.inj hg
      exact carried_carryForward hbounded haction hretryable

/-- What is offered pays for the event. -/
theorem Steady.offered_step (steady : Steady slug conversationID db) {e : RecoveryEvent}
    (spares : e.Spares slug conversationID db) (hsome : (storedFailure slug conversationID db).isSome) :
    (storedFailure slug conversationID (recoveryStep sv slug conversationID db e)).isSome ∧
      e.paid sv slug conversationID db
        + offered slug conversationID (recoveryStep sv slug conversationID db e)
          ≤ offered slug conversationID db := by
  obtain ⟨row, hrow, hkeyed, hstate⟩ := steady
  obtain ⟨prior, hprior⟩ := Option.isSome_iff_exists.1 hsome
  have hfailure : row.Failure = some prior := (storedFailure_row hrow).symm.trans hprior
  rcases step_cases sv e hrow hkeyed with ⟨hnone, hsame⟩ | ⟨next, hnext, hcase⟩
  · rw [hsame, paid_none hnone, Nat.zero_add]
    exact ⟨hsome, le_rfl⟩
  · rcases hcase with ⟨_, _, _, failure, _, rfl, hrecorded⟩ | ⟨hretry, hretried⟩
    · have hcarried : prior.Carried := hstate.resolve_left hrecorded.not_failed prior hfailure
      have hstored : storedFailure slug conversationID (recoveryStep sv slug conversationID db _)
          = some (applyPriorRecoveryBudget failure.envelope (some prior)) :=
        (storedFailure_row hnext).trans (hfailure ▸ hrecorded.failure)
      refine ⟨by rw [hstored]; rfl, ?_⟩
      rw [offered_some hstored, offered_some hprior, RecoveryEvent.paid, if_neg (by simp
        [RecoveryEvent.isRetry]), Nat.zero_add]
      exact offers_applyPriorRecoveryBudget hcarried (spares row prior hrow hrecorded.working hfailure)
    · obtain ⟨f, hf, hbounded, haction, hretryable, hleft⟩ := hretried.offered
      obtain rfl : prior = f := Option.some.inj (hfailure.symm.trans hf)
      have hstored : storedFailure slug conversationID (recoveryStep sv slug conversationID db e)
          = some (hostedGenesisRetryCarryForward prior) :=
        (storedFailure_row hnext).trans (by rw [hretried.failure, hf, Option.map_some])
      refine ⟨by rw [hstored]; rfl, ?_⟩
      have hone := offers_carryForward hbounded haction hretryable hleft
      have hpaid : e.paid sv slug conversationID db ≤ 1 := by
        unfold RecoveryEvent.paid
        split_ifs <;> omega
      rw [offered_some hstored, offered_some hprior]
      omega

/-- Without a failure there is nothing to retry. -/
theorem Steady.unpaid (steady : Steady slug conversationID db) {e : RecoveryEvent}
    (hnone : storedFailure slug conversationID db = none) : e.paid sv slug conversationID db = 0 := by
  obtain ⟨row, hrow, hkeyed, -⟩ := steady
  rcases step_cases sv e hrow hkeyed with ⟨hcommit, -⟩ | ⟨next, -, hcase⟩
  · exact paid_none hcommit
  · rcases hcase with ⟨_, _, _, _, _, rfl, -⟩ | ⟨-, hretried⟩
    · rw [RecoveryEvent.paid, if_neg]
      simp [RecoveryEvent.isRetry]
    · obtain ⟨f, hf, -⟩ := hretried.offered
      rw [storedFailure_row hrow, hf] at hnone
      cases hnone

/-- A session that is to be bootstrapped anew stays as it is. -/
theorem Steady.restart_step (steady : Steady slug conversationID db) {e : RecoveryEvent} {f : Failure}
    (hstored : storedFailure slug conversationID db = some f)
    (hrestart : f.Recovery.Action = RecoveryActionRestartSoulBootstrap) :
    storedFailure slug conversationID (recoveryStep sv slug conversationID db e) = some f := by
  obtain ⟨row, hrow, hkeyed, hstate⟩ := steady
  have hfailure : row.Failure = some f := (storedFailure_row hrow).symm.trans hstored
  have hother : f.Recovery.Action ≠ RecoveryActionRetrySameStep := by
    rw [hrestart]
    decide
  rcases step_cases sv e hrow hkeyed with ⟨-, hsame⟩ | ⟨next, -, hcase⟩
  · rw [hsame]
    exact hstored
  · rcases hcase with ⟨_, _, _, _, _, -, hrecorded⟩ | ⟨-, hretried⟩
    · exact absurd (hstate.resolve_left hrecorded.not_failed f hfailure).action hother
    · obtain ⟨g, hg, -, haction, -⟩ := hretried.offered
      obtain rfl : f = g := Option.some.inj (hfailure.symm.trans hg)
      exact absurd haction hother

end Steps

/-! ## Whole runs -/

section WholeRuns

variable {sv : Services} {slug conversationID : String} {db : DB} {events before after : List RecoveryEvent}

theorem recoveryRun_append :
    recoveryRun sv slug conversationID db (before ++ after)
      = recoveryRun sv slug conversationID (recoveryRun sv slug conversationID db before) after :=
  List.foldl_append ..

theorem SparesAll.append (h : SparesAll sv slug conversationID db (before ++ after)) :
    SparesAll sv slug conversationID db before ∧
      SparesAll sv slug conversationID (recoveryRun sv slug conversationID db before) after := by
  induction before generalizing db with
  | nil => exact ⟨trivial, h⟩
  | cons e before ih =>
      obtain ⟨hbefore, hafter⟩ := ih h.2
      exact ⟨⟨h.1, hbefore⟩, hafter⟩

theorem retries_append :
    retries sv slug conversationID db (before ++ after) = retries sv slug conversationID db before
      + retries sv slug conversationID (recoveryRun sv slug conversationID db before) after := by
  induction before generalizing db with
  | nil => exact (Nat.zero_add _).symm
  | cons e before ih =>
      rw [List.cons_append, retries, ih, retries, Nat.add_assoc]
      rfl

theorem Steady.run (steady : Steady slug conversationID db) :
    Steady slug conversationID (recoveryRun sv slug conversationID db events) := by
  induction events generalizing db with
  | nil => exact steady
  | cons e events ih => exact ih (steady.step e)

/-- What is offered pays for all retries that follow. -/
theorem Steady.offered_run (steady : Steady slug conversationID db)
    (spares : SparesAll sv slug conversationID db events)
    (hsome : (storedFailure slug conversationID db).isSome) :
    (storedFailure slug conversationID (recoveryRun sv slug conversationID db events)).isSome ∧
      retries sv slug conversationID db events
        + offered slug conversationID (recoveryRun sv slug conversationID db events)
          ≤ offered slug conversationID db := by
  induction events generalizing db with
  | nil => exact ⟨hsome, le_of_eq (Nat.zero_add _)⟩
  | cons e events ih =>
      obtain ⟨hnext, hpaid⟩ := steady.offered_step spares.1 hsome
      obtain ⟨hlast, hrest⟩ := ih (steady.step e) spares.2 hnext
      refine ⟨hlast, ?_⟩
      change _ + offered slug conversationID (recoveryRun sv slug conversationID
        (recoveryStep sv slug conversationID db e) events) ≤ _
      rw [retries]
      omega

/-- Until the first failure there is no retry. -/
theorem Steady.no_retries (steady : Steady slug conversationID db)
    (spares : SparesAll sv slug conversationID db events)
    (hnone : storedFailure slug conversationID (recoveryRun sv slug conversationID db events) = none) :
    retries sv slug conversationID db events = 0 := by
  induction events generalizing db with
  | nil => rfl
  | cons e events ih =>
      cases hstored : storedFailure slug conversationID db with
      | none => rw [retries, steady.unpaid hstored, ih (steady.step e) spares.2 hnone]
      | some f =>
          have hkept := (steady.offered_run spares (by rw [hstored]; rfl)).1
          rw [hnone] at hkept
          cases hkept

theorem Steady.restart_run (steady : Steady slug conversationID db) {f : Failure}
    (hstored : storedFailure slug conversationID db = some f)
    (hrestart : f.Recovery.Action = RecoveryActionRestartSoulBootstrap) :
    storedFailure slug conversationID (recoveryRun sv slug conversationID db events) = some f := by
  induction events generalizing db with
  | nil => exact hstored
  | cons e events ih => exact ih (steady.step e) (steady.restart_step hstored hrestart)

end WholeRuns

/-- A session that has not failed yet keeps its budget in every run in which no assistant turn that
fails after the MicroVM was unavailable asks for more attempts than are left. -/
theorem recovery_budget (sv : Services) (slug conversationID : String) (db : DB)
    (events : List RecoveryEvent) {row : HostedGenesisSession}
    (hrow : db.sessions (sessionKey slug conversationID) = some row)
    (keyed : row.Keyed (sessionKey slug conversationID)) (fresh : row.Failure = none)
    (spares : SparesAll sv slug conversationID db events) :
    BudgetKept sv slug conversationID db events := by
  have steady : Steady slug conversationID db :=
    ⟨row, hrow, keyed, Or.inr fun f hf => by rw [fresh] at hf; cases hf⟩
  refine ⟨fun before after h hsome => ?_, fun before after f h hstored hrestart => ?_,
    fun before e after h hnone hsome => ?_⟩
  · subst h
    have hrun := (steady.run.offered_run spares.append.2 hsome).2
    rw [recoveryRun_append]
    omega
  · subst h
    rw [recoveryRun_append]
    exact steady.run.restart_run hstored hrestart
  · have hsplit : events = (before ++ [e]) ++ after := by simp [h]
    subst hsplit
    have hbefore := steady.no_retries spares.append.1.append.1 hnone
    have hfirst : retries sv slug conversationID db (before ++ [e]) = 0 := by
      rw [retries_append, hbefore, retries, retries, steady.run.unpaid hnone]
    have hrun := (steady.run.offered_run spares.append.2 hsome).2
    rw [retries_append, hfirst]
    omega

/-! ## A session that fails and is retried -/

def sampleRecoverySession : HostedGenesisSession :=
  { sampleSession with
    PK := HostedGenesisSessionPK "slug"
    SK := HostedGenesisSessionSK "conversation"
    InstanceSlug := "slug"
    RegistrationID := "registration"
    AgentID := "agent"
    ConversationID := "conversation"
    Status := StatusInProgress
    Model := "model"
    LatestTurnID := sampleTurnID
    DeclarationCandidate := some (sampleBinding.candidate sampleServices.lib sampleTime)
    CandidateHash := (sampleBinding.candidate sampleServices.lib sampleTime).CandidateHash
    CandidatePhase := "section" }

def sampleRecoveryConversation : SoulAgentMintConversation where
  PK := "SOUL#AGENT#agent"
  SK := "MINT_CONVERSATION#conversation"
  GSI4PK := ""
  GSI4SK := ""
  AgentID := "agent"
  ConversationID := "conversation"
  Model := "model"
  Messages := ""
  ProducedDeclarations := ""
  Status := StatusInProgress
  StatusReason := ""
  LatestTurnID := sampleTurnID
  RequestID := ""
  CorrelationID := ""
  IdempotencyKey := ""
  Usage := ⟨"", "", 0, 0, 0, 0, 0⟩
  CreatedAt := ⟨1, .utc⟩
  UpdatedAt := ⟨1, .utc⟩
  CompletedAt := ⟨0, .utc⟩

def sampleRecoveryDB : DB where
  sessions key := if key = sessionKey "slug" "conversation" then some sampleRecoverySession else none
  conversations key :=
    if key = ("SOUL#AGENT#agent", "MINT_CONVERSATION#conversation") then some sampleRecoveryConversation
    else none
  idempotency _ := none

/-- A failure that offers the same step again. -/
def sampleFailure (code : String) (maxAttempts : Int) : CompletionFailure where
  Code := code
  Class := ""
  Message := ""
  Retryable := true
  Recovery := ⟨RecoveryActionRetrySameStep, maxAttempts, 0, ""⟩

def sampleRecorded (code : String) (maxAttempts : Int) : RecoveryEvent :=
  .recordFailure ⟨2, .utc⟩ sampleTurnID "request" (sampleFailure code maxAttempts) false

def sampleRetry : RecoveryEvent :=
  .retryMicroVM ⟨⟨3, .utc⟩, "request", .ok sampleTurnID, true, .ok (), false⟩

/-- The failure that a retry has brought back is recorded again, and asks for more. -/
theorem recovery_budget_retried :
    BudgetKept sampleServices "slug" "conversation" sampleRecoveryDB
      [sampleRecorded FailureCodeMicroVMUnavailable 1, sampleRetry,
        sampleRecorded FailureCodeMicroVMUnavailable 3] :=
  recovery_budget sampleServices "slug" "conversation" sampleRecoveryDB _ rfl rfl rfl
    ⟨fun _ _ _ _ _ _ hcode => absurd hcode (by decide), trivial,
      fun _ _ _ _ _ _ hcode => absurd hcode (by decide), trivial⟩

/-- The first failure leaves one attempt, the retry takes it, and the assistant turn that fails after it
offers three. -/
theorem not_recovery_budget :
    ¬ BudgetKept sampleServices "slug" "conversation" sampleRecoveryDB
      [sampleRecorded FailureCodeMicroVMUnavailable 1, sampleRetry,
        sampleRecorded FailureCodeAssistantTurnFailed 3] := by
  intro kept
  have hfirst := kept.never_grows [sampleRecorded FailureCodeMicroVMUnavailable 1]
    [sampleRetry, sampleRecorded FailureCodeAssistantTurnFailed 3] rfl
  revert hfirst
  decide +kernel

end LesserHost.HostedGenesis
