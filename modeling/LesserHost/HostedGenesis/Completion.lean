import LesserHost.HostedGenesis.SessionStore

set_option autoImplicit false

/-! # Failures and their retries

`completion/completion.go` records what the workload reports, and the retries of
`handlers_soul_mint_conversation_recover.go` take a failed session back to work. Both read the session,
compute the next row and write it under the version they have read.

Of a retry the part up to its write is here. What it is told on the way, by the messages of the
conversation and by the runtime that is prepared, comes with the call. -/

namespace LesserHost.HostedGenesis

open LesserHost.Go

/-! ## Codes -/

def FailureCodeLLMUnavailable : String := "llm_unavailable"
def FailureCodeAssistantTurnFailed : String := "assistant_turn_failed"
def FailureCodeMissingProducedDeclarations : String := "missing_produced_declarations"
def FailureCodeInvalidProducedDeclarations : String := "invalid_produced_declarations"
def FailureCodeTenantBoundaryViolation : String := "tenant_boundary_violation"
def FailureCodeOperatorActionRequired : String := "operator_action_required"
def FailureCodeMicroVMUnavailable : String := "microvm_unavailable"

def RecoveryActionRetrySameStep : String := "retry_same_step"
def RecoveryActionRestartSoulBootstrap : String := "restart_soul_bootstrap"

def FailureMessage (code : String) : String :=
  if code = FailureCodeLLMUnavailable then "Assistant declaration phase could not start."
  else if code = FailureCodeAssistantTurnFailed then "Assistant declaration phase failed."
  else if code = FailureCodeMissingProducedDeclarations then "Produced declarations are missing."
  else if code = FailureCodeInvalidProducedDeclarations then "Produced declarations are invalid."
  else if code = FailureCodeTenantBoundaryViolation then
    "Conversation failed instance boundary validation."
  else if code = FailureCodeOperatorActionRequired then "Operator action is required."
  else if code = FailureCodeMicroVMUnavailable then "MicroVM execution dispatch is unavailable."
  else "Conversation cannot be completed from the current state."

def declarationValidationCodes : List String :=
  ["declarations.invalid", "self_description.invalid", "capabilities.required", "capabilities.invalid",
    "capabilities.too_many", "capabilities.capability.invalid", "capabilities.scope.invalid",
    "capabilities.claim_level.invalid", "capabilities.last_validated.invalid",
    "capabilities.validation_ref.invalid", "capabilities.degrades_to.invalid", "boundaries.required",
    "boundaries.invalid", "transparency.required", "five_body.identity.required",
    "five_body.philosophy.required", "five_body.discipline.required", "five_body.boundaries.required",
    "five_body.soul.required", "soul.refusals.required", "soul.refusals.invalid",
    "adversarial_review.required"]

def IsDeclarationValidationCode (reason : String) : Bool :=
  declarationValidationCodes.contains (TrimSpace reason)

def SanitizeFailureReason (code reason : String) : String :=
  let reason := TrimSpace reason
  if code = FailureCodeInvalidProducedDeclarations ∧ IsDeclarationValidationCode reason then reason
  else code

/-! ## The budget -/

def isBoundedRecoveryFailure (code : String) : Bool :=
  code == FailureCodeAssistantTurnFailed || code == FailureCodeMicroVMUnavailable

/-- The failure that offers nothing but a new bootstrap. -/
def Failure.exhausted (next : Failure) : Failure :=
  { next with
    Retryable := false
    Recovery := { next.Recovery with
      Action := RecoveryActionRestartSoulBootstrap
      MaxAttempts := 0
      RetryAfterSeconds := 0 } }

def Failure.capped (next : Failure) (maxAttempts : Int) : Failure :=
  if maxAttempts < next.Recovery.MaxAttempts then
    { next with Recovery := { next.Recovery with MaxAttempts := maxAttempts } }
  else next

def applyPriorRecoveryBudget (next : Failure) : Option Failure → Failure
  | none => next
  | some prior =>
      if isBoundedRecoveryFailure next.Code = false ∨ isBoundedRecoveryFailure prior.Code = false ∨
          (next.Code ≠ prior.Code ∧ next.Code ≠ FailureCodeMicroVMUnavailable) then next
      else if prior.Recovery.Action = RecoveryActionRestartSoulBootstrap then next.exhausted
      else if prior.Recovery.Action = RecoveryActionRetrySameStep then
        let next := next.capped prior.Recovery.MaxAttempts
        if next.Recovery.MaxAttempts ≤ 0 then next.exhausted else next
      else next

/-- `hostedGenesisRetryCarryForward`. -/
def hostedGenesisRetryCarryForward (failure : Failure) : Failure :=
  let attempts := max (failure.Recovery.MaxAttempts - 1) 0
  { failure with
    Retryable := if attempts = 0 then false else failure.Retryable
    Recovery := { failure.Recovery with MaxAttempts := attempts } }

/-! ## Recording a failure -/

structure CompletionTurn where
  InstanceSlug : String
  ConversationID : String
  TurnID : String
  RequestID : String

/-- The sentinel with what it wraps. -/
inductive CompletionError where
  | invalidTurn
  | invalidFailure (text : String)
  | conflict (detail : String)
  | refused (cause : StoreError)
  | sessionMissing (cause : StoreError)
  | conversationMissing
  deriving DecidableEq

def CompletionTurn.Validate (t : CompletionTurn) : Except CompletionError Unit :=
  if TrimSpace t.InstanceSlug = "" ∨ TrimSpace t.ConversationID = "" ∨ TrimSpace t.TurnID = "" then
    .error .invalidTurn
  else .ok ()

structure CompletionFailure where
  Code : String
  Class : String
  Message : String
  Retryable : Bool
  Recovery : Recovery

/-- What the failure becomes before the budget is applied: its message and its reason are Host's. -/
def CompletionFailure.envelope (failure : CompletionFailure) : Failure where
  Code := failure.Code
  Class := failure.Class
  Message := FailureMessage failure.Code
  Retryable := failure.Retryable
  Recovery := { failure.Recovery with
    Reason := SanitizeFailureReason failure.Code failure.Recovery.Reason }

def completionFailureStatusTerminal (status : String) : Bool :=
  status == StatusFailed || status == StatusDeclarationReady || status == StatusPublished

def assertTurnMatch (quote : String → String) (session : HostedGenesisSession) (turn : CompletionTurn)
    (expectedStatus : String) : Except CompletionError Unit :=
  let latest := TrimSpace session.LatestTurnID
  let sessionTurn := if latest = "" then
    (session.TurnLedger.getLast?.map fun entry => TrimSpace entry.TurnID).getD latest else latest
  if sessionTurn ≠ TrimSpace turn.TurnID then
    .error (.conflict ("session turn " ++ quote sessionTurn ++ " does not match completion turn "
      ++ quote turn.TurnID))
  else if NormalizeStatus session.Status ≠ expectedStatus then
    .error (.conflict ("session status " ++ quote session.Status ++ " does not match expected "
      ++ quote expectedStatus))
  else .ok ()

section Writer

variable (sv : Services)

def GetSoulAgentMintConversation (db : DB) (agentID conversationID : String) :
    Option SoulAgentMintConversation :=
  db.conversations ("SOUL#AGENT#" ++ ToLower (TrimSpace agentID),
    "MINT_CONVERSATION#" ++ TrimSpace conversationID)

/-- The row of the failed session. -/
def HostedGenesisSession.progressedFailure (session : HostedGenesisSession)
    (f : HostedGenesis.Failure) (requestID : String) (now : Time) : HostedGenesisSession :=
  { session with
    Status := StatusFailed
    Failure := some f
    RequestID := TrimSpace requestID
    UpdatedAt := now
    CompletedAt := now }

def RecordFailure (now : Time) (turn : CompletionTurn) (failure : CompletionFailure) (refused : Bool)
    (db : DB) : Except CompletionError (HostedGenesisSession × DB) := do
  turn.Validate
  let f := failure.envelope
  f.Validate.mapError .invalidFailure
  let session ←
    (GetHostedGenesisSession sv db turn.InstanceSlug turn.ConversationID).mapError .sessionMissing
  let expectedStatus := NormalizeStatus session.Status
  if completionFailureStatusTerminal expectedStatus then
    .error (.conflict ("session is already terminal (" ++ sv.Quote session.Status ++ ")"))
  else do
    assertTurnMatch sv.Quote session turn expectedStatus
    let f := applyPriorRecoveryBudget f session.Failure
    f.Validate.mapError .invalidFailure
    match GetSoulAgentMintConversation db session.AgentID session.ConversationID with
    | none => .error .conversationMissing
    | some conversation =>
      if EqualFold (TrimSpace conversation.AgentID) (TrimSpace session.AgentID) = false ∨
          TrimSpace conversation.ConversationID ≠ TrimSpace session.ConversationID then
        .error (.conflict "conversation identity does not match session")
      else do
        let progressed := session.progressedFailure f turn.RequestID now
        let failedConversation : SoulAgentMintConversation := { conversation with
          Status := StatusFailed
          StatusReason := f.Recovery.Reason
          LatestTurnID := TrimSpace turn.TurnID
          RequestID := TrimSpace turn.RequestID
          UpdatedAt := now
          CompletedAt := now }
        let db ← (Commit.run sv ⟨.fail failedConversation, now, progressed, session.Version,
          expectedStatus, refused⟩ db).mapError .refused
        return (progressed, db)

/-! ## Which failures may be retried -/

def hostedGenesisSessionHasBoundTypedCandidate (session : HostedGenesisSession) : Bool :=
  match session.DeclarationCandidate with
  | none => false
  | some candidate =>
      (candidate.Validate sv.lib).isOk &&
        candidate.InstanceSlug == ToLower (TrimSpace session.InstanceSlug) &&
        candidate.RegistrationID == TrimSpace session.RegistrationID &&
        EqualFold candidate.AgentID session.AgentID &&
        candidate.ConversationID == TrimSpace session.ConversationID &&
        candidate.SourceTurnID == TrimSpace session.LatestTurnID &&
        EqualFold (CanonicalModelSet candidate.Model) (CanonicalModelSet session.Model) &&
        candidate.Revision == session.CandidateRevision &&
        candidate.CandidateHash == TrimSpace session.CandidateHash &&
        candidate.Phase.text == TrimSpace session.CandidatePhase

/-- `hostedGenesisSessionHasAssistantTurnRetryFailure` and
`hostedGenesisSessionHasMicroVMUnavailableRetryFailure`: the failure of a failed session with a
candidate, if it has this code and asks for the same step. -/
def retryFailure (session : HostedGenesisSession) (code : String) : Option Failure :=
  if hostedGenesisSessionHasBoundTypedCandidate sv session = false ∨
      NormalizeStatus session.Status ≠ StatusFailed then none
  else session.Failure.filter fun failure =>
    failure.Code == code && failure.Recovery.Action == RecoveryActionRetrySameStep

def hostedGenesisSessionCanRetryAssistantTurn (session : HostedGenesisSession) : Bool :=
  (retryFailure sv session FailureCodeAssistantTurnFailed).any fun failure =>
    failure.Retryable && decide (0 < failure.Recovery.MaxAttempts)

def hostedGenesisAssistantTurnRetriesExhausted (session : HostedGenesisSession) : Bool :=
  (retryFailure sv session FailureCodeAssistantTurnFailed).any fun failure =>
    !failure.Retryable || decide (failure.Recovery.MaxAttempts ≤ 0)

def hostedGenesisSessionRequiresRestart (session : HostedGenesisSession) : Bool :=
  NormalizeStatus session.Status == StatusFailed && session.Failure.any fun failure =>
    !hostedGenesisSessionHasBoundTypedCandidate sv session ||
      failure.Recovery.Action == RecoveryActionRestartSoulBootstrap ||
      hostedGenesisAssistantTurnRetriesExhausted sv session

/-! ## The checkpoint of a MicroVM that is gone -/

def hostedGenesisTurnLedgerIndex (ledger : List TurnLedgerEntry) (turnID : String) : Option Nat :=
  let turnID := TrimSpace turnID
  if turnID = "" then none
  else ledger.findIdx? fun entry => TrimSpace (entry.Normalize sv.sha256).TurnID == turnID

def validateHostedGenesisMicroVMRecoveryTurns (session : HostedGenesisSession)
    (checkpoint : VMCheckpointMetadata) : Except String Unit :=
  let currentTurnID := TrimSpace session.LatestTurnID
  if currentTurnID = "" then .error "missing current turn"
  else match ValidateTurnLedger sv.sha256 session.TurnLedger with
  | .error err => .error ("invalid durable turn ledger: " ++ err.text)
  | .ok () =>
    match hostedGenesisTurnLedgerIndex sv session.TurnLedger currentTurnID with
    | none => .error ("current turn " ++ sv.Quote currentTurnID ++ " is not the latest durable turn")
    | some current =>
      if current + 1 ≠ session.TurnLedger.length then
        .error ("current turn " ++ sv.Quote currentTurnID ++ " is not the latest durable turn")
      else match hostedGenesisTurnLedgerIndex sv session.TurnLedger checkpoint.LatestTurnID with
      | none => .error ("checkpoint turn " ++ sv.Quote checkpoint.LatestTurnID
          ++ " is not in the durable turn ledger")
      | some index =>
        if current ≤ index then
          .error ("checkpoint turn " ++ sv.Quote checkpoint.LatestTurnID
            ++ " is not prior to current turn " ++ sv.Quote currentTurnID)
        else
          let expectedInputRef := CheckpointRef sv.sha256 "input" [session.ConversationID, currentTurnID]
          let entryRef := session.TurnLedger[current]?.map fun entry =>
            (entry.Normalize sv.sha256).InputCheckpointRef
          if NormalizeCheckpointRef sv.sha256 session.InputCheckpointRef ≠ expectedInputRef ∨
              entryRef ≠ some expectedInputRef then
            .error "current turn input checkpoint does not match the durable conversation binding"
          else .ok ()

def firstNonEmpty (values : List String) : String :=
  ((values.map TrimSpace).find? fun value => value ≠ "").getD ""

def validateHostedGenesisMicroVMRecoveryActorCheckpoint (session : HostedGenesisSession)
    (checkpoint : VMCheckpointMetadata) : Except String Unit := do
  let step := firstNonEmpty [checkpoint.Step, checkpoint.Action, "step"]
  let expectedRef := CheckpointRef sv.sha256 "vm-actor" [session.ConversationID,
    step ++ "-" ++ Itoa checkpoint.Sequence ++ "-" ++ checkpoint.LatestTurnID]
  if TrimSpace checkpoint.Ref ≠ expectedRef then
    .error "checkpoint ref does not match the durable conversation binding"
  else if NormalizeStatus checkpoint.StatusTo ≠ StatusAssistantTurnReady then
    .error "checkpoint does not represent a completed assistant actor step"
  else do
    ValidateTransition sv.Quote checkpoint.StatusFrom checkpoint.StatusTo
    if session.Version < checkpoint.Sequence then
      .error ("checkpoint sequence " ++ Itoa checkpoint.Sequence ++ " is ahead of session version "
        ++ Itoa session.Version)
    else .ok ()

/-- `validateHostedGenesisMicroVMRecoveryCheckpointForRetry`: without a checkpoint there is nothing to
check. -/
def validateHostedGenesisMicroVMRecoveryCheckpointForRetry (session : HostedGenesisSession) :
    Except String Unit :=
  match session.VMCheckpoint with
  | none => .ok ()
  | some checkpoint => do
      let checkpoint := checkpoint.Normalize sv.sha256
      (checkpoint.Validate sv.sha256).mapError fun err => "invalid vm checkpoint: " ++ err
      validateHostedGenesisMicroVMRecoveryTurns sv session checkpoint
      validateHostedGenesisMicroVMRecoveryActorCheckpoint sv session checkpoint

/-! ## Taking a session back to work -/

/-- The fields a retry sets. -/
def HostedGenesisSession.setRetry (item row : HostedGenesisSession) : HostedGenesisSession :=
  { item.set row with
    InstanceSlug := item.InstanceSlug
    RegistrationID := item.RegistrationID
    AgentID := item.AgentID
    ConversationID := item.ConversationID
    Publication := row.Publication }

/-- `addHostedGenesisSessionRecoveryRetryWrite`. -/
def addHostedGenesisSessionRecoveryRetryWrite (now : Time) (session : HostedGenesisSession)
    (expectedVersion : Int) (failureCode : String) : Except StoreError TransactItem :=
  let requirement := "hosted genesis recovery retry write requires in-progress retry"
  if NormalizeStatus session.Status ≠ StatusInProgress then .error (.invalid requirement)
  else match session.Failure with
  | none => .error (.invalid requirement)
  | some failure =>
      if failure.Code ≠ failureCode then .error (.invalid requirement)
      else do
        refuse failure.Validate
        let session ← refuse (session.BeforeUpdate sv now)
        return .updateSession (session.PK, session.SK)
          [AtVersion expectedVersion, fun row => row.Status == StatusFailed] session.setRetry

def persistHostedGenesisFailedRetryPending (failed progressed : HostedGenesisSession)
    (conv : SoulAgentMintConversation) (now : Time) (failureCode : String) (refused : Bool) (db : DB) :
    Except StoreError DB := do
  let conv := conv.UpdateKeys
  let item ← addHostedGenesisSessionRecoveryRetryWrite sv now progressed failed.Version failureCode
  TransactWrite refused [item, .updateConversation (conv.PK, conv.SK)
    [fun row => row.Status == StatusFailed]
    fun row => setGSI4 conv { row with
      Status := conv.Status
      StatusReason := ""
      LatestTurnID := conv.LatestTurnID
      RequestID := TrimSpace conv.RequestID
      UpdatedAt := now
      CompletedAt := ⟨0, .utc⟩ }] db

def HostedGenesisSession.progressedRetry (session : HostedGenesisSession) (requestID : String)
    (now : Time) : HostedGenesisSession :=
  { session with
    Status := StatusInProgress
    Failure := session.Failure.map hostedGenesisRetryCarryForward
    AssistantCheckpointRef := ""
    ExecutionStateRef := ""
    MicroVMExecutionID := ""
    MicroVMLifecycleRef := none
    DeclarationCheckpoint := none
    RequestID := TrimSpace requestID
    UpdatedAt := now
    CompletedAt := ⟨0, .utc⟩ }

def SoulAgentMintConversation.progressedRetry (conv : SoulAgentMintConversation)
    (latestTurnID requestID : String) (now : Time) : SoulAgentMintConversation :=
  { conv with
    Status := StatusInProgress
    StatusReason := ""
    LatestTurnID := latestTurnID
    RequestID := TrimSpace requestID
    UpdatedAt := now
    CompletedAt := ⟨0, .utc⟩ }

/-- A request for a retry, with what it is told on the way: the turn that the messages of the
conversation belong to, whether there is a dispatcher, and whether the runtime could be prepared. -/
structure RetryCall where
  now : Time
  RequestID : String
  turnID : Except String String
  dispatcher : Bool
  prepared : Except String Unit
  refused : Bool

def errFreshBootstrap : String := "conversation recovery requires a fresh soul bootstrap"
def errDispatchUnavailable : String := "MicroVM recovery dispatch is unavailable"
def errDispatchBinding : String := "MicroVM recovery dispatch binding is invalid"
def errRetryPersist : String := "failed to persist assistant retry"

/-- `retryHostedGenesisFailedAssistantTurn`, until the retry is written. -/
def retryHostedGenesisFailedAssistantTurn (call : RetryCall) (session : HostedGenesisSession)
    (conv : SoulAgentMintConversation) (db : DB) : Except String DB :=
  if hostedGenesisSessionCanRetryAssistantTurn sv session = false then .error errFreshBootstrap
  else do
    let turnID ← call.turnID
    if call.dispatcher = false then .error errDispatchUnavailable
    else do
      let progressed := session.progressedRetry call.RequestID call.now
      progressed.MicroVMSessionBinding.Validate.mapError fun _ => errDispatchBinding
      call.prepared
      (persistHostedGenesisFailedRetryPending sv session progressed
        (conv.progressedRetry turnID call.RequestID call.now) call.now FailureCodeAssistantTurnFailed
        call.refused db).mapError fun _ => errRetryPersist

/-- `retryHostedGenesisMicroVMUnavailable`, until the retry is written. -/
def retryHostedGenesisMicroVMUnavailable (call : RetryCall) (session : HostedGenesisSession)
    (conv : SoulAgentMintConversation) (db : DB) : Except String DB :=
  if (retryFailure sv session FailureCodeMicroVMUnavailable).any (fun failure =>
      failure.Retryable && decide (0 < failure.Recovery.MaxAttempts)) = false then
    .error errFreshBootstrap
  else do
    (validateHostedGenesisMicroVMRecoveryCheckpointForRetry sv session).mapError fun _ =>
      "conversation recovery checkpoint is unavailable"
    if call.dispatcher = false then .error errDispatchUnavailable
    else do
      let progressed := session.progressedRetry call.RequestID call.now
      progressed.MicroVMSessionBinding.Validate.mapError fun _ => errDispatchBinding
      let latestTurnID := firstNonEmpty [progressed.LatestTurnID, conv.LatestTurnID]
      (persistHostedGenesisFailedRetryPending sv session progressed
        (conv.progressedRetry latestTurnID call.RequestID call.now) call.now
        FailureCodeMicroVMUnavailable call.refused db).mapError fun _ => errRetryPersist

end Writer

end LesserHost.HostedGenesis
