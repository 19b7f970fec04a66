import LesserHost.HostedGenesis.SessionModel

set_option autoImplicit false

/-! # The store of the sessions

`internal/store/hosted_genesis_sessions.go`. Every operation checks its arguments, puts together one
transaction and lets the table decide: the items of a transaction are written together, if the
conditions of all of them hold, or not at all. Each kind of row has its own key pattern, so the table is
one map for each kind here. -/

namespace LesserHost.HostedGenesis

open LesserHost.Go

/-! ## The table -/

inductive StoreError where
  | itemNotFound
  | conditionFailed
  | unavailable
  | invalid (text : String)
  deriving DecidableEq

/-- Partition key and sort key. -/
abbrev Key := String × String

structure DB where
  sessions : Key → Option HostedGenesisSession
  conversations : Key → Option SoulAgentMintConversation
  idempotency : String → Option SoulMintConversationIdempotency

/-- An item of a transaction. A `Create` needs its key to be free, an update needs the row to exist
    (`IfExists`) and to meet the conditions. -/
inductive TransactItem where
  | createSession (item : HostedGenesisSession)
  | updateSession (key : Key) (conditions : List (HostedGenesisSession → Bool))
      (update : HostedGenesisSession → HostedGenesisSession)
  | updateConversation (key : Key) (conditions : List (SoulAgentMintConversation → Bool))
      (update : SoulAgentMintConversation → SoulAgentMintConversation)
  | updateIdempotency (key : String) (conditions : List (SoulMintConversationIdempotency → Bool))
      (update : SoulMintConversationIdempotency → SoulMintConversationIdempotency)

/-- The row exists and meets the conditions. -/
def Meets {α : Type} (row : Option α) (conditions : List (α → Bool)) : Bool :=
  row.any fun row => conditions.all fun condition => condition row

def TransactItem.holds (db : DB) : TransactItem → Bool
  | .createSession item => (db.sessions (item.PK, item.SK)).isNone
  | .updateSession key conditions _ => Meets (db.sessions key) conditions
  | .updateConversation key conditions _ => Meets (db.conversations key) conditions
  | .updateIdempotency key conditions _ => Meets (db.idempotency key) conditions

def TransactItem.write (db : DB) : TransactItem → DB
  | .createSession item =>
      { db with sessions := Function.update db.sessions (item.PK, item.SK) (some item) }
  | .updateSession key _ update =>
      { db with sessions := Function.update db.sessions key ((db.sessions key).map update) }
  | .updateConversation key _ update =>
      { db with conversations := Function.update db.conversations key ((db.conversations key).map update) }
  | .updateIdempotency key _ update =>
      { db with idempotency := Function.update db.idempotency key ((db.idempotency key).map update) }

/-- The table may refuse any transaction. -/
def TransactWrite (refused : Bool) (items : List TransactItem) (db : DB) : Except StoreError DB :=
  if refused then .error .unavailable
  else if items.all (TransactItem.holds db) then .ok (items.foldl TransactItem.write db)
  else .error .conditionFailed

def AtVersion (version : Int) (row : HostedGenesisSession) : Bool := row.Version == version

/-! ## Reading -/

section Store

variable (sv : Services)

def NormalizePersistedDeclarationCandidate :
    Option DeclarationCandidate → Except String (Option DeclarationCandidate)
  | none => .ok none
  | some candidate =>
      if candidate.Capabilities.isSome then .ok (some candidate)
      else match sv.canonicalCapabilities candidate.CanonicalJSON with
      | .notAnObject => .error "declaration candidate canonical payload is invalid"
      | .missing => .error "declaration candidate canonical capabilities array is missing"
      | .notAnEmptyArray => .error "declaration candidate canonical capabilities must be an empty array"
      | .emptyArray =>
          if candidate.CandidateHash ≠ hashBytes sv.lib candidate.CanonicalJSON then
            .error "declaration candidate canonical hash mismatch"
          else
            let normalized := { candidate with Capabilities := some [] }
            match normalized.Validate sv.lib with
            | .error err => .error ("declaration candidate persisted normalization: " ++ err.text)
            | .ok () => .ok (some normalized)

def sessionKey (instanceSlug conversationID : String) : Key :=
  (HostedGenesisSessionPK instanceSlug, HostedGenesisSessionSK conversationID)

def GetHostedGenesisSession (db : DB) (instanceSlug conversationID : String) :
    Except StoreError HostedGenesisSession :=
  let instanceSlug := TrimSpace instanceSlug
  let conversationID := TrimSpace conversationID
  if instanceSlug = "" ∨ conversationID = "" then .error .itemNotFound
  else match db.sessions (sessionKey instanceSlug conversationID) with
  | none => .error .itemNotFound
  | some item =>
      match NormalizePersistedDeclarationCandidate sv item.DeclarationCandidate with
      | .error err => .error (.invalid ("normalize hosted genesis declaration candidate: " ++ err))
      | .ok candidate => .ok { item with DeclarationCandidate := candidate }

/-! ## The pieces of the transactions -/

/-- An error of a check. -/
def refuse {α : Type} (x : Except String α) : Except StoreError α := x.mapError .invalid

def validateHostedGenesisSessionUpdate (now : Time) (item : HostedGenesisSession)
    (expectedVersion : Int) (expectedStatus : String) :
    Except StoreError (HostedGenesisSession × String) :=
  if expectedVersion < 0 then .error (.invalid "expected version must be non-negative")
  else
    let expectedStatus := NormalizeStatus expectedStatus
    if !IsAllowedStatus expectedStatus then .error (.invalid ErrInvalidStatusTransition)
    else do
      let item ← refuse (item.BeforeUpdate sv now)
      refuse (ValidateTransition sv.Quote expectedStatus item.Status)
      return (item, expectedStatus)

/-- The fields a guarded update sets. -/
def HostedGenesisSession.set (item row : HostedGenesisSession) : HostedGenesisSession :=
  { row with
    Status := item.Status
    Model := item.Model
    LatestTurnID := item.LatestTurnID
    MessageCount := item.MessageCount
    TurnLedger := item.TurnLedger
    InputCheckpointRef := item.InputCheckpointRef
    AssistantCheckpointRef := item.AssistantCheckpointRef
    ExecutionStateRef := item.ExecutionStateRef
    MicroVMExecutionID := item.MicroVMExecutionID
    MicroVMLifecycleRef := item.MicroVMLifecycleRef
    DeclarationCheckpoint := item.DeclarationCheckpoint
    DeclarationCandidate := item.DeclarationCandidate
    CandidateRevision := item.CandidateRevision
    CandidateHash := item.CandidateHash
    CandidatePhase := item.CandidatePhase
    Publication := item.Publication
    Failure := item.Failure
    TraceIDs := item.TraceIDs
    VMCheckpoint := item.VMCheckpoint
    RequestID := item.RequestID
    UpdatedAt := item.UpdatedAt
    CompletedAt := item.CompletedAt
    Version := row.Version + 1 }

def addHostedGenesisSessionUpdate (item : HostedGenesisSession) (expectedVersion : Int)
    (expectedStatus : String) (extraConditions : List (HostedGenesisSession → Bool)) : TransactItem :=
  .updateSession (item.PK, item.SK)
    ([AtVersion expectedVersion, fun row => row.Status == expectedStatus] ++ extraConditions) item.set

/-- The fields a failure sets. -/
def HostedGenesisSession.setFailure (item row : HostedGenesisSession) : HostedGenesisSession :=
  { row with
    Status := item.Status
    Failure := item.Failure
    RequestID := item.RequestID
    UpdatedAt := item.UpdatedAt
    CompletedAt := item.CompletedAt
    Version := row.Version + 1 }

def addHostedGenesisSessionFailureUpdate (item : HostedGenesisSession) (expectedVersion : Int)
    (expectedStatus : String) (extraConditions : List (HostedGenesisSession → Bool)) : TransactItem :=
  .updateSession (item.PK, item.SK)
    ([AtVersion expectedVersion, fun row => row.Status == expectedStatus] ++ extraConditions)
    item.setFailure

def addHostedGenesisConversationProjectionUpdate (conversation : SoulAgentMintConversation)
    (expectedStatus expectedTurnID : String) (includeMessages includeDeclarations : Bool) :
    TransactItem :=
  .updateConversation (conversation.PK, conversation.SK)
    [fun row => row.Status == expectedStatus, fun row => row.LatestTurnID == expectedTurnID]
    fun row => { row with
      Messages := if includeMessages then conversation.Messages else row.Messages
      ProducedDeclarations :=
        if includeDeclarations then conversation.ProducedDeclarations else row.ProducedDeclarations
      Usage := conversation.Usage
      Status := conversation.Status
      StatusReason := conversation.StatusReason
      LatestTurnID := conversation.LatestTurnID
      RequestID := conversation.RequestID
      UpdatedAt := conversation.UpdatedAt
      CompletedAt := conversation.CompletedAt }

/-- The keys of the index are written if they are known. -/
def setGSI4 (conversation row : SoulAgentMintConversation) : SoulAgentMintConversation :=
  if conversation.GSI4PK ≠ "" ∧ conversation.GSI4SK ≠ "" then
    { row with GSI4PK := conversation.GSI4PK, GSI4SK := conversation.GSI4SK }
  else row

def transactHostedGenesisCandidateProjection (session : HostedGenesisSession) (expectedVersion : Int)
    (expectedStatus expectedTurnID : String) (expectedRevision : Int) (expectedHash : String)
    (expectedPhase : DeclarationCandidatePhase) (conversation : SoulAgentMintConversation)
    (includeMessages includeDeclarations : Bool) : List TransactItem :=
  [addHostedGenesisSessionUpdate session expectedVersion expectedStatus
      [fun row => row.LatestTurnID == expectedTurnID, fun row => row.CandidateRevision == expectedRevision,
        fun row => row.CandidateHash == expectedHash, fun row => row.CandidatePhase == expectedPhase.text],
    addHostedGenesisConversationProjectionUpdate conversation expectedStatus expectedTurnID
      includeMessages includeDeclarations]

/-! ## The operations -/

def CreateHostedGenesisSession (now : Time) (item : HostedGenesisSession) :
    Except StoreError (List TransactItem) := do
  let item ← refuse (item.BeforeCreate sv now)
  return [.createSession item]

def UpdateHostedGenesisSession (now : Time) (item : HostedGenesisSession) (expectedVersion : Int)
    (expectedStatus : String) : Except StoreError (List TransactItem) := do
  let (item, expectedStatus) ←
    validateHostedGenesisSessionUpdate sv now item expectedVersion expectedStatus
  return [addHostedGenesisSessionUpdate item expectedVersion expectedStatus []]

def CheckpointHostedGenesisCandidate (now : Time) (item : HostedGenesisSession) (expectedVersion : Int)
    (expectedStatus expectedTurnID : String) (expectedCandidateRevision : Int)
    (expectedCandidateHash : String) : Except StoreError (List TransactItem) :=
  if item.DeclarationCandidate.isNone then .error .itemNotFound
  else
    let expectedTurnID := TrimSpace expectedTurnID
    let expectedCandidateHash := TrimSpace expectedCandidateHash
    if expectedTurnID = "" ∨ expectedCandidateRevision < 0 ∨ expectedCandidateHash = "" ∨
        TrimSpace item.LatestTurnID ≠ expectedTurnID then
      .error (.invalid "hosted genesis candidate checkpoint guard is invalid")
    else do
      let (item, expectedStatus) ←
        validateHostedGenesisSessionUpdate sv now item expectedVersion expectedStatus
      return [addHostedGenesisSessionUpdate item expectedVersion expectedStatus
        [fun row => row.LatestTurnID == expectedTurnID,
          fun row => row.CandidateRevision == expectedCandidateRevision,
          fun row => row.CandidateHash == expectedCandidateHash]]

def hostedGenesisAssistantCandidateGuardValid (session : HostedGenesisSession)
    (candidate : DeclarationCandidate) (expectedTurnID : String) (expectedRevision : Int)
    (expectedHash : String) : Bool :=
  NormalizeStatus session.Status == StatusAssistantTurnReady && expectedTurnID != "" &&
    TrimSpace session.LatestTurnID == expectedTurnID && expectedRevision == candidate.Revision &&
    expectedHash == candidate.CandidateHash && session.CandidateRevision == candidate.Revision &&
    session.CandidateHash == candidate.CandidateHash && session.CandidatePhase == candidate.Phase.text

def hostedGenesisAssistantProjectionValid (session : HostedGenesisSession)
    (conversation : SoulAgentMintConversation) (expectedTurnID : String) : Bool :=
  EqualFold (TrimSpace session.AgentID) (TrimSpace conversation.AgentID) &&
    TrimSpace session.ConversationID == TrimSpace conversation.ConversationID &&
    TrimSpace conversation.LatestTurnID == expectedTurnID &&
    TrimSpace conversation.Status == StatusAssistantTurnReady

def RecordHostedGenesisAssistantTurnAndConversation (now : Time) (session : HostedGenesisSession)
    (expectedVersion : Int) (expectedStatus expectedTurnID : String) (expectedCandidateRevision : Int)
    (expectedCandidateHash : String) (conversation : SoulAgentMintConversation) :
    Except StoreError (List TransactItem) :=
  match session.DeclarationCandidate with
  | none => .error .itemNotFound
  | some candidate =>
      let expectedTurnID := TrimSpace expectedTurnID
      let expectedCandidateHash := TrimSpace expectedCandidateHash
      if !hostedGenesisAssistantCandidateGuardValid session candidate expectedTurnID
          expectedCandidateRevision expectedCandidateHash then
        .error (.invalid "hosted genesis assistant candidate guard is invalid")
      else if !hostedGenesisAssistantProjectionValid session conversation expectedTurnID then
        .error (.invalid "hosted genesis assistant projection is invalid")
      else do
        let (session, expectedStatus) ←
          validateHostedGenesisSessionUpdate sv now session expectedVersion expectedStatus
        let conversation ← refuse conversation.BeforeUpdate
        return transactHostedGenesisCandidateProjection session expectedVersion expectedStatus
          expectedTurnID expectedCandidateRevision expectedCandidateHash candidate.Phase conversation
          true false

def hostedGenesisFinalizationCandidateGuardValid (session : HostedGenesisSession)
    (candidate : DeclarationCandidate) (expectedTurnID : String) (expectedRevision : Int)
    (expectedHash : String) : Bool :=
  candidate.Phase == .finalized && session.CandidateRevision == candidate.Revision &&
    session.CandidateHash == candidate.CandidateHash && expectedTurnID != "" &&
    TrimSpace session.LatestTurnID == expectedTurnID && expectedRevision == candidate.Revision &&
    expectedHash == candidate.CandidateHash

def hostedGenesisFinalizationCheckpointValid (session : HostedGenesisSession)
    (candidate : DeclarationCandidate) : Bool :=
  NormalizeStatus session.Status == StatusDeclarationReady &&
    session.DeclarationCheckpoint.any fun checkpoint =>
      TrimSpace checkpoint.DeclarationHash == candidate.CandidateHash

def hostedGenesisFinalizationProjectionValid (session : HostedGenesisSession)
    (candidate : DeclarationCandidate) (conversation : SoulAgentMintConversation)
    (expectedTurnID : String) : Bool :=
  EqualFold (TrimSpace session.AgentID) (TrimSpace conversation.AgentID) &&
    TrimSpace session.ConversationID == TrimSpace conversation.ConversationID &&
    TrimSpace conversation.LatestTurnID == expectedTurnID &&
    trimBytes (DecodeSoulMintConversationBlob conversation.ProducedDeclarations)
      == candidate.CanonicalJSON &&
    TrimSpace conversation.Status == StatusDeclarationReady

def FinalizeHostedGenesisCandidateAndConversation (now : Time) (session : HostedGenesisSession)
    (expectedVersion : Int) (expectedStatus expectedTurnID : String) (expectedCandidateRevision : Int)
    (expectedCandidateHash : String) (conversation : SoulAgentMintConversation) :
    Except StoreError (List TransactItem) :=
  match session.DeclarationCandidate with
  | none => .error .itemNotFound
  | some candidate =>
      let expectedTurnID := TrimSpace expectedTurnID
      let expectedCandidateHash := TrimSpace expectedCandidateHash
      if !hostedGenesisFinalizationCandidateGuardValid session candidate expectedTurnID
          expectedCandidateRevision expectedCandidateHash then
        .error (.invalid "hosted genesis candidate finalization guard is invalid")
      else if !hostedGenesisFinalizationCheckpointValid session candidate then
        .error (.invalid "hosted genesis candidate finalization checkpoint is invalid")
      else if !hostedGenesisFinalizationProjectionValid session candidate conversation expectedTurnID then
        .error (.invalid "hosted genesis candidate finalization projection is invalid")
      else do
        let (session, expectedStatus) ←
          validateHostedGenesisSessionUpdate sv now session expectedVersion expectedStatus
        let conversation ← refuse conversation.BeforeUpdate
        return transactHostedGenesisCandidateProjection session expectedVersion expectedStatus
          expectedTurnID expectedCandidateRevision expectedCandidateHash .affirmed conversation false true

/-- Only the fields a failure sets are checked. -/
def validateHostedGenesisFailureUpdate (item : HostedGenesisSession) (expectedVersion : Int)
    (expectedStatus : String) : Except StoreError String :=
  if expectedVersion < 0 then .error (.invalid "expected version must be non-negative")
  else
    let expectedStatus := NormalizeStatus expectedStatus
    if !IsAllowedStatus expectedStatus then .error (.invalid ErrInvalidStatusTransition)
    else match item.Failure with
    | none => .error (.invalid "hosted genesis failure update requires bounded failed state")
    | some failure =>
        if NormalizeStatus item.Status ≠ StatusFailed then
          .error (.invalid "hosted genesis failure update requires bounded failed state")
        else do
          refuse failure.Validate
          refuse (ValidateTransition sv.Quote expectedStatus StatusFailed)
          if TrimSpace item.InstanceSlug = "" ∨ TrimSpace item.RegistrationID = "" ∨
              TrimSpace item.AgentID = "" ∨ TrimSpace item.ConversationID = "" then
            .error (.invalid "hosted genesis failure update identity is incomplete")
          else if item.PK ≠ HostedGenesisSessionPK item.InstanceSlug ∨
              item.SK ≠ HostedGenesisSessionSK item.ConversationID then
            .error (.invalid "hosted genesis failure update keys do not match session identity")
          else return expectedStatus

/-- The reservation of the turn that has failed, if it has a key. -/
def hostedGenesisFailureIdempotency (session : HostedGenesisSession) :
    Except StoreError (Option SoulMintConversationIdempotency) :=
  match session.TraceIDs with
  | none => .ok none
  | some traceIDs =>
      let idempotencyKey := TrimSpace traceIDs.IdempotencyKey
      if idempotencyKey = "" then .ok none
      else
        let latestTurnID := TrimSpace session.LatestTurnID
        let entries := session.TurnLedger.map (·.Normalize sv.sha256)
        match entries.reverse.find? fun entry =>
            entry.TurnID == latestTurnID && entry.IdempotencyKey == idempotencyKey with
        | none => .error (.invalid
            "hosted genesis failure idempotency binding is absent from the accepted turn ledger")
        | some accepted =>
            let item : SoulMintConversationIdempotency :=
              { PK := ""
                InstanceSlug := session.InstanceSlug
                RegistrationID := session.RegistrationID
                AgentID := session.AgentID
                ConversationID := session.ConversationID
                TurnID := accepted.TurnID
                IdempotencyKey := accepted.IdempotencyKey
                RequestHash := accepted.RequestHash
                RequestID := session.RequestID
                CorrelationID := ""
                Status := SoulMintConversationIdempotencyStatusFailed
                CreatedAt := ⟨0, .utc⟩
                UpdatedAt := session.UpdatedAt.UTC }
            .ok (some (item.UpdateKeys sv.sha256))

/-- The reservation of exactly this turn, still processing or already failed. -/
def failIdempotency (idempotency : SoulMintConversationIdempotency) : TransactItem :=
  .updateIdempotency idempotency.PK
    [fun row => row.Status == SoulMintConversationIdempotencyStatusProcessing ||
        row.Status == SoulMintConversationIdempotencyStatusFailed,
      fun row => row.RegistrationID == idempotency.RegistrationID,
      fun row => row.AgentID == idempotency.AgentID,
      fun row => row.ConversationID == idempotency.ConversationID,
      fun row => row.TurnID == idempotency.TurnID,
      fun row => row.IdempotencyKey == idempotency.IdempotencyKey,
      fun row => row.RequestHash == idempotency.RequestHash]
    fun row => { row with
      Status := SoulMintConversationIdempotencyStatusFailed
      RequestID := idempotency.RequestID
      UpdatedAt := idempotency.UpdatedAt }

def FailHostedGenesisSessionAndConversation (session : HostedGenesisSession) (expectedVersion : Int)
    (expectedStatus : String) (conversation : SoulAgentMintConversation) :
    Except StoreError (List TransactItem) :=
  if NormalizeStatus session.Status ≠ StatusFailed ∨ TrimSpace conversation.Status ≠ StatusFailed then
    .error (.invalid
      "hosted genesis failure transaction requires failed session and conversation states")
  else if EqualFold (TrimSpace session.AgentID) (TrimSpace conversation.AgentID) = false ∨
      TrimSpace session.ConversationID ≠ TrimSpace conversation.ConversationID then
    .error (.invalid
      "hosted genesis failure transaction requires matching session and conversation identity")
  else do
    let expectedStatus ← validateHostedGenesisFailureUpdate sv session expectedVersion expectedStatus
    let conversation ← refuse conversation.BeforeUpdate
    let idempotency ← hostedGenesisFailureIdempotency sv session
    return [addHostedGenesisSessionFailureUpdate session expectedVersion expectedStatus
          [fun row => row.LatestTurnID == TrimSpace session.LatestTurnID],
        .updateConversation (conversation.PK, conversation.SK)
          [fun row => row.Status == expectedStatus,
            fun row => row.LatestTurnID == TrimSpace conversation.LatestTurnID]
          fun row => setGSI4 conversation { row with
            Status := conversation.Status
            StatusReason := conversation.StatusReason
            LatestTurnID := conversation.LatestTurnID
            RequestID := conversation.RequestID
            UpdatedAt := conversation.UpdatedAt
            CompletedAt := conversation.CompletedAt }]
      ++ idempotency.toList.map failIdempotency

def PublishHostedGenesisSessionAndConversation (now : Time) (session : HostedGenesisSession)
    (expectedVersion : Int) (expectedStatus : String) (conversation : SoulAgentMintConversation) :
    Except StoreError (List TransactItem) :=
  if NormalizeStatus session.Status ≠ StatusPublished ∨
      TrimSpace conversation.Status ≠ StatusPublished then
    .error (.invalid
      "hosted genesis publication transaction requires published session and conversation states")
  else if EqualFold (TrimSpace session.AgentID) (TrimSpace conversation.AgentID) = false ∨
      TrimSpace session.ConversationID ≠ TrimSpace conversation.ConversationID then
    .error (.invalid
      "hosted genesis publication transaction requires matching session and conversation identity")
  else do
    let (session, expectedStatus) ←
      validateHostedGenesisSessionUpdate sv now session expectedVersion expectedStatus
    let conversation ← refuse conversation.BeforeUpdate
    return [addHostedGenesisSessionUpdate session expectedVersion expectedStatus [],
      .updateConversation (conversation.PK, conversation.SK) [fun row => row.Status == expectedStatus]
        fun row => setGSI4 conversation { row with
          Status := conversation.Status
          StatusReason := conversation.StatusReason
          RequestID := conversation.RequestID
          UpdatedAt := conversation.UpdatedAt
          CompletedAt := conversation.CompletedAt }]

/-! ## Commits -/

/-- The operations that change a session. -/
inductive SessionOp where
  | update
  | checkpoint (expectedTurnID : String) (expectedRevision : Int) (expectedHash : String)
  | recordAssistantTurn (expectedTurnID : String) (expectedRevision : Int) (expectedHash : String)
      (conversation : SoulAgentMintConversation)
  | finalize (expectedTurnID : String) (expectedRevision : Int) (expectedHash : String)
      (conversation : SoulAgentMintConversation)
  | fail (conversation : SoulAgentMintConversation)
  | publish (conversation : SoulAgentMintConversation)

/-- A call of an operation. -/
structure Commit where
  op : SessionOp
  now : Time
  item : HostedGenesisSession
  expectedVersion : Int
  expectedStatus : String
  refused : Bool

def Commit.key (c : Commit) : Key := sessionKey c.item.InstanceSlug c.item.ConversationID

def Commit.transaction (c : Commit) : Except StoreError (List TransactItem) :=
  match c.op with
  | .update => UpdateHostedGenesisSession sv c.now c.item c.expectedVersion c.expectedStatus
  | .checkpoint turn revision hash =>
      CheckpointHostedGenesisCandidate sv c.now c.item c.expectedVersion c.expectedStatus turn revision
        hash
  | .recordAssistantTurn turn revision hash conversation =>
      RecordHostedGenesisAssistantTurnAndConversation sv c.now c.item c.expectedVersion c.expectedStatus
        turn revision hash conversation
  | .finalize turn revision hash conversation =>
      FinalizeHostedGenesisCandidateAndConversation sv c.now c.item c.expectedVersion c.expectedStatus
        turn revision hash conversation
  | .fail conversation =>
      FailHostedGenesisSessionAndConversation sv c.item c.expectedVersion c.expectedStatus conversation
  | .publish conversation =>
      PublishHostedGenesisSessionAndConversation sv c.now c.item c.expectedVersion c.expectedStatus
        conversation

def Commit.run (c : Commit) (db : DB) : Except StoreError DB := do
  let items ← c.transaction sv
  TransactWrite c.refused items db

def create (now : Time) (item : HostedGenesisSession) (refused : Bool) (db : DB) :
    Except StoreError DB := do
  let items ← CreateHostedGenesisSession sv now item
  TransactWrite refused items db

end Store

end LesserHost.HostedGenesis
