import LesserHost.HostedGenesis.Session
import LesserHost.Go.Base64

set_option autoImplicit false

/-! # The rows of a session

`models/hosted_genesis_session.go` and the two rows that are written with it, the conversation and the
reservation of an idempotency key. Of a session the columns of its indexes are left out: no operation
here reads or writes them.

`BeforeCreate` and `BeforeUpdate` normalize a row and refuse it. They give back the row they have
changed. -/

namespace LesserHost.HostedGenesis

open LesserHost.Go

def requireNonEmpty (field value : String) : Except String Unit :=
  if TrimSpace value = "" then .error (field ++ " is required") else .ok ()

def requireOneOf (field value : String) (allowed : List String) : Except String Unit :=
  if allowed.any fun a => TrimSpace value == TrimSpace a then .ok () else .error (field ++ " is invalid")

def normalizeSlug (slug : String) : String := ToLower (TrimSpace slug)

/-! ## The session -/

structure HostedGenesisSession where
  PK : String
  SK : String
  Version : Int
  InstanceSlug : String
  RegistrationID : String
  AgentID : String
  ConversationID : String
  Status : String
  Model : String
  LatestTurnID : String
  MessageCount : Int
  TurnLedger : List TurnLedgerEntry
  InputCheckpointRef : String
  AssistantCheckpointRef : String
  ExecutionStateRef : String
  MicroVMExecutionID : String
  MicroVMLifecycleRef : Option MicroVMLifecycleRef
  DeclarationCheckpoint : Option DeclarationCheckpoint
  DeclarationCandidate : Option DeclarationCandidate
  CandidateRevision : Int
  CandidateHash : String
  CandidatePhase : String
  Publication : Option PublicationCheckpoint
  Failure : Option Failure
  TraceIDs : Option TraceIDs
  VMCheckpoint : Option VMCheckpointMetadata
  RequestID : String
  CreatedAt : Time
  UpdatedAt : Time
  CompletedAt : Time

def HostedGenesisSessionPK (instanceSlug : String) : String :=
  "HOSTED_GENESIS#INSTANCE#" ++ normalizeSlug instanceSlug

def HostedGenesisSessionSK (conversationID : String) : String := "SESSION#" ++ TrimSpace conversationID

def DeclarationCandidatePhase.text : DeclarationCandidatePhase → String
  | .section => "section"
  | .review => "review"
  | .affirmed => "affirmed"
  | .finalized => "finalized"

namespace HostedGenesisSession

variable (sv : Services)

def MicroVMSessionBinding (s : HostedGenesisSession) : MicroVMSessionBinding where
  InstanceSlug := normalizeSlug s.InstanceSlug
  RegistrationID := TrimSpace s.RegistrationID
  AgentID := ToLower (TrimSpace s.AgentID)
  ConversationID := TrimSpace s.ConversationID
  TurnID := TrimSpace (if s.LatestTurnID = "" then (s.TurnLedger.getLast?.map (·.TurnID)).getD ""
    else s.LatestTurnID)

def declarationCandidateBindingMatches (s : HostedGenesisSession)
    (candidate : HostedGenesis.DeclarationCandidate) : Bool :=
  candidate.InstanceSlug == s.InstanceSlug && candidate.RegistrationID == s.RegistrationID &&
    EqualFold candidate.AgentID s.AgentID && candidate.ConversationID == s.ConversationID &&
    EqualFold (CanonicalModelSet candidate.Model) (CanonicalModelSet s.Model) &&
    candidate.SourceTurnID == s.LatestTurnID

def bindDeclarationCandidate (s : HostedGenesisSession) : Except String HostedGenesisSession :=
  match s.DeclarationCandidate with
  | none =>
      if s.CandidateRevision ≠ 0 ∨ TrimSpace s.CandidateHash ≠ "" ∨ TrimSpace s.CandidatePhase ≠ "" then
        .error "declaration candidate checkpoint exists without candidate state"
      else .ok s
  | some candidate =>
      match candidate.Validate sv.lib with
      | .error err => .error ("declaration candidate: " ++ err.text)
      | .ok () =>
          if s.declarationCandidateBindingMatches candidate then
            .ok { s with
              CandidateRevision := candidate.Revision
              CandidateHash := candidate.CandidateHash
              CandidatePhase := candidate.Phase.text }
          else .error "declaration candidate binding does not match hosted genesis session"

/-- The first part of `UpdateKeys`: the texts of the row are normalized. -/
def normalize (s : HostedGenesisSession) : HostedGenesisSession :=
  { s with
    InstanceSlug := normalizeSlug s.InstanceSlug
    RegistrationID := TrimSpace s.RegistrationID
    AgentID := ToLower (TrimSpace s.AgentID)
    ConversationID := TrimSpace s.ConversationID
    Status := NormalizeStatus s.Status
    Model := TrimSpace s.Model
    LatestTurnID := TrimSpace s.LatestTurnID
    InputCheckpointRef := NormalizeCheckpointRef sv.sha256 s.InputCheckpointRef
    AssistantCheckpointRef := NormalizeCheckpointRef sv.sha256 s.AssistantCheckpointRef
    ExecutionStateRef := TrimSpace s.ExecutionStateRef
    MicroVMExecutionID := TrimSpace s.MicroVMExecutionID
    TurnLedger := s.TurnLedger.map (·.Normalize sv.sha256)
    DeclarationCheckpoint := s.DeclarationCheckpoint.map fun c =>
      { c with CheckpointRef := NormalizeCheckpointRef sv.sha256 c.CheckpointRef } }

def validateMicroVM (s : HostedGenesisSession) : Except String Unit :=
  match s.MicroVMLifecycleRef with
  | none => .ok ()
  | some ref => ref.Validate sv s.MicroVMSessionBinding

def normalizeVMCheckpoint (s : HostedGenesisSession) : Except String HostedGenesisSession :=
  match s.VMCheckpoint with
  | none => .ok s
  | some m =>
      let checkpoint := m.Normalize sv.sha256
      match checkpoint.Validate sv.sha256 with
      | .error err => .error err
      | .ok () => .ok { s with VMCheckpoint := some checkpoint }

def UpdateKeys (s : HostedGenesisSession) : Except String HostedGenesisSession := do
  let s ← bindDeclarationCandidate sv (s.normalize sv)
  s.validateMicroVM sv
  let s ← s.normalizeVMCheckpoint sv
  return { s with
    RequestID := TrimSpace s.RequestID
    PK := HostedGenesisSessionPK s.InstanceSlug
    SK := HostedGenesisSessionSK s.ConversationID }

def validateDurableStatusContract (s : HostedGenesisSession) : Except String Unit :=
  if s.Status = StatusDeclarationReady then do
    CanPublish s.Status s.RegistrationID s.ConversationID s.AgentID s.DeclarationCheckpoint
    match s.Publication with
    | none => .ok ()
    | some publication => publication.ValidatePrepared s.RegistrationID s.ConversationID s.AgentID
  else if s.Status = StatusPublished then
    if s.Failure.isSome then .error ErrInvalidPublicationCheckpoint
    else do
      CanPublish StatusDeclarationReady s.RegistrationID s.ConversationID s.AgentID
        s.DeclarationCheckpoint
      match s.Publication with
      | none => .error ErrInvalidPublicationCheckpoint
      | some publication => publication.ValidatePublished s.RegistrationID s.ConversationID s.AgentID
  else if s.Status = StatusFailed then
    match s.Failure with
    | none => .error ErrInvalidFailureRecovery
    | some failure => failure.Validate
  else .ok ()

def validateTurnLedger (s : HostedGenesisSession) : Except String Unit :=
  match s.TurnLedger.getLast? with
  | none => .ok ()
  | some last =>
      match ValidateTurnLedger sv.sha256 s.TurnLedger with
      | .error err => .error err.text
      | .ok () =>
          let last := last.Normalize sv.sha256
          if s.LatestTurnID ≠ "" ∧ s.LatestTurnID ≠ last.TurnID then .error ErrInvalidTurnLedger.text
          else if s.MessageCount < last.MessageCount then .error ErrInvalidTurnLedger.text
          else .ok ()

/-- The checks of `validateAndUpdateKeys` after the keys are set. -/
def validate (s : HostedGenesisSession) : Except String Unit := do
  requireNonEmpty "instanceSlug" s.InstanceSlug
  requireNonEmpty "registrationId" s.RegistrationID
  requireNonEmpty "agentId" s.AgentID
  requireNonEmpty "conversationId" s.ConversationID
  if !IsAllowedStatus s.Status then .error "status is invalid"
  else do
    s.validateDurableStatusContract
    s.validateTurnLedger sv

def validateAndUpdateKeys (s : HostedGenesisSession) : Except String HostedGenesisSession := do
  let s ← s.UpdateKeys sv
  s.validate sv
  return s

def BeforeCreate (now : Time) (s : HostedGenesisSession) : Except String HostedGenesisSession :=
  let s := if s.CreatedAt.IsZero then { s with CreatedAt := now } else s
  let s := if s.UpdatedAt.IsZero then { s with UpdatedAt := s.CreatedAt } else s
  let s := if TrimSpace s.Status = "" then { s with Status := StatusCreated } else s
  s.validateAndUpdateKeys sv

def BeforeUpdate (now : Time) (s : HostedGenesisSession) : Except String HostedGenesisSession :=
  validateAndUpdateKeys sv { s with UpdatedAt := now }

end HostedGenesisSession

/-! ## The conversation -/

structure AIUsage where
  Provider : String
  Model : String
  InputTokens : Int
  OutputTokens : Int
  TotalTokens : Int
  DurationMs : Int
  ToolCalls : Int
  deriving DecidableEq

def SoulMintConversationAllowedStatuses : List String :=
  ["created", "in_progress", "assistant_turn_ready", "declaration_ready", "published", "failed",
    "completed"]

structure SoulAgentMintConversation where
  PK : String
  SK : String
  GSI4PK : String
  GSI4SK : String
  AgentID : String
  ConversationID : String
  Model : String
  Messages : String
  ProducedDeclarations : String
  Status : String
  StatusReason : String
  LatestTurnID : String
  RequestID : String
  CorrelationID : String
  IdempotencyKey : String
  Usage : AIUsage
  CreatedAt : Time
  UpdatedAt : Time
  CompletedAt : Time
  deriving DecidableEq

/-- `t.UTC().Format("2006-01-02T15:04:05.000000000Z")`. -/
def soulMintConversationTimeKey (t : Time) : String :=
  String.ofList t.FormatRFC3339.toList.dropLast ++ "." ++ padDecimal 9 (t.nanos % Second).toNat ++ "Z"

namespace SoulAgentMintConversation

def updateGSI4 (m : SoulAgentMintConversation) : SoulAgentMintConversation :=
  if m.CreatedAt.IsZero then m
  else { m with
    GSI4PK := "SOUL#AGENT#" ++ ToLower (TrimSpace m.AgentID)
    GSI4SK := soulMintConversationTimeKey m.CreatedAt ++ "#" ++ TrimSpace m.ConversationID }

def UpdateKeys (m : SoulAgentMintConversation) : SoulAgentMintConversation :=
  updateGSI4 { m with
    AgentID := ToLower (TrimSpace m.AgentID)
    ConversationID := TrimSpace m.ConversationID
    Model := TrimSpace m.Model
    Messages := TrimSpace m.Messages
    ProducedDeclarations := TrimSpace m.ProducedDeclarations
    Status := ToLower (TrimSpace m.Status)
    StatusReason := TrimSpace m.StatusReason
    LatestTurnID := TrimSpace m.LatestTurnID
    RequestID := TrimSpace m.RequestID
    CorrelationID := TrimSpace m.CorrelationID
    IdempotencyKey := TrimSpace m.IdempotencyKey
    PK := "SOUL#AGENT#" ++ ToLower (TrimSpace m.AgentID)
    SK := "MINT_CONVERSATION#" ++ TrimSpace m.ConversationID }

def BeforeUpdate (m : SoulAgentMintConversation) : Except String SoulAgentMintConversation := do
  let m := m.UpdateKeys
  requireNonEmpty "agentId" m.AgentID
  requireNonEmpty "conversationId" m.ConversationID
  requireOneOf "status" m.Status SoulMintConversationAllowedStatuses
  return m

end SoulAgentMintConversation

/-- `strings.TrimSpace` of bytes. What is no text is left as it is: no canonical document is. -/
def trimBytes (b : Bytes) : Bytes :=
  match String.fromUTF8? ⟨b.toArray⟩ with
  | some text => bytes (TrimSpace text)
  | none => b

def soulMintConversationBlobPrefix : String := "b64:"

def DecodeSoulMintConversationBlob (raw : String) : Bytes :=
  let trimmed := TrimSpace raw
  if trimmed = "" ∨ HasPrefix trimmed soulMintConversationBlobPrefix = false then bytes trimmed
  else match Base64.decode (bytes (TrimPrefix trimmed soulMintConversationBlobPrefix)) with
  | some decoded => trimBytes decoded
  | none => bytes trimmed

/-! ## The reservation of an idempotency key -/

def SoulMintConversationIdempotencyStatusProcessing : String := "processing"
def SoulMintConversationIdempotencyStatusSucceeded : String := "succeeded"
def SoulMintConversationIdempotencyStatusFailed : String := "failed"

structure SoulMintConversationIdempotency where
  PK : String
  InstanceSlug : String
  RegistrationID : String
  AgentID : String
  ConversationID : String
  TurnID : String
  IdempotencyKey : String
  RequestHash : String
  RequestID : String
  CorrelationID : String
  Status : String
  CreatedAt : Time
  UpdatedAt : Time
  deriving DecidableEq

def SoulMintConversationIdempotencyPK (sha256 : Sha256)
    (instanceSlug registrationID idempotencyKey : String) : String :=
  let scope := ToLower (TrimSpace instanceSlug) ++ "#" ++ TrimSpace registrationID ++ "#" ++
    TrimSpace idempotencyKey
  "SOUL#MINT_CONVERSATION#IDEMPOTENCY#" ++ String.ofList (hexEncode (sha256 (bytes scope)).toList)

def SoulMintConversationIdempotency.UpdateKeys (sha256 : Sha256) (m : SoulMintConversationIdempotency) :
    SoulMintConversationIdempotency :=
  { m with
    InstanceSlug := ToLower (TrimSpace m.InstanceSlug)
    RegistrationID := TrimSpace m.RegistrationID
    AgentID := ToLower (TrimSpace m.AgentID)
    ConversationID := TrimSpace m.ConversationID
    TurnID := TrimSpace m.TurnID
    IdempotencyKey := TrimSpace m.IdempotencyKey
    RequestHash := ToLower (TrimSpace m.RequestHash)
    RequestID := TrimSpace m.RequestID
    CorrelationID := TrimSpace m.CorrelationID
    Status := ToLower (TrimSpace m.Status)
    PK := SoulMintConversationIdempotencyPK sha256 m.InstanceSlug m.RegistrationID m.IdempotencyKey }

end LesserHost.HostedGenesis
