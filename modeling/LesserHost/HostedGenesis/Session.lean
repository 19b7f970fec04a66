import LesserHost.HostedGenesis.Candidate
import LesserHost.HostedGenesis.TurnLedger

set_option autoImplicit false

/-! # The states and checkpoints of a session

`session.go`, `publish_gate.go`, `vm_checkpoint.go` and the checks of `microvm_controller.go`: which
status may follow which, and what has to be in a checkpoint before a session may carry it. An error is
its text.

What these functions use of other packages is in `Services`. -/

namespace LesserHost.HostedGenesis

open LesserHost.Go

/-! ## Services -/

/-- What AppTheory is asked about an execution. -/
structure SessionStatus where
  TenantID : String
  Namespace : String
  SessionID : String
  State : String
  DesiredState : String
  LifecycleState : String
  MicroVMID : String
  LastAction : String
  LastTransition : Time
  RegistryVersion : Int

/-- What `json.Unmarshal` finds under `capabilities` in the canonical bytes. -/
inductive CanonicalCapabilities where
  | notAnObject
  | missing
  | notAnEmptyArray
  | emptyArray
  deriving DecidableEq

structure Services where
  sha256 : Sha256
  Quote : String → String
  Valid : Bytes → Bool
  DecodeSection : Bytes → Option (DeclarationSectionPayload × Bytes)
  DecodeSoul : Bytes → Option (DeclarationSoulPayload × Bytes)
  canonicalCapabilities : Bytes → CanonicalCapabilities
  ValidateSessionStatus : SessionStatus → Bool

/-- The part of the candidate. -/
def Services.lib (sv : Services) : Library where
  Sum256 body := (sv.sha256 body).toList
  Quote := sv.Quote
  Valid := sv.Valid
  DecodeSection := sv.DecodeSection
  DecodeSoul := sv.DecodeSoul

/-! ## Statuses -/

def StatusCreated : String := "created"
def StatusInProgress : String := "in_progress"
def StatusAssistantTurnReady : String := "assistant_turn_ready"
def StatusDeclarationReady : String := "declaration_ready"
def StatusPublished : String := "published"
def StatusFailed : String := "failed"

def AllowedStatuses : List String :=
  [StatusCreated, StatusInProgress, StatusAssistantTurnReady, StatusDeclarationReady, StatusPublished,
    StatusFailed]

def NormalizeStatus (status : String) : String := ToLower (TrimSpace status)

def IsAllowedStatus (status : String) : Bool := AllowedStatuses.contains status

def ErrInvalidStatusTransition : String := "invalid hosted genesis status transition"

def legalTransitions : List (String × List String) :=
  [(StatusCreated, [StatusInProgress]),
    (StatusInProgress, [StatusAssistantTurnReady, StatusDeclarationReady]),
    (StatusAssistantTurnReady, [StatusInProgress, StatusDeclarationReady]),
    (StatusDeclarationReady, [StatusPublished])]

/-- `ValidateTransition` of two normalized statuses. -/
def validateTransition (quote : String → String) (source dest : String) : Except String Unit :=
  let arrow := quote source ++ " -> " ++ quote dest
  if !IsAllowedStatus source || !IsAllowedStatus dest then
    .error (ErrInvalidStatusTransition ++ ": unknown status " ++ arrow)
  else if source = dest then .ok ()
  else if source = StatusPublished ∨ source = StatusFailed then
    .error (ErrInvalidStatusTransition ++ ": terminal status " ++ quote source ++ " cannot transition to "
      ++ quote dest)
  else if source = StatusDeclarationReady ∧ dest ≠ StatusPublished then
    .error (ErrInvalidStatusTransition ++ ": publish-ready status " ++ quote source
      ++ " cannot transition to " ++ quote dest)
  else if dest = StatusFailed then .ok ()
  else if ((legalTransitions.lookup source).getD []).contains dest then .ok ()
  else .error (ErrInvalidStatusTransition ++ ": " ++ arrow)

def ValidateTransition (quote : String → String) (source dest : String) : Except String Unit :=
  validateTransition quote (NormalizeStatus source) (NormalizeStatus dest)

/-! ## The declaration checkpoint -/

def ErrInvalidDeclarationGate : String := "hosted genesis declaration checkpoint is not publish-ready"
def ErrInvalidPublishGate : String := "hosted genesis publish/finalize gate is invalid"
def ErrInvalidPublicationCheckpoint : String := "hosted genesis publication checkpoint is invalid"
def ErrInvalidFailureRecovery : String := "hosted genesis failure recovery is invalid"

structure DeclarationContract where
  SchemaVersion : String
  GuidanceVersion : String
  deriving DecidableEq

/-- One version at least selects v2, and none names anything else. -/
def fiveBodyContract (schemaVersion guidanceVersion : String) : Option DeclarationContract :=
  let schema := ToLower (TrimSpace schemaVersion)
  let guidance := ToLower (TrimSpace guidanceVersion)
  let schemaSelects := schema == "v2" || schema == ToLower DeclarationSchemaVersionV2
  let guidanceSelects := guidance == "v2" || guidance == ToLower GuidanceVersionV2
  let schemaValid := schema == "" || schemaSelects
  let guidanceValid := guidance == "" || guidanceSelects
  if (schemaSelects || guidanceSelects) && schemaValid && guidanceValid then
    some ⟨DeclarationSchemaVersionV2, GuidanceVersionV2⟩
  else none

def declarationCheckpointVersionsValid (schemaVersion guidanceVersion : String) : Bool :=
  match fiveBodyContract schemaVersion guidanceVersion with
  | none => false
  | some contract =>
      EqualFold (TrimSpace schemaVersion) contract.SchemaVersion &&
        EqualFold (TrimSpace guidanceVersion) contract.GuidanceVersion

structure DeclarationCheckpoint where
  DeclarationID : String
  DeclarationHash : String
  CheckpointRef : String
  ProducedAt : Time
  RegistrationID : String
  ConversationID : String
  AgentID : String
  MessageCount : Int
  Model : String
  SchemaVersion : String
  GuidanceVersion : String
  RequestID : String
  deriving DecidableEq

def DeclarationCheckpoint.Validate (c : DeclarationCheckpoint) : Except String Unit :=
  if TrimSpace c.DeclarationID = "" ∨ TrimSpace c.CheckpointRef = "" ∨ TrimSpace c.RegistrationID = "" ∨
      TrimSpace c.ConversationID = "" ∨ TrimSpace c.AgentID = "" ∨ TrimSpace c.RequestID = "" ∨
      c.MessageCount ≤ 0 ∨ c.ProducedAt.IsZero = true then
    .error ErrInvalidDeclarationGate
  else if isSHA256Digest c.DeclarationHash = false then .error ErrInvalidDeclarationGate
  else if declarationCheckpointVersionsValid c.SchemaVersion c.GuidanceVersion = false then
    .error ErrInvalidDeclarationGate
  else .ok ()

/-- `CanPublish`. -/
def CanPublish (status registrationID conversationID agentID : String)
    (declarationCheckpoint : Option DeclarationCheckpoint) : Except String Unit :=
  match declarationCheckpoint with
  | none => .error ErrInvalidPublishGate
  | some checkpoint =>
      if NormalizeStatus status ≠ StatusDeclarationReady then .error ErrInvalidPublishGate
      else match checkpoint.Validate with
      | .error _ => .error ErrInvalidPublishGate
      | .ok () =>
          if TrimSpace registrationID ≠ TrimSpace checkpoint.RegistrationID ∨
              TrimSpace conversationID ≠ TrimSpace checkpoint.ConversationID ∨
              EqualFold (TrimSpace agentID) (TrimSpace checkpoint.AgentID) = false then
            .error ErrInvalidPublishGate
          else .ok ()

/-! ## The publication checkpoint -/

structure PublicationCheckpoint where
  RegistrationID : String
  ConversationID : String
  AgentID : String
  Version : Int
  RegistrationSHA256 : String
  RegistrationIssuedAt : Time
  PublishedAt : Time
  deriving DecidableEq

def PublicationCheckpoint.ValidatePrepared (p : PublicationCheckpoint)
    (registrationID conversationID agentID : String) : Except String Unit :=
  if TrimSpace p.RegistrationID = "" ∨ TrimSpace p.RegistrationID ≠ TrimSpace registrationID ∨
      TrimSpace p.ConversationID = "" ∨ TrimSpace p.ConversationID ≠ TrimSpace conversationID ∨
      TrimSpace p.AgentID = "" ∨ EqualFold (TrimSpace p.AgentID) (TrimSpace agentID) = false ∨
      p.Version ≤ 0 ∨ p.RegistrationIssuedAt.IsZero = true ∨
      isSHA256HexDigest p.RegistrationSHA256 = false then
    .error ErrInvalidPublicationCheckpoint
  else .ok ()

def PublicationCheckpoint.ValidatePublished (p : PublicationCheckpoint)
    (registrationID conversationID agentID : String) : Except String Unit :=
  match p.ValidatePrepared registrationID conversationID agentID with
  | .error _ => .error ErrInvalidPublicationCheckpoint
  | .ok () => if p.PublishedAt.IsZero then .error ErrInvalidPublicationCheckpoint else .ok ()

/-! ## Failures -/

def allowedRecoveryActions : List String :=
  ["refresh_state", "retry_same_step", "restart_soul_bootstrap", "operator_action"]

def allowedFailureCodes : List String :=
  ["llm_unavailable", "assistant_turn_failed", "invalid_completion_state",
    "missing_produced_declarations", "invalid_produced_declarations", "tenant_boundary_violation",
    "operator_action_required", "microvm_unavailable"]

structure Recovery where
  Action : String
  MaxAttempts : Int
  RetryAfterSeconds : Int
  Reason : String
  deriving DecidableEq

structure Failure where
  Code : String
  Class : String
  Message : String
  Retryable : Bool
  Recovery : Recovery
  deriving DecidableEq

def Failure.Validate (f : Failure) : Except String Unit :=
  if f.Code ∉ allowedFailureCodes ∨ TrimSpace f.Message = "" then .error ErrInvalidFailureRecovery
  else if f.Class ≠ "" ∧ f.Class ∉ allowedFailureClasses then .error ErrInvalidFailureRecovery
  else if f.Recovery.Action ∉ allowedRecoveryActions then .error ErrInvalidFailureRecovery
  else if f.Recovery.MaxAttempts < 0 ∨ 10 < f.Recovery.MaxAttempts then .error ErrInvalidFailureRecovery
  else if f.Recovery.RetryAfterSeconds < 0 ∨ 3600 < f.Recovery.RetryAfterSeconds then
    .error ErrInvalidFailureRecovery
  else .ok ()

structure TraceIDs where
  HostRequestID : String
  CorrelationID : String
  IdempotencyKey : String
  LesserRequestID : String
  deriving DecidableEq

/-! ## The checkpoint of the actor -/

def ErrInvalidVMCheckpoint : String := "hosted genesis vm checkpoint is invalid"

structure VMCheckpointMetadata where
  Sequence : Int
  Ref : String
  Hash : String
  Step : String
  Action : String
  StatusFrom : String
  StatusTo : String
  Runtime : String
  ProviderFamily : String
  ModelID : String
  ProviderSessionID : String
  TraceID : String
  LatestTurnID : String
  RequestID : String
  deriving DecidableEq

def safeCheckpointToken (value : String) : String :=
  String.ofList ((ToLower (TrimSpace value)).toList.map fun c => if c = ' ' then '_' else c)

def forbiddenCheckpointMaterial : List String :=
  ["bearer ", "authorization", "api_key", "apikey", "secret", "token_value", "aws_access_key",
    "aws_secret", "aws_session", "wallet_signature", "raw transcript", "raw prompt", "ssm:",
    "x-aws-proxy-auth"]

def containsUnsafeCheckpointMaterial (values : List String) : Bool :=
  values.any fun value =>
    let lower := ToLower (TrimSpace value)
    lower != "" && forbiddenCheckpointMaterial.any fun forbidden =>
      decide (forbidden.toList <:+: lower.toList)

def VMCheckpointMetadata.Normalize (sha256 : Sha256) (m : VMCheckpointMetadata) : VMCheckpointMetadata :=
  { m with
    Ref := NormalizeCheckpointRef sha256 m.Ref
    Hash := TrimSpace m.Hash
    Step := safeCheckpointToken m.Step
    Action := safeCheckpointToken m.Action
    StatusFrom := NormalizeStatus m.StatusFrom
    StatusTo := NormalizeStatus m.StatusTo
    Runtime := TrimSpace m.Runtime
    ProviderFamily := safeCheckpointToken m.ProviderFamily
    ModelID := TrimSpace m.ModelID
    ProviderSessionID := TrimSpace m.ProviderSessionID
    TraceID := TrimSpace m.TraceID
    LatestTurnID := TrimSpace m.LatestTurnID
    RequestID := TrimSpace m.RequestID }

def VMCheckpointMetadata.Validate (sha256 : Sha256) (m : VMCheckpointMetadata) : Except String Unit :=
  let m := m.Normalize sha256
  if m.Sequence ≤ 0 ∨ TrimSpace m.Ref = "" ∨ isSHA256Digest m.Hash = false ∨ TrimSpace m.Step = "" ∨
      TrimSpace m.Action = "" ∨ TrimSpace m.Runtime = "" ∨ TrimSpace m.LatestTurnID = "" then
    .error ErrInvalidVMCheckpoint
  else if !IsAllowedStatus (NormalizeStatus m.StatusFrom) ||
      !IsAllowedStatus (NormalizeStatus m.StatusTo) then .error ErrInvalidVMCheckpoint
  else if containsUnsafeCheckpointMaterial [m.Ref, m.Hash, m.Step, m.Action, m.Runtime,
      m.ProviderFamily, m.ModelID, m.ProviderSessionID, m.TraceID, m.LatestTurnID, m.RequestID] then
    .error ErrInvalidVMCheckpoint
  else .ok ()

/-! ## The execution of a session -/

def MicroVMNamespace : String := "hosted-genesis"
def MicroVMSourceOfTruth : String := "host-dynamodb-hosted-genesis-session"
def errInvalidMicroVMBinding : String := "hosted genesis microvm binding is incomplete"
def ErrInvalidMicroVMLifecycleRef : String := "hosted genesis microvm lifecycle ref is invalid"

structure MicroVMSessionBinding where
  InstanceSlug : String
  RegistrationID : String
  AgentID : String
  ConversationID : String
  TurnID : String

def MicroVMSessionBinding.Validate (b : MicroVMSessionBinding) : Except String Unit :=
  if TrimSpace b.InstanceSlug = "" ∨ TrimSpace b.RegistrationID = "" ∨ TrimSpace b.AgentID = "" ∨
      TrimSpace b.ConversationID = "" then .error errInvalidMicroVMBinding
  else .ok ()

def MicroVMSessionBinding.TenantID (b : MicroVMSessionBinding) : String :=
  let slug := TrimSpace b.InstanceSlug
  if slug = "" then "" else "slug:" ++ slug

structure MicroVMLifecycleRef where
  SourceOfTruth : String
  TenantID : String
  Namespace : String
  SessionID : String
  LifecycleState : String
  DesiredState : String
  MicroVMID : String
  ImageRef : String
  ImageVersion : String
  ExecutionRoleARN : String
  MaximumDurationSeconds : Int
  RuntimeLogGroup : String
  NetworkConnectorRef : String
  LastAction : String
  LastTransition : Time
  RegistryVersion : Int
  UpdatedAt : Time
  deriving DecidableEq

def normalizeMicroVMLifecycleRef (ref : MicroVMLifecycleRef) : MicroVMLifecycleRef :=
  { ref with
    SourceOfTruth := TrimSpace ref.SourceOfTruth
    TenantID := TrimSpace ref.TenantID
    Namespace := TrimSpace ref.Namespace
    SessionID := TrimSpace ref.SessionID
    LifecycleState := TrimSpace ref.LifecycleState
    DesiredState := TrimSpace ref.DesiredState
    MicroVMID := TrimSpace ref.MicroVMID
    ImageRef := TrimSpace ref.ImageRef
    ImageVersion := TrimSpace ref.ImageVersion
    ExecutionRoleARN := TrimSpace ref.ExecutionRoleARN
    RuntimeLogGroup := TrimSpace ref.RuntimeLogGroup
    NetworkConnectorRef := TrimSpace ref.NetworkConnectorRef
    LastAction := TrimSpace ref.LastAction
    LastTransition := ref.LastTransition.utcIfSet
    UpdatedAt := ref.UpdatedAt.utcIfSet }

/-- What is told of a normalized ref. -/
def MicroVMLifecycleRef.status (r : MicroVMLifecycleRef) : SessionStatus where
  TenantID := r.TenantID
  Namespace := r.Namespace
  SessionID := r.SessionID
  State := r.LifecycleState
  DesiredState := if r.DesiredState = "" then r.LifecycleState else r.DesiredState
  LifecycleState := r.LifecycleState
  MicroVMID := r.MicroVMID
  LastAction := r.LastAction
  LastTransition := if r.LastTransition.IsZero then r.UpdatedAt.UTC else r.LastTransition.UTC
  RegistryVersion := if 0 < r.RegistryVersion then r.RegistryVersion else 1

def MicroVMLifecycleRef.Validate (sv : Services) (r : MicroVMLifecycleRef)
    (binding : MicroVMSessionBinding) : Except String Unit :=
  match binding.Validate with
  | .error err => .error err
  | .ok () =>
      let r := normalizeMicroVMLifecycleRef r
      if r.SourceOfTruth ≠ MicroVMSourceOfTruth ∨ r.TenantID ≠ binding.TenantID ∨
          r.Namespace ≠ MicroVMNamespace ∨ r.SessionID ≠ TrimSpace binding.ConversationID then
        .error ErrInvalidMicroVMLifecycleRef
      else if r.LifecycleState = "" ∨ r.LastAction = "" ∨ r.UpdatedAt.IsZero = true then
        .error ErrInvalidMicroVMLifecycleRef
      else if sv.ValidateSessionStatus r.status then .ok ()
      else .error ErrInvalidMicroVMLifecycleRef

/-! ## Models -/

structure ModelDefinition where
  Alias : String
  Provider : String
  ConcreteModel : String

def aliasDefinitions : List ModelDefinition :=
  [⟨"gpt-5.6-luna", "openai", "gpt-5.6-luna"⟩, ⟨"claude-sonnet-5", "anthropic", "claude-sonnet-5"⟩]

/-- An alias is written out, other names stay. -/
def CanonicalModelSet (raw : String) : String :=
  match aliasDefinitions.find? fun definition => TrimSpace raw == definition.Alias with
  | none => TrimSpace raw
  | some definition => definition.Provider ++ ":" ++ definition.ConcreteModel

/-! ## Transitions -/

/-- The transitions between different statuses. -/
def transitions : List (String × String) :=
  [(StatusCreated, StatusInProgress), (StatusInProgress, StatusAssistantTurnReady),
    (StatusAssistantTurnReady, StatusInProgress), (StatusInProgress, StatusDeclarationReady),
    (StatusAssistantTurnReady, StatusDeclarationReady), (StatusDeclarationReady, StatusPublished),
    (StatusCreated, StatusFailed), (StatusInProgress, StatusFailed),
    (StatusAssistantTurnReady, StatusFailed)]

/-- A status may stay as it is or make a transition. -/
def Follows (source dest : String) : Prop :=
  source ∈ AllowedStatuses ∧ (source = dest ∨ (source, dest) ∈ transitions)

instance (source dest : String) : Decidable (Follows source dest) :=
  inferInstanceAs (Decidable (_ ∧ _))

theorem validateTransition_ok {quote : String → String} {source dest : String} :
    validateTransition quote source dest = .ok () ↔ Follows source dest := by
  have hall : ∀ source ∈ AllowedStatuses, ∀ dest ∈ AllowedStatuses,
      (Follows source dest ↔ source = dest ∨
        ¬(source = StatusPublished ∨ source = StatusFailed) ∧
          ¬(source = StatusDeclarationReady ∧ dest ≠ StatusPublished) ∧
            (dest = StatusFailed ∨ ((legalTransitions.lookup source).getD []).contains dest = true)) := by
    decide
  have htargets : ∀ p ∈ transitions, p.2 ∈ AllowedStatuses := by decide
  unfold validateTransition
  by_cases hsource : source ∈ AllowedStatuses
  · by_cases hdest : dest ∈ AllowedStatuses
    · rw [hall source hsource dest hdest]
      have hallowed : ¬ (!IsAllowedStatus source || !IsAllowedStatus dest) = true := by
        simp [IsAllowedStatus, hsource, hdest]
      rw [if_neg hallowed]
      by_cases h1 : source = dest
      · rw [if_pos h1]
        exact iff_of_true rfl (Or.inl h1)
      rw [if_neg h1]
      by_cases h2 : source = StatusPublished ∨ source = StatusFailed
      · rw [if_pos h2]
        refine iff_of_false (by nofun) ?_
        rintro (h | ⟨h, -⟩)
        · exact h1 h
        · exact h h2
      rw [if_neg h2]
      by_cases h3 : source = StatusDeclarationReady ∧ dest ≠ StatusPublished
      · rw [if_pos h3]
        refine iff_of_false (by nofun) ?_
        rintro (h | ⟨-, h, -⟩)
        · exact h1 h
        · exact h h3
      rw [if_neg h3]
      by_cases h4 : dest = StatusFailed
      · rw [if_pos h4]
        exact iff_of_true rfl (Or.inr ⟨h2, h3, Or.inl h4⟩)
      rw [if_neg h4]
      by_cases h5 : ((legalTransitions.lookup source).getD []).contains dest = true
      · rw [if_pos h5]
        exact iff_of_true rfl (Or.inr ⟨h2, h3, Or.inr h5⟩)
      · rw [if_neg h5]
        refine iff_of_false (by nofun) ?_
        rintro (h | ⟨-, -, h | h⟩)
        · exact h1 h
        · exact h4 h
        · exact h5 h
    · have hno : ¬ Follows source dest := by
        rintro ⟨-, rfl | h⟩
        · exact hdest hsource
        · exact hdest (htargets _ h)
      simp [IsAllowedStatus, hdest, hno]
  · have hno : ¬ Follows source dest := fun h => hsource h.1
    simp [IsAllowedStatus, hsource, hno]

theorem ValidateTransition_ok {quote : String → String} {source dest : String} :
    ValidateTransition quote source dest = .ok () ↔
      Follows (NormalizeStatus source) (NormalizeStatus dest) :=
  validateTransition_ok

/-- **Published and failed are final.** -/
theorem Follows.of_terminal {source dest : String} (h : Follows source dest)
    (hsource : source = StatusPublished ∨ source = StatusFailed) : dest = source := by
  have hfinal : ∀ p ∈ transitions, p.1 ≠ StatusPublished ∧ p.1 ≠ StatusFailed := by decide
  rcases h.2 with rfl | hmem
  · rfl
  · rcases hsource with rfl | rfl
    · exact absurd rfl (hfinal _ hmem).1
    · exact absurd rfl (hfinal _ hmem).2

theorem NormalizeStatus_idem (status : String) :
    NormalizeStatus (NormalizeStatus status) = NormalizeStatus status := by
  rw [NormalizeStatus, NormalizeStatus, TrimSpace_ToLower_TrimSpace, ToLower_idem]

theorem NormalizeStatus_allowed {status : String} (h : status ∈ AllowedStatuses) :
    NormalizeStatus status = status := by
  have hall : ∀ status ∈ AllowedStatuses, NormalizeStatus status = status := by decide
  exact hall status h

end LesserHost.HostedGenesis
