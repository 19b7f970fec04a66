import LesserHost.ProvisionWorker.Runner

set_option autoImplicit false

/-! # Update jobs

`internal/store/models/update_job.go` and the part of `internal/provisionworker/update_jobs.go` through
which a job gets back into the table, with the step that computes a managed instance's configuration.
A job in memory has every field; a row has the attributes that were set and not removed since. -/

namespace LesserHost.ProvisionWorker

open LesserHost.Go

/-! ## Statuses, steps and phases -/

def UpdateJobStatusQueued : String := "queued"
def UpdateJobStatusRunning : String := "running"
def UpdateJobStatusError : String := "error"

def updateStepDeployStart : String := "deploy.start"
def updateStepBodyDeployStart : String := "body.deploy.start"
def updateStepDeployMcpStart : String := "deploy.mcp.start"
def updateStepFailed : String := "failed"

def updatePhaseNone : String := ""
def updatePhaseDeploy : String := "deploy"
def updatePhaseBody : String := "body"
def updatePhaseMCP : String := "mcp"

def updatePhaseStatusPending : String := "pending"
def updatePhaseStatusSkipped : String := "skipped"

/-! ## Jobs and rows -/

/-- The fields of an update job; in a row they are attributes. -/
structure UpdateJobOf (attr : Type → Type) where
  PK : attr String
  SK : attr String
  TTL : attr Int
  GSI1PK : attr String
  GSI1SK : attr String
  GSI2PK : attr String
  GSI2SK : attr String
  ID : attr String
  InstanceSlug : attr String
  Status : attr String
  Step : attr String
  Note : attr String
  RunID : attr String
  RunURL : attr String
  ActivePhase : attr String
  FailedPhase : attr String
  DeployStatus : attr String
  DeployRunID : attr String
  DeployRunURL : attr String
  DeployError : attr String
  BodyStatus : attr String
  BodyRunID : attr String
  BodyRunURL : attr String
  BodyError : attr String
  MCPStatus : attr String
  MCPRunID : attr String
  MCPRunURL : attr String
  MCPError : attr String
  AccountID : attr String
  AccountRoleName : attr String
  Region : attr String
  BaseDomain : attr String
  LesserVersion : attr String
  LesserBodyVersion : attr String
  BodyOnly : attr Bool
  MCPOnly : attr Bool
  BodyTemplateCertify : attr Bool
  LesserHostBaseURL : attr String
  LesserHostAttestationsURL : attr String
  LesserHostInstanceKeySecretARN : attr String
  SoulBindingIntegrationSecretARN : attr String
  TranslationEnabled : attr Bool
  TipEnabled : attr Bool
  TipChainID : attr Int
  TipContractAddress : attr String
  AIEnabled : attr Bool
  AIModerationEnabled : attr Bool
  AINsfwDetectionEnabled : attr Bool
  AISpamDetectionEnabled : attr Bool
  AIPiiDetectionEnabled : attr Bool
  AIContentDetectionEnabled : attr Bool
  RotateInstanceKey : attr Bool
  RotatedInstanceKeyID : attr String
  VerifyTranslationOK : attr (Option Bool)
  VerifyTrustOK : attr (Option Bool)
  VerifyTipsOK : attr (Option Bool)
  VerifyAIOK : attr (Option Bool)
  VerifyTranslationErr : attr String
  VerifyTrustErr : attr String
  VerifyTipsErr : attr String
  VerifyAIErr : attr String
  ReceiptJSON : attr String
  ProcessingLeaseOwner : attr String
  ProcessingLeaseUntil : attr Time
  Attempts : attr Int
  MaxAttempts : attr Int
  ErrorCode : attr String
  ErrorMessage : attr String
  CreatedAt : attr Time
  UpdatedAt : attr Time
  ExpiresAt : attr Time
  RequestID : attr String

abbrev UpdateJob := UpdateJobOf fun α => α

abbrev UpdateJobItem := UpdateJobOf Option

/-- `time.Time{}`. -/
def zeroTime : Time := ⟨0, .utc⟩

/-- `&models.UpdateJob{}`. -/
def newUpdateJob : UpdateJob :=
  { PK := ""
    SK := ""
    TTL := 0
    GSI1PK := ""
    GSI1SK := ""
    GSI2PK := ""
    GSI2SK := ""
    ID := ""
    InstanceSlug := ""
    Status := ""
    Step := ""
    Note := ""
    RunID := ""
    RunURL := ""
    ActivePhase := ""
    FailedPhase := ""
    DeployStatus := ""
    DeployRunID := ""
    DeployRunURL := ""
    DeployError := ""
    BodyStatus := ""
    BodyRunID := ""
    BodyRunURL := ""
    BodyError := ""
    MCPStatus := ""
    MCPRunID := ""
    MCPRunURL := ""
    MCPError := ""
    AccountID := ""
    AccountRoleName := ""
    Region := ""
    BaseDomain := ""
    LesserVersion := ""
    LesserBodyVersion := ""
    BodyOnly := false
    MCPOnly := false
    BodyTemplateCertify := false
    LesserHostBaseURL := ""
    LesserHostAttestationsURL := ""
    LesserHostInstanceKeySecretARN := ""
    SoulBindingIntegrationSecretARN := ""
    TranslationEnabled := false
    TipEnabled := false
    TipChainID := 0
    TipContractAddress := ""
    AIEnabled := false
    AIModerationEnabled := false
    AINsfwDetectionEnabled := false
    AISpamDetectionEnabled := false
    AIPiiDetectionEnabled := false
    AIContentDetectionEnabled := false
    RotateInstanceKey := false
    RotatedInstanceKeyID := ""
    VerifyTranslationOK := none
    VerifyTrustOK := none
    VerifyTipsOK := none
    VerifyAIOK := none
    VerifyTranslationErr := ""
    VerifyTrustErr := ""
    VerifyTipsErr := ""
    VerifyAIErr := ""
    ReceiptJSON := ""
    ProcessingLeaseOwner := ""
    ProcessingLeaseUntil := zeroTime
    Attempts := 0
    MaxAttempts := 0
    ErrorCode := ""
    ErrorMessage := ""
    CreatedAt := zeroTime
    UpdatedAt := zeroTime
    ExpiresAt := zeroTime
    RequestID := "" }

/-- The job read from a row: a field without its attribute keeps its zero value. -/
def UpdateJobOf.load (item : UpdateJobItem) : UpdateJob :=
  { PK := item.PK.getD ""
    SK := item.SK.getD ""
    TTL := item.TTL.getD 0
    GSI1PK := item.GSI1PK.getD ""
    GSI1SK := item.GSI1SK.getD ""
    GSI2PK := item.GSI2PK.getD ""
    GSI2SK := item.GSI2SK.getD ""
    ID := item.ID.getD ""
    InstanceSlug := item.InstanceSlug.getD ""
    Status := item.Status.getD ""
    Step := item.Step.getD ""
    Note := item.Note.getD ""
    RunID := item.RunID.getD ""
    RunURL := item.RunURL.getD ""
    ActivePhase := item.ActivePhase.getD ""
    FailedPhase := item.FailedPhase.getD ""
    DeployStatus := item.DeployStatus.getD ""
    DeployRunID := item.DeployRunID.getD ""
    DeployRunURL := item.DeployRunURL.getD ""
    DeployError := item.DeployError.getD ""
    BodyStatus := item.BodyStatus.getD ""
    BodyRunID := item.BodyRunID.getD ""
    BodyRunURL := item.BodyRunURL.getD ""
    BodyError := item.BodyError.getD ""
    MCPStatus := item.MCPStatus.getD ""
    MCPRunID := item.MCPRunID.getD ""
    MCPRunURL := item.MCPRunURL.getD ""
    MCPError := item.MCPError.getD ""
    AccountID := item.AccountID.getD ""
    AccountRoleName := item.AccountRoleName.getD ""
    Region := item.Region.getD ""
    BaseDomain := item.BaseDomain.getD ""
    LesserVersion := item.LesserVersion.getD ""
    LesserBodyVersion := item.LesserBodyVersion.getD ""
    BodyOnly := item.BodyOnly.getD false
    MCPOnly := item.MCPOnly.getD false
    BodyTemplateCertify := item.BodyTemplateCertify.getD false
    LesserHostBaseURL := item.LesserHostBaseURL.getD ""
    LesserHostAttestationsURL := item.LesserHostAttestationsURL.getD ""
    LesserHostInstanceKeySecretARN := item.LesserHostInstanceKeySecretARN.getD ""
    SoulBindingIntegrationSecretARN := item.SoulBindingIntegrationSecretARN.getD ""
    TranslationEnabled := item.TranslationEnabled.getD false
    TipEnabled := item.TipEnabled.getD false
    TipChainID := item.TipChainID.getD 0
    TipContractAddress := item.TipContractAddress.getD ""
    AIEnabled := item.AIEnabled.getD false
    AIModerationEnabled := item.AIModerationEnabled.getD false
    AINsfwDetectionEnabled := item.AINsfwDetectionEnabled.getD false
    AISpamDetectionEnabled := item.AISpamDetectionEnabled.getD false
    AIPiiDetectionEnabled := item.AIPiiDetectionEnabled.getD false
    AIContentDetectionEnabled := item.AIContentDetectionEnabled.getD false
    RotateInstanceKey := item.RotateInstanceKey.getD false
    RotatedInstanceKeyID := item.RotatedInstanceKeyID.getD ""
    VerifyTranslationOK := item.VerifyTranslationOK.getD none
    VerifyTrustOK := item.VerifyTrustOK.getD none
    VerifyTipsOK := item.VerifyTipsOK.getD none
    VerifyAIOK := item.VerifyAIOK.getD none
    VerifyTranslationErr := item.VerifyTranslationErr.getD ""
    VerifyTrustErr := item.VerifyTrustErr.getD ""
    VerifyTipsErr := item.VerifyTipsErr.getD ""
    VerifyAIErr := item.VerifyAIErr.getD ""
    ReceiptJSON := item.ReceiptJSON.getD ""
    ProcessingLeaseOwner := item.ProcessingLeaseOwner.getD ""
    ProcessingLeaseUntil := item.ProcessingLeaseUntil.getD zeroTime
    Attempts := item.Attempts.getD 0
    MaxAttempts := item.MaxAttempts.getD 0
    ErrorCode := item.ErrorCode.getD ""
    ErrorMessage := item.ErrorMessage.getD ""
    CreatedAt := item.CreatedAt.getD zeroTime
    UpdatedAt := item.UpdatedAt.getD zeroTime
    ExpiresAt := item.ExpiresAt.getD zeroTime
    RequestID := item.RequestID.getD "" }

/-- The row that a created job is put as. -/
def UpdateJobOf.stored (job : UpdateJob) : UpdateJobItem :=
  { PK := some job.PK
    SK := some job.SK
    TTL := some job.TTL
    GSI1PK := some job.GSI1PK
    GSI1SK := some job.GSI1SK
    GSI2PK := some job.GSI2PK
    GSI2SK := some job.GSI2SK
    ID := some job.ID
    InstanceSlug := some job.InstanceSlug
    Status := some job.Status
    Step := some job.Step
    Note := some job.Note
    RunID := some job.RunID
    RunURL := some job.RunURL
    ActivePhase := some job.ActivePhase
    FailedPhase := some job.FailedPhase
    DeployStatus := some job.DeployStatus
    DeployRunID := some job.DeployRunID
    DeployRunURL := some job.DeployRunURL
    DeployError := some job.DeployError
    BodyStatus := some job.BodyStatus
    BodyRunID := some job.BodyRunID
    BodyRunURL := some job.BodyRunURL
    BodyError := some job.BodyError
    MCPStatus := some job.MCPStatus
    MCPRunID := some job.MCPRunID
    MCPRunURL := some job.MCPRunURL
    MCPError := some job.MCPError
    AccountID := some job.AccountID
    AccountRoleName := some job.AccountRoleName
    Region := some job.Region
    BaseDomain := some job.BaseDomain
    LesserVersion := some job.LesserVersion
    LesserBodyVersion := some job.LesserBodyVersion
    BodyOnly := some job.BodyOnly
    MCPOnly := some job.MCPOnly
    BodyTemplateCertify := some job.BodyTemplateCertify
    LesserHostBaseURL := some job.LesserHostBaseURL
    LesserHostAttestationsURL := some job.LesserHostAttestationsURL
    LesserHostInstanceKeySecretARN := some job.LesserHostInstanceKeySecretARN
    SoulBindingIntegrationSecretARN := some job.SoulBindingIntegrationSecretARN
    TranslationEnabled := some job.TranslationEnabled
    TipEnabled := some job.TipEnabled
    TipChainID := some job.TipChainID
    TipContractAddress := some job.TipContractAddress
    AIEnabled := some job.AIEnabled
    AIModerationEnabled := some job.AIModerationEnabled
    AINsfwDetectionEnabled := some job.AINsfwDetectionEnabled
    AISpamDetectionEnabled := some job.AISpamDetectionEnabled
    AIPiiDetectionEnabled := some job.AIPiiDetectionEnabled
    AIContentDetectionEnabled := some job.AIContentDetectionEnabled
    RotateInstanceKey := some job.RotateInstanceKey
    RotatedInstanceKeyID := some job.RotatedInstanceKeyID
    VerifyTranslationOK := some job.VerifyTranslationOK
    VerifyTrustOK := some job.VerifyTrustOK
    VerifyTipsOK := some job.VerifyTipsOK
    VerifyAIOK := some job.VerifyAIOK
    VerifyTranslationErr := some job.VerifyTranslationErr
    VerifyTrustErr := some job.VerifyTrustErr
    VerifyTipsErr := some job.VerifyTipsErr
    VerifyAIErr := some job.VerifyAIErr
    ReceiptJSON := some job.ReceiptJSON
    ProcessingLeaseOwner := some job.ProcessingLeaseOwner
    ProcessingLeaseUntil := some job.ProcessingLeaseUntil
    Attempts := some job.Attempts
    MaxAttempts := some job.MaxAttempts
    ErrorCode := some job.ErrorCode
    ErrorMessage := some job.ErrorMessage
    CreatedAt := some job.CreatedAt
    UpdatedAt := some job.UpdatedAt
    ExpiresAt := some job.ExpiresAt
    RequestID := some job.RequestID }

namespace UpdateJobOf

variable (clock : Time)

def updateGSI1 (job : UpdateJob) : UpdateJob :=
  let instanceSlug := TrimSpace job.InstanceSlug
  let createdAt := if job.CreatedAt.IsZero then clock else job.CreatedAt
  { job with
    GSI1PK := if instanceSlug = "" then "" else "UPDATE_INSTANCE#" ++ instanceSlug
    GSI1SK :=
      if instanceSlug = "" then "" else createdAt.FormatRFC3339Nano ++ "#" ++ TrimSpace job.ID }

/-- A job is in the index of active jobs while it is queued or running. -/
def isActive (job : UpdateJob) : Bool :=
  let status := ToLower (TrimSpace job.Status)
  status == UpdateJobStatusQueued || status == UpdateJobStatusRunning

def updateGSI2 (job : UpdateJob) : UpdateJob :=
  let updatedAt := if job.UpdatedAt.IsZero then clock else job.UpdatedAt
  { job with
    GSI2PK := if job.isActive then "UPDATE_ACTIVE" else ""
    GSI2SK :=
      if job.isActive then updatedAt.FormatRFC3339Nano ++ "#" ++ TrimSpace job.ID else "" }

/-- The texts of a job as `UpdateKeys` leaves them. -/
def trimmed (job : UpdateJob) : UpdateJob :=
  { job with
    ID := TrimSpace job.ID
    InstanceSlug := ToLower (TrimSpace job.InstanceSlug)
    Status := ToLower (TrimSpace job.Status)
    Step := TrimSpace job.Step
    Note := TrimSpace job.Note
    RunID := TrimSpace job.RunID
    RunURL := TrimSpace job.RunURL
    ActivePhase := TrimSpace job.ActivePhase
    FailedPhase := TrimSpace job.FailedPhase
    DeployStatus := TrimSpace job.DeployStatus
    DeployRunID := TrimSpace job.DeployRunID
    DeployRunURL := TrimSpace job.DeployRunURL
    DeployError := TrimSpace job.DeployError
    BodyStatus := TrimSpace job.BodyStatus
    BodyRunID := TrimSpace job.BodyRunID
    BodyRunURL := TrimSpace job.BodyRunURL
    BodyError := TrimSpace job.BodyError
    MCPStatus := TrimSpace job.MCPStatus
    MCPRunID := TrimSpace job.MCPRunID
    MCPRunURL := TrimSpace job.MCPRunURL
    MCPError := TrimSpace job.MCPError
    AccountID := TrimSpace job.AccountID
    AccountRoleName := TrimSpace job.AccountRoleName
    Region := TrimSpace job.Region
    BaseDomain := ToLower (TrimSpace job.BaseDomain)
    LesserVersion := TrimSpace job.LesserVersion
    LesserBodyVersion := TrimSpace job.LesserBodyVersion
    LesserHostBaseURL := TrimSpace job.LesserHostBaseURL
    LesserHostAttestationsURL := TrimSpace job.LesserHostAttestationsURL
    LesserHostInstanceKeySecretARN := TrimSpace job.LesserHostInstanceKeySecretARN
    SoulBindingIntegrationSecretARN := TrimSpace job.SoulBindingIntegrationSecretARN
    TipContractAddress := TrimSpace job.TipContractAddress
    RotatedInstanceKeyID := TrimSpace job.RotatedInstanceKeyID
    VerifyTranslationErr := TrimSpace job.VerifyTranslationErr
    VerifyTrustErr := TrimSpace job.VerifyTrustErr
    VerifyTipsErr := TrimSpace job.VerifyTipsErr
    VerifyAIErr := TrimSpace job.VerifyAIErr
    ReceiptJSON := TrimSpace job.ReceiptJSON
    ProcessingLeaseOwner := TrimSpace job.ProcessingLeaseOwner
    ErrorCode := TrimSpace job.ErrorCode
    ErrorMessage := TrimSpace job.ErrorMessage
    RequestID := TrimSpace job.RequestID }

/-- The main key of a trimmed job, its time to live and its bound of attempts. -/
def keyed (job : UpdateJob) : UpdateJob :=
  { job with
    MaxAttempts := if job.MaxAttempts ≤ 0 then 10 else job.MaxAttempts
    PK := "UPDATE_JOB#" ++ job.ID
    SK := SKJob
    TTL := job.ExpiresAt.Unix }

def UpdateKeys (job : UpdateJob) : UpdateJob :=
  (job.trimmed.keyed.updateGSI1 clock).updateGSI2 clock

def BeforeCreate (job : UpdateJob) : UpdateJob :=
  let job := job.UpdateKeys clock
  let expiresAt := if job.ExpiresAt.IsZero then clock.Add (30 * 24 * Hour) else job.ExpiresAt
  let job : UpdateJob := { job with
    CreatedAt := if job.CreatedAt.IsZero then clock else job.CreatedAt
    UpdatedAt := clock
    ExpiresAt := expiresAt
    TTL := expiresAt.Unix
    Status := if TrimSpace job.Status = "" then UpdateJobStatusQueued else job.Status
    MaxAttempts := if job.MaxAttempts ≤ 0 then 10 else job.MaxAttempts }
  (job.updateGSI1 clock).updateGSI2 clock

end UpdateJobOf

/-! ## The update of a row -/

def setOptionalUpdateJobStringField (value : String) : Option String :=
  let value := TrimSpace value
  if value = "" then none else some value

def setOptionalUpdateJobBoolPtrField (value : Option Bool) : Option (Option Bool) :=
  value.map some

def setUpdateJobFieldsOnBuilder (job : UpdateJob) (item : UpdateJobItem) : UpdateJobItem :=
  { item with
    Status := some (TrimSpace job.Status)
    Step := some (TrimSpace job.Step)
    Note := setOptionalUpdateJobStringField job.Note
    RunID := setOptionalUpdateJobStringField job.RunID
    RunURL := setOptionalUpdateJobStringField job.RunURL
    ActivePhase := setOptionalUpdateJobStringField job.ActivePhase
    FailedPhase := setOptionalUpdateJobStringField job.FailedPhase
    DeployStatus := setOptionalUpdateJobStringField job.DeployStatus
    DeployRunID := setOptionalUpdateJobStringField job.DeployRunID
    DeployRunURL := setOptionalUpdateJobStringField job.DeployRunURL
    DeployError := setOptionalUpdateJobStringField job.DeployError
    BodyStatus := setOptionalUpdateJobStringField job.BodyStatus
    BodyRunID := setOptionalUpdateJobStringField job.BodyRunID
    BodyRunURL := setOptionalUpdateJobStringField job.BodyRunURL
    BodyError := setOptionalUpdateJobStringField job.BodyError
    MCPStatus := setOptionalUpdateJobStringField job.MCPStatus
    MCPRunID := setOptionalUpdateJobStringField job.MCPRunID
    MCPRunURL := setOptionalUpdateJobStringField job.MCPRunURL
    MCPError := setOptionalUpdateJobStringField job.MCPError
    AccountID := setOptionalUpdateJobStringField job.AccountID
    AccountRoleName := setOptionalUpdateJobStringField job.AccountRoleName
    Region := setOptionalUpdateJobStringField job.Region
    BaseDomain := setOptionalUpdateJobStringField job.BaseDomain
    LesserVersion := setOptionalUpdateJobStringField job.LesserVersion
    LesserBodyVersion := setOptionalUpdateJobStringField job.LesserBodyVersion
    BodyOnly := some job.BodyOnly
    MCPOnly := some job.MCPOnly
    BodyTemplateCertify := some job.BodyTemplateCertify
    LesserHostBaseURL := setOptionalUpdateJobStringField job.LesserHostBaseURL
    LesserHostAttestationsURL := setOptionalUpdateJobStringField job.LesserHostAttestationsURL
    LesserHostInstanceKeySecretARN := setOptionalUpdateJobStringField job.LesserHostInstanceKeySecretARN
    TranslationEnabled := some job.TranslationEnabled
    TipEnabled := some job.TipEnabled
    TipChainID := some job.TipChainID
    TipContractAddress := setOptionalUpdateJobStringField job.TipContractAddress
    AIEnabled := some job.AIEnabled
    AIModerationEnabled := some job.AIModerationEnabled
    AINsfwDetectionEnabled := some job.AINsfwDetectionEnabled
    AISpamDetectionEnabled := some job.AISpamDetectionEnabled
    AIPiiDetectionEnabled := some job.AIPiiDetectionEnabled
    AIContentDetectionEnabled := some job.AIContentDetectionEnabled
    RotateInstanceKey := some job.RotateInstanceKey
    RotatedInstanceKeyID := setOptionalUpdateJobStringField job.RotatedInstanceKeyID
    VerifyTranslationOK := setOptionalUpdateJobBoolPtrField job.VerifyTranslationOK
    VerifyTrustOK := setOptionalUpdateJobBoolPtrField job.VerifyTrustOK
    VerifyTipsOK := setOptionalUpdateJobBoolPtrField job.VerifyTipsOK
    VerifyAIOK := setOptionalUpdateJobBoolPtrField job.VerifyAIOK
    VerifyTranslationErr := setOptionalUpdateJobStringField job.VerifyTranslationErr
    VerifyTrustErr := setOptionalUpdateJobStringField job.VerifyTrustErr
    VerifyTipsErr := setOptionalUpdateJobStringField job.VerifyTipsErr
    VerifyAIErr := setOptionalUpdateJobStringField job.VerifyAIErr
    ReceiptJSON := setOptionalUpdateJobStringField job.ReceiptJSON
    ProcessingLeaseOwner := setOptionalUpdateJobStringField job.ProcessingLeaseOwner
    ProcessingLeaseUntil := if job.ProcessingLeaseUntil.IsZero then none else some job.ProcessingLeaseUntil
    Attempts := some job.Attempts
    MaxAttempts := some job.MaxAttempts
    ErrorCode := setOptionalUpdateJobStringField job.ErrorCode
    ErrorMessage := setOptionalUpdateJobStringField job.ErrorMessage
    CreatedAt := some job.CreatedAt
    UpdatedAt := some job.UpdatedAt
    ExpiresAt := some job.ExpiresAt
    TTL := some job.TTL
    RequestID := setOptionalUpdateJobStringField job.RequestID
    GSI2PK := setOptionalUpdateJobStringField job.GSI2PK
    GSI2SK := setOptionalUpdateJobStringField job.GSI2SK }

/-! ## Instances -/

/-- The instance with the fields that an update marks. -/
structure ManagedInstance extends Instance where
  BodyEnabled : Option Bool
  UpdateStatus : String
  UpdateJobID : String
  UpdatedAt : Time
  LesserUpdateStatus : String
  LesserUpdateJobID : String
  LesserUpdateAt : Time
  LesserBodyUpdateStatus : String
  LesserBodyUpdateJobID : String
  LesserBodyUpdateAt : Time
  MCPUpdateStatus : String
  MCPUpdateJobID : String
  MCPUpdateAt : Time

def setManagedUpdateInstanceMarker (job : UpdateJob) (status : String) (at_ : Time)
    (inst : ManagedInstance) : ManagedInstance :=
  let status := TrimSpace status
  let jobID := TrimSpace job.ID
  let at_ := fun old => if at_.IsZero then old else at_
  let inst := { inst with
    UpdateStatus := status, UpdateJobID := jobID, UpdatedAt := at_ inst.UpdatedAt }
  if job.MCPOnly then
    { inst with
      MCPUpdateStatus := status, MCPUpdateJobID := jobID, MCPUpdateAt := at_ inst.MCPUpdateAt }
  else if job.BodyOnly then
    { inst with
      LesserBodyUpdateStatus := status, LesserBodyUpdateJobID := jobID,
      LesserBodyUpdateAt := at_ inst.LesserBodyUpdateAt }
  else
    { inst with
      LesserUpdateStatus := status, LesserUpdateJobID := jobID,
      LesserUpdateAt := at_ inst.LesserUpdateAt }

def setSoulBindingIntegrationInstanceARN (secretARN : String) (inst : ManagedInstance) :
    ManagedInstance :=
  let secretARN := TrimSpace secretARN
  if HasPrefix secretARN soulBindingIntegrationSecretARNPrefix then
    { inst with SoulBindingIntegrationSecretARN := secretARN }
  else inst

/-! ## What a write does to the job in memory -/

def UpdateJobOf.stamped (job : UpdateJob) (requestID : String) (now : Time) : UpdateJob :=
  { job with RequestID := TrimSpace requestID, UpdatedAt := now }

def UpdateJobOf.failed (job : UpdateJob) (code msg : String) : UpdateJob :=
  { job with
    Status := UpdateJobStatusError
    Step := updateStepFailed
    FailedPhase :=
      if TrimSpace job.FailedPhase = "" ∧ TrimSpace job.ActivePhase ≠ "" then
        TrimSpace job.ActivePhase
      else job.FailedPhase
    ActivePhase := updatePhaseNone
    ErrorCode := TrimSpace code
    ErrorMessage := TrimSpace msg
    Note := TrimSpace msg }

/-! ## The table -/

/-- Update jobs by partition key, instances by slug. -/
structure UpdateStore where
  jobs : String → Option UpdateJobItem
  instances : String → Option ManagedInstance

def UpdateStore.putJob (store : UpdateStore) (key : String) (item : UpdateJobItem) : UpdateStore :=
  { store with jobs := fun k => if k = key then some item else store.jobs k }

/-- The worker: its settings, its clock, the jitter of its delays and the error of a refused
transaction. -/
structure UpdateServer where
  cfg : Config
  clock : Time
  jitteredBackoff : Int → Int → Int → Int
  transactionCanceled : GoErr

/-- `loadUpdateJob`, where the table answers. -/
def loadUpdateJob (store : UpdateStore) (jobID : String) : Option UpdateJob :=
  let jobID := TrimSpace jobID
  if jobID = "" then none
  else (store.jobs ("UPDATE_JOB#" ++ jobID)).map UpdateJobOf.load

/-- An update of an instance's row in the job's transaction. -/
def UpdateStore.updateInstance (store : UpdateStore) (slug : String)
    (update : ManagedInstance → ManagedInstance) : Option UpdateStore :=
  (store.instances slug).map fun inst =>
    { store with instances := fun k => if k = slug then some (update inst) else store.instances k }

namespace UpdateServer

variable (s : UpdateServer)

/-- The transaction of `persistUpdateJobAndInstance` and of `failUpdateJob`: both rows exist, and the
job's is the one that was loaded. -/
def writeUpdateJob (store : UpdateStore) (expectedUpdatedAt : Time) (job : UpdateJob)
    (instanceUpdate : Option (ManagedInstance → ManagedInstance)) : Option UpdateStore :=
  let key := (UpdateJobOf.UpdateKeys s.clock { newUpdateJob with ID := TrimSpace job.ID }).PK
  match store.jobs key with
  | none => none
  | some item =>
      if expectedUpdatedAt.IsZero = false ∧
          item.UpdatedAt.map Time.UTC ≠ some expectedUpdatedAt.UTC then none
      else
        let store := store.putJob key (setUpdateJobFieldsOnBuilder job item)
        match instanceUpdate with
        | none => some store
        | some update => store.updateInstance (TrimSpace job.InstanceSlug) update

/-- What a call leaves: the job in memory, the table, and how the call ended. -/
structure UpdateOutcome where
  job : UpdateJob
  store : UpdateStore
  delay : Int
  err : Option GoErr

/-- The job in memory has changed whether the transaction goes through or not. -/
def outcome (store : UpdateStore) (job : UpdateJob) (written : Option UpdateStore) :
    UpdateOutcome :=
  match written with
  | some store => ⟨job, store, 0, none⟩
  | none => ⟨job, store, 0, some s.transactionCanceled⟩

def persistUpdateJobAndInstance (store : UpdateStore) (job : UpdateJob) (requestID : String)
    (now : Time) (instanceUpdate : Option (UpdateJob → ManagedInstance → ManagedInstance)) :
    UpdateOutcome :=
  let expectedUpdatedAt := job.UpdatedAt
  let job := (job.stamped requestID now).UpdateKeys s.clock
  s.outcome store job
    (s.writeUpdateJob store expectedUpdatedAt job (instanceUpdate.map fun update => update job))

def failUpdateJob (store : UpdateStore) (job : UpdateJob) (requestID : String) (now : Time)
    (code msg : String) : UpdateOutcome :=
  let expectedUpdatedAt := job.UpdatedAt
  let job := ((job.failed code msg).stamped requestID now).UpdateKeys s.clock
  s.outcome store job (s.writeUpdateJob store expectedUpdatedAt job
    (some (setManagedUpdateInstanceMarker job UpdateJobStatusError now)))

def retryUpdateJobOrFail (store : UpdateStore) (job : UpdateJob) (requestID : String) (now : Time)
    (code msg : String) (baseDelay maxDelay : Int) : UpdateOutcome :=
  let job : UpdateJob := { job with Attempts := job.Attempts + 1 }
  if job.Attempts ≥ job.MaxAttempts then
    s.failUpdateJob store job requestID now (TrimSpace code) (TrimSpace msg)
  else
    { s.persistUpdateJobAndInstance store job requestID now none with
      delay := s.jitteredBackoff job.Attempts baseDelay maxDelay
      err := none }

/-! ## The configuration step -/

structure managedUpdateMetadata where
  accountID : String
  roleName : String
  region : String
  baseDomain : String

def resolveManagedUpdateMetadata (job : UpdateJob) (inst : ManagedInstance) :
    Except GoErr managedUpdateMetadata :=
  let md : managedUpdateMetadata :=
    { accountID := TrimSpace inst.HostedAccountID
      region := TrimSpace inst.HostedRegion
      baseDomain := TrimSpace inst.HostedBaseDomain
      roleName := orElse (TrimSpace job.AccountRoleName) (TrimSpace s.cfg.ManagedInstanceRoleName) }
  if md.accountID = "" ∨ md.region = "" ∨ md.baseDomain = "" ∨ md.roleName = "" then
    .error (errorf "managed instance account metadata is missing")
  else .ok md

def resolveUpdateHostURLs (job : UpdateJob) : String × String :=
  let publicURL := orElse (TrimSpace job.LesserHostBaseURL) (TrimSpace (publicBaseURL s.cfg))
  (publicURL, orElse (TrimSpace job.LesserHostAttestationsURL) publicURL)

/-- The runes that a stage keeps in the name of its secret. -/
def isStageRune (c : Char) : Bool :=
  (decide ('a' ≤ c) && decide (c ≤ 'z')) || (decide ('0' ≤ c) && decide (c ≤ '9')) || isTrimRune c
where
  isTrimRune (c : Char) : Bool := c == '-' || c == '_' || c == '.'

def managedInstanceKeySecretStage (controlPlaneStage : String) : String :=
  let stage := ToLower (TrimSpace controlPlaneStage)
  let stage := if stage = "prod" ∨ stage = "production" then "live" else stage
  let stage := if stage = "" then defaultControlPlaneStage else stage
  let out := ((stage.toList.filter isStageRune).dropWhile isStageRune.isTrimRune).rdropWhile
    isStageRune.isTrimRune
  if out = [] then defaultControlPlaneStage else String.ofList out

def managedInstanceKeySecretName (controlPlaneStage slug : String) : String :=
  let slug := ToLower (TrimSpace slug)
  if slug = "" then ""
  else managedInstanceKeySecretStage controlPlaneStage ++ "/" ++ slug ++ "/instance-key"

def resolveUpdateSoulBindingSecretRef (job : UpdateJob) (inst : ManagedInstance) : String :=
  let targetStage := normalizeManagedLesserStage s.cfg.Stage
  let ref := TrimSpace inst.SoulBindingIntegrationSecretARN
  let ref := if ref = "" then soulBindingIntegrationSecretName targetStage (TrimSpace job.InstanceSlug)
    else ref
  let binding : ReceiptBinding :=
    { kind := "managed instance"
      slug := TrimSpace job.InstanceSlug
      accountID := TrimSpace inst.HostedAccountID
      region := TrimSpace inst.HostedRegion
      stage := targetStage }
  match validateSoulBindingIntegrationSecretRef binding targetStage ref with
  | .error _ => ""
  | .ok () => ref

/-- `applyManagedUpdateRuntimeConfig`; a code stands for its failure. -/
def applyManagedUpdateRuntimeConfig (job : UpdateJob) (inst : ManagedInstance) :
    UpdateJob × Option (String × String) :=
  let job : UpdateJob := { job with
    LesserBodyVersion := if inst.BodyEnabled.getD true then job.LesserBodyVersion else ""
    TipEnabled := inst.TipEnabled.getD false
    TipChainID := inst.TipChainID
    TipContractAddress := TrimSpace inst.TipContractAddress }
  if job.TipEnabled ∧ (job.TipChainID ≤ 0 ∨ TrimSpace job.TipContractAddress = "") then
    (job, some ("tip_config_incomplete", "tip configuration is incomplete for managed update"))
  else
    ({ job with
      AIEnabled := inst.LesserAIEnabled.getD true
      AIModerationEnabled := inst.LesserAIModerationEnabled.getD true
      AINsfwDetectionEnabled := inst.LesserAINsfwDetectionEnabled.getD true
      AISpamDetectionEnabled := inst.LesserAISpamDetectionEnabled.getD true
      AIPiiDetectionEnabled := inst.LesserAIPiiDetectionEnabled.getD false
      AIContentDetectionEnabled := inst.LesserAIContentDetectionEnabled.getD false }, none)

def initializeManagedUpdatePhaseState (job : UpdateJob) : UpdateJob :=
  { job with
    DeployStatus := orElse job.DeployStatus
      (if job.BodyOnly ∨ job.MCPOnly then updatePhaseStatusSkipped else updatePhaseStatusPending)
    BodyStatus := orElse job.BodyStatus
      (if job.BodyOnly then updatePhaseStatusPending else updatePhaseStatusSkipped)
    MCPStatus := orElse job.MCPStatus
      (if job.MCPOnly then updatePhaseStatusPending else updatePhaseStatusSkipped) }

def setUpdateJobActivePhase (job : UpdateJob) (phase : String) : UpdateJob :=
  { job with ActivePhase := TrimSpace phase }

def updateInstanceConfigInstanceUpdate (publicBaseURL attestationsURL secretArn : String)
    (job : UpdateJob) (inst : ManagedInstance) : ManagedInstance :=
  let inst := if TrimSpace publicBaseURL = "" then inst else { inst with
    LesserHostBaseURL := TrimSpace publicBaseURL
    LesserHostAttestationsURL := TrimSpace attestationsURL }
  let inst := if HasPrefix (TrimSpace secretArn) "arn:aws:secretsmanager:" then
    { inst with LesserHostInstanceKeySecretARN := TrimSpace secretArn } else inst
  let inst := setSoulBindingIntegrationInstanceARN job.SoulBindingIntegrationSecretARN inst
  let inst := { inst with
    TranslationEnabled := some job.TranslationEnabled
    TipEnabled := some job.TipEnabled
    TipChainID := job.TipChainID
    TipContractAddress := TrimSpace job.TipContractAddress
    LesserAIEnabled := some job.AIEnabled
    LesserAIModerationEnabled := some job.AIModerationEnabled
    LesserAINsfwDetectionEnabled := some job.AINsfwDetectionEnabled
    LesserAISpamDetectionEnabled := some job.AISpamDetectionEnabled
    LesserAIPiiDetectionEnabled := some job.AIPiiDetectionEnabled
    LesserAIContentDetectionEnabled := some job.AIContentDetectionEnabled }
  setManagedUpdateInstanceMarker job (TrimSpace job.Status) job.UpdatedAt inst

/-- The step after the configuration: the deploy runner of the part that is updated. -/
def startDeployPhase (job : UpdateJob) : UpdateJob :=
  if job.MCPOnly then
    setUpdateJobActivePhase { job with
      Step := updateStepDeployMcpStart, Note := noteStartingMcpWiringDeployRunner } updatePhaseMCP
  else if job.BodyOnly then
    setUpdateJobActivePhase { job with
      Step := updateStepBodyDeployStart, Note := noteStartingLesserBodyDeployRunner } updatePhaseBody
  else
    setUpdateJobActivePhase { job with
      Step := updateStepDeployStart, Note := "starting update deploy runner" } updatePhaseDeploy

/-- `advanceUpdateInstanceConfig`, after what the table answered for the instance. -/
def advanceUpdateInstanceConfig (store : UpdateStore) (job : UpdateJob) (requestID : String)
    (now : Time) (loaded : Except GoErr (Option ManagedInstance)) : UpdateOutcome :=
  match loaded with
  | .error err =>
      s.retryUpdateJobOrFail store job requestID now "instance_load_failed"
        ("failed to load instance: " ++ err.text) provisionDefaultShortRetryDelay (2 * Minute)
  | .ok none =>
      s.failUpdateJob store job requestID now "instance_not_found" "instance record not found"
  | .ok (some inst) =>
    match s.resolveManagedUpdateMetadata job inst with
    | .error err =>
        s.failUpdateJob store job requestID now "missing_instance_metadata" err.text
    | .ok md =>
      let (publicBaseURL, attestationsURL) := s.resolveUpdateHostURLs job
      let secretArn := orElse (TrimSpace inst.LesserHostInstanceKeySecretARN)
        (managedInstanceKeySecretName s.cfg.Stage (TrimSpace job.InstanceSlug))
      if secretArn = "" then
        s.failUpdateJob store job requestID now "instance_key_secret_ref_failed"
          "failed to derive instance key secret reference"
      else
        let soulBindingRef := s.resolveUpdateSoulBindingSecretRef job inst
        if soulBindingRef = "" then
          s.failUpdateJob store job requestID now "soul_binding_secret_ref_failed"
            "failed to derive soul binding integration secret reference"
        else
          let job : UpdateJob := { job with
            AccountID := md.accountID
            Region := md.region
            BaseDomain := md.baseDomain
            LesserHostBaseURL := publicBaseURL
            LesserHostAttestationsURL := attestationsURL
            LesserHostInstanceKeySecretARN := TrimSpace secretArn
            SoulBindingIntegrationSecretARN := TrimSpace soulBindingRef }
          match applyManagedUpdateRuntimeConfig job inst with
          | (job, some (code, msg)) => s.failUpdateJob store job requestID now code msg
          | (job, none) =>
            s.persistUpdateJobAndInstance store
              (startDeployPhase (initializeManagedUpdatePhaseState job)) requestID now
              (some (updateInstanceConfigInstanceUpdate publicBaseURL attestationsURL secretArn))

end UpdateServer

end LesserHost.ProvisionWorker
