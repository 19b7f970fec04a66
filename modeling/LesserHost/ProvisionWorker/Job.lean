import LesserHost.Go.Text

set_option autoImplicit false

/-! # Provisioning jobs

`internal/store/models/provision_job.go` and the parts of `internal/provisionworker` that compute with a
job without asking anybody: its keys, its consent artifacts, its lease, and the defaults of a first run.
A row is the job as it was stored. Fields that the worker neither reads nor writes are left out. -/

namespace LesserHost.ProvisionWorker

open LesserHost.Go

/-! ## Statuses and steps -/

def ProvisionJobStatusQueued : String := "queued"
def ProvisionJobStatusRunning : String := "running"
def ProvisionJobStatusOK : String := "ok"
def ProvisionJobStatusError : String := "error"

def provisionStepQueued : String := "queued"
def provisionStepAccountCreate : String := "account.create"
def provisionStepAccountCreatePoll : String := "account.create.poll"
def provisionStepAccountMove : String := "account.move"
def provisionStepAssumeRole : String := "account.assumeRole"
def provisionStepChildZone : String := "dns.childZone"
def provisionStepParentDelegation : String := "dns.parentDelegation"
def provisionStepInstanceConfig : String := "instance.config"
def provisionStepDeployStart : String := "deploy.start"
def provisionStepDeployWait : String := "deploy.wait"
def provisionStepReceiptIngest : String := "receipt.ingest"
def provisionStepBodyDeployStart : String := "body.deploy.start"
def provisionStepBodyDeployWait : String := "body.deploy.wait"
def provisionStepDeployMcpStart : String := "deploy.mcp.start"
def provisionStepDeployMcpWait : String := "deploy.mcp.wait"
def provisionStepDone : String := "done"
def provisionStepFailed : String := "failed"

def provisionMaxTransitionsPerRun : Nat := 6
def provisionMaxAccountCreateAge : Int := 90 * Minute
def provisionMaxAssumeRoleAge : Int := 30 * Minute
def provisionMaxDeployAge : Int := 3 * Hour
def provisionDefaultPollDelay : Int := 45 * Second
def provisionDefaultShortRetryDelay : Int := 20 * Second
def provisionJobLeaseDuration : Int := 10 * Second
def provisionSweepWalkPageSize : Nat := 100
def provisionSweepWalkMaxPages : Nat := 20
def provisionSweepStaleAfter : Int := 2 * Minute

def SKJob : String := "JOB"
def noteMissingAccountIDRestart : String := "missing account id; restarting account allocation"
def noteEnsuringInstanceConfiguration : String := "ensuring instance configuration"
def noteDeployRunnerInProgress : String := "deploy runner in progress"
def noteStartingMcpWiringDeployRunner : String := "starting MCP wiring deploy runner"
def noteProvisioned : String := "provisioned"
def noteStartingLesserBodyDeployRunner : String := "starting lesser-body deploy runner"
def noteLesserBodyDeployRunnerInProgress : String := "lesser-body deploy runner in progress"
def noteMCPDeployRunnerInProgress : String := "MCP wiring deploy runner in progress"

def defaultControlPlaneStage : String := "lab"
def defaultManagedInstanceRoleName : String := "OrganizationAccountAccessRole"

/-! ## The row -/

structure ProvisionJob where
  PK : String
  SK : String
  TTL : Int
  ID : String
  InstanceSlug : String
  Status : String
  Step : String
  Note : String
  RunID : String
  Region : String
  Stage : String
  LesserVersion : String
  BodyEnabled : Bool
  BodyProvisionedAt : Time
  McpWiredAt : Time
  AdminUsername : String
  AdminWalletAddr : String
  AdminWalletChainID : Int
  ConsentMessage : String
  ConsentMessageHash : String
  ConsentSignature : String
  ConsentEncrypted : String
  ConsentExpiresAt : Time
  AccountRequestID : String
  AccountID : String
  AccountEmail : String
  AccountRoleName : String
  ParentHostedZoneID : String
  BaseDomain : String
  ChildHostedZoneID : String
  ChildNameServers : List String
  ReceiptJSON : String
  Attempts : Int
  MaxAttempts : Int
  LeaseOwner : String
  LeaseExpiresAt : Time
  ErrorCode : String
  ErrorMessage : String
  CreatedAt : Time
  UpdatedAt : Time
  ExpiresAt : Time
  RequestID : String
  deriving DecidableEq

/-- The settings the worker reads. -/
structure Config where
  ManagedProvisioningEnabled : Bool
  Stage : String
  WebAuthnRPID : String
  ProvisionQueueURL : String
  ArtifactBucketName : String
  ManagedParentDomain : String
  ManagedParentHostedZoneID : String
  ManagedAccountEmailTemplate : String
  ManagedAccountNamePrefix : String
  ManagedInstanceRoleName : String
  ManagedTargetOrganizationalUnitID : String
  ManagedDefaultRegion : String
  ManagedProvisionRunnerProjectName : String
  ManagedProvisionRunnerRoleARN : String
  ManagedProvisionConsentEncryptionKeyHex : String
  ManagedLesserGitHubOwner : String
  ManagedLesserGitHubRepo : String
  ManagedLesserBodyGitHubOwner : String
  ManagedLesserBodyGitHubRepo : String
  ManagedLesserBodyDefaultVersion : String

namespace ProvisionJob

/-- `UpdateKeys`. -/
def UpdateKeys (j : ProvisionJob) : ProvisionJob :=
  { j with
    ID := TrimSpace j.ID
    InstanceSlug := TrimSpace j.InstanceSlug
    Status := ToLower (TrimSpace j.Status)
    Step := TrimSpace j.Step
    Note := TrimSpace j.Note
    RunID := TrimSpace j.RunID
    Region := TrimSpace j.Region
    Stage := TrimSpace j.Stage
    LesserVersion := TrimSpace j.LesserVersion
    AdminUsername := TrimSpace j.AdminUsername
    AdminWalletAddr := ToLower (TrimSpace j.AdminWalletAddr)
    ConsentMessageHash := TrimSpace j.ConsentMessageHash
    ConsentSignature := TrimSpace j.ConsentSignature
    ConsentEncrypted := TrimSpace j.ConsentEncrypted
    AccountRequestID := TrimSpace j.AccountRequestID
    AccountID := TrimSpace j.AccountID
    AccountEmail := TrimSpace j.AccountEmail
    AccountRoleName := TrimSpace j.AccountRoleName
    ParentHostedZoneID := TrimSpace j.ParentHostedZoneID
    BaseDomain := ToLower (TrimSpace j.BaseDomain)
    ChildHostedZoneID := TrimSpace j.ChildHostedZoneID
    ReceiptJSON := TrimSpace j.ReceiptJSON
    LeaseOwner := TrimSpace j.LeaseOwner
    ErrorCode := TrimSpace j.ErrorCode
    ErrorMessage := TrimSpace j.ErrorMessage
    RequestID := TrimSpace j.RequestID
    MaxAttempts := if j.MaxAttempts ≤ 0 then 10 else j.MaxAttempts
    PK := "PROVISION_JOB#" ++ TrimSpace j.ID
    SK := SKJob
    TTL := (j.ExpiresAt.nanos - unixEpoch) / Second }
where
  /-- The first of January 1970. -/
  unixEpoch : Int := 62135596800 * Second

/-- Does a lease suppress duplicate work? -/
def HasActiveLease (j : ProvisionJob) (now : Time) : Bool :=
  TrimSpace j.LeaseOwner != "" && j.LeaseExpiresAt.After now

end ProvisionJob

def provisionJobProcessable (job : ProvisionJob) : Bool :=
  let status := ToLower (TrimSpace job.Status)
  status == ProvisionJobStatusQueued || status == ProvisionJobStatusRunning

def isProvisionJobStorageRow (item : ProvisionJob) : Bool :=
  HasPrefix (TrimSpace item.PK) "PROVISION_JOB#" && TrimSpace item.SK == SKJob

/-! ## Consent artifacts -/

section Consent

variable (sha256 : Sha256)

/-- `clearProvisionJobConsentPlaintext`: the hash of the message stays. -/
def clearProvisionJobConsentPlaintext (job : ProvisionJob) : ProvisionJob :=
  { job with
    ConsentMessageHash :=
      if TrimSpace job.ConsentMessageHash = "" ∧ job.ConsentMessage ≠ "" then
        String.ofList (hexEncode (sha256 (bytes job.ConsentMessage)).toList)
      else job.ConsentMessageHash
    ConsentMessage := ""
    ConsentSignature := "" }

def clearProvisionJobConsentArtifacts (job : ProvisionJob) : ProvisionJob :=
  { clearProvisionJobConsentPlaintext sha256 job with ConsentEncrypted := "" }

end Consent

def provisionJobHasConsentArtifacts (job : ProvisionJob) : Bool :=
  TrimSpace job.ConsentMessage != "" || TrimSpace job.ConsentSignature != "" ||
    TrimSpace job.ConsentEncrypted != ""

def provisionJobConsentExpired (job : ProvisionJob) (now : Time) : Bool :=
  provisionJobHasConsentArtifacts job && !job.ConsentExpiresAt.IsZero &&
    !now.Before job.ConsentExpiresAt

def provisionJobStaleForSweep (item : ProvisionJob) (now : Time) : Bool :=
  let lastSeen := if item.UpdatedAt.IsZero then item.CreatedAt else item.UpdatedAt
  lastSeen.IsZero || decide (provisionSweepStaleAfter ≤ now.Sub lastSeen)

/-! ## Defaults -/

def normalizeManagedLesserStage (value : String) : String :=
  let stage := ToLower (TrimSpace value)
  if stage = "live" ∨ stage = "prod" ∨ stage = "production" then "live"
  else if stage = "staging" ∨ stage = "stage" then "staging"
  else "dev"

def managedBaseDomain (slug parentDomain : String) : String :=
  let parentDomain := TrimSpace parentDomain
  let parentDomain := if parentDomain = "" then "greater.website" else parentDomain
  TrimSpace slug ++ "." ++ TrimPrefix parentDomain "."

def orElse (value default : String) : String := if TrimSpace value = "" then default else value

/-- `initializeManagedProvisionJob`. -/
def initializeManagedProvisionJob (cfg : Config) (job : ProvisionJob) : ProvisionJob :=
  { job with
    Step := orElse job.Step provisionStepQueued
    Region := orElse job.Region (TrimSpace cfg.ManagedDefaultRegion)
    Stage := normalizeManagedLesserStage (orElse job.Stage cfg.Stage)
    ParentHostedZoneID := orElse job.ParentHostedZoneID (TrimSpace cfg.ManagedParentHostedZoneID)
    AccountRoleName := orElse job.AccountRoleName
      (orElse (TrimSpace cfg.ManagedInstanceRoleName) defaultManagedInstanceRoleName)
    BaseDomain := orElse job.BaseDomain
      (managedBaseDomain (TrimSpace job.InstanceSlug) (TrimSpace cfg.ManagedParentDomain)) }

def publicBaseURL (cfg : Config) : String :=
  let rootDomain := orElse (TrimSpace cfg.WebAuthnRPID) "lesser.host"
  let stage := orElse (ToLower (TrimSpace cfg.Stage)) defaultControlPlaneStage
  if stage = "live" ∨ stage = "prod" ∨ stage = "production" then "https://" ++ rootDomain
  else "https://" ++ stage ++ "." ++ rootDomain

def missingManagedProvisioningConfig (cfg : Config) (job : ProvisionJob) : List String :=
  (if TrimSpace cfg.ManagedParentHostedZoneID = "" then ["MANAGED_PARENT_HOSTED_ZONE_ID"] else []) ++
  (if TrimSpace cfg.ManagedAccountEmailTemplate = "" ∧ TrimSpace job.AccountID = "" ∧
      TrimSpace job.AccountRequestID = "" then ["MANAGED_ACCOUNT_EMAIL_TEMPLATE"] else []) ++
  (if TrimSpace cfg.ManagedInstanceRoleName = "" then ["MANAGED_INSTANCE_ROLE_NAME"] else []) ++
  (if TrimSpace cfg.ManagedProvisionRunnerProjectName = "" then
    ["MANAGED_PROVISION_RUNNER_PROJECT_NAME"] else []) ++
  (if TrimSpace cfg.ArtifactBucketName = "" then ["ARTIFACT_BUCKET_NAME"] else [])

def expandManagedAccountEmailTemplate (tmpl slug : String) : String :=
  let tmpl := TrimSpace tmpl
  if tmpl = "" then "" else ReplaceAll tmpl "\x7bslug\x7d" (TrimSpace slug)

def managedAccountName (namePrefix slug : String) : String :=
  let name := TrimSpace (TrimSpace namePrefix ++ TrimSpace slug)
  if len name > 50 then sliceTo name 50 else name

/-! ## Leases and delays -/

def provisionJobLeaseOwner (requestID jobID : String) : String :=
  let owner := orElse (TrimSpace requestID) "worker"
  let jobID := TrimSpace jobID
  let owner := if jobID ≠ "" then owner ++ ":" ++ jobID else owner
  if len owner > 128 then sliceTo owner 128 else owner

/-- The doubled delay, at most `maxDelay`. -/
def doubledDelay (maxDelay : Int) : Nat → Int → Int
  | 0, delay => delay
  | n + 1, delay => if maxDelay ≤ 2 * delay then maxDelay else doubledDelay maxDelay n (2 * delay)

/-- `jitteredBackoff`: on every second attempt a tenth is added. -/
def jitteredBackoff (attempt minDelay maxDelay : Int) : Int :=
  if attempt ≤ 0 then minDelay
  else
    let delay := doubledDelay maxDelay (attempt - 1).toNat minDelay
    let delay := if attempt % 2 = 0 then delay + delay.tdiv 10 else delay
    if delay < minDelay then minDelay else if maxDelay < delay then maxDelay else delay

/-- `sqsDelaySeconds`. -/
def sqsDelaySeconds (delay : Int) : Int :=
  let seconds := (delay + Second / 2) / Second
  if seconds < 0 then 0 else if 900 < seconds then 900 else seconds

end LesserHost.ProvisionWorker
