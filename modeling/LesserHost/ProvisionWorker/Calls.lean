import LesserHost.ProvisionWorker.Job
import LesserHost.Lib.Program

set_option autoImplicit false

/-! # What the worker asks for

The worker of `internal/provisionworker/server.go` as a program over its calls: to the table, to the
clock, to the queue, and to AWS. A call carries the job as it stands in memory when it is made; what it
returns is up to whoever answers. Errors are their text and, where `errors.As` finds a `smithy.APIError`
in them, its code and message.

Three pieces are calls of their own: the trust policy documents (`Services.policies`) and the JSON of
receipts (`Services.parseReceipt`) are parameters, and the preflight of a lesser-body release, which
only downloads, is one call. -/

namespace LesserHost.ProvisionWorker

open LesserHost.Go

/-! ## Errors -/

structure GoErr where
  text : String
  api : Option (String × String)
  deriving DecidableEq

/-- `fmt.Errorf` or `errors.New`. -/
def errorf (text : String) : GoErr := ⟨text, none⟩

/-- `fmt.Errorf("label: %w", err)`. -/
def GoErr.wrap (e : GoErr) (label : String) : GoErr := ⟨label ++ ": " ++ e.text, e.api⟩

def isOrgAccessDenied (err : GoErr) : Bool :=
  err.api.any fun (code, _) =>
    let code := ToLower (TrimSpace code)
    code == "accessdeniedexception" || code == "accessdenied"

/-- `compactErr`. -/
def compactErr (err : GoErr) : String :=
  let msg := TrimSpace err.text
  if msg = "" then "unknown error"
  else if len msg > 350 then sliceTo msg 350 ++ "…"
  else msg

/-! ## Data of the calls -/

structure Instance where
  Slug : String
  HostedAccountID : String
  HostedRegion : String
  HostedBaseDomain : String
  LesserHostBaseURL : String
  LesserHostAttestationsURL : String
  LesserHostInstanceKeySecretARN : String
  SoulBindingIntegrationSecretARN : String
  TranslationEnabled : Option Bool
  TipEnabled : Option Bool
  TipChainID : Int
  TipContractAddress : String
  LesserAIEnabled : Option Bool
  LesserAIModerationEnabled : Option Bool
  LesserAINsfwDetectionEnabled : Option Bool
  LesserAISpamDetectionEnabled : Option Bool
  LesserAIPiiDetectionEnabled : Option Bool
  LesserAIContentDetectionEnabled : Option Bool

/-- A field of the instance that an update sets. -/
inductive FieldValue where
  | text (s : String)
  | flag (b : Bool)
  deriving DecidableEq

abbrev InstanceUpdate := List (String × FieldValue)

/-- The row of `tryAcquireProvisionJobLease`: its keys and the four fields it updates. -/
structure LeaseUpdate where
  ID : String
  LeaseOwner : String
  LeaseExpiresAt : Time
  RequestID : String
  UpdatedAt : Time
  deriving DecidableEq

inductive CreateAccountState where
  | succeeded
  | inProgress
  | failed
  | other (name : String)
  deriving DecidableEq

structure CreateAccountStatus where
  State : CreateAccountState
  AccountId : String
  FailureReason : String
  deriving DecidableEq

inductive AccountStatus where
  | unset
  | active
  | other (name : String)
  deriving DecidableEq

structure Account where
  Id : String
  Name : String
  Email : String
  Status : AccountStatus
  deriving DecidableEq

structure StartBuildInput where
  ProjectName : String
  Env : List (String × String)
  IdempotencyToken : String
  deriving DecidableEq

/-- Identifier and ARN of a build, where they are set. -/
structure BuildRef where
  Id : Option String
  Arn : Option String
  deriving DecidableEq

/-- A build as `BatchGetBuilds` shows it. -/
structure BuildInfo where
  BuildStatus : String
  DeepLink : String
  deriving DecidableEq

structure HostedZone where
  Name : Option String
  Id : Option String
  deriving DecidableEq

/-! ## Calls -/

inductive Request where
  /-- `store.GetProvisionJob` -/
  | getProvisionJob (jobID : String)
  /-- one page of the sweep's listing -/
  | listProvisionJobs (cursor : String)
  | acquireLease (update : LeaseUpdate) (now : Time)
  /-- `TransactWrite`: the whole row is put, and fields of the instance are set -/
  | putJob (job : ProvisionJob) (slug : String) (inst : InstanceUpdate)
  | loadInstance (slug : String)
  | createInstanceKey (slug keyID : String)
  /-- `time.Now().UTC()` -/
  | now
  | sendMessage (queueURL jobID : String) (delaySeconds : Int)
  | createAccount (name email role : String)
  | describeCreateAccountStatus (requestID : String)
  /-- `findAccountByID`: `ListAccounts`, page after page until the account is found or the pages end -/
  | listAccounts (accountID : String)
  | listParents (accountID : String)
  | moveAccount (accountID source destination : String)
  | assumeRole (roleArn sessionName : String)
  | listHostedZonesByName (domain : String)
  | createHostedZone (domain callerReference : String)
  | getHostedZone (zoneID : String)
  | changeResourceRecordSets (zoneID name : String) (nameServers : List String)
  | getRole (roleName : String)
  | updateAssumeRolePolicy (roleName policy : String)
  | preflightManagedLesserBodyRelease (version stage : String)
  | startBuild (input : StartBuildInput)
  | batchGetBuilds (runID : String)
  | getObject (bucket key : String)
  deriving DecidableEq

/-- How a conditional write ends. -/
inductive Written where
  | ok
  | conditionFailed
  | error (e : GoErr)
  deriving DecidableEq

def Request.Answer : Request → Type
  | .getProvisionJob _ => Except GoErr (Option ProvisionJob)
  | .listProvisionJobs _ => Except GoErr (List ProvisionJob × String)
  | .acquireLease _ _ => Written
  | .putJob _ _ _ => Except GoErr Unit
  | .loadInstance _ => Except GoErr (Option Instance)
  | .createInstanceKey _ _ => Written
  | .now => Time
  | .sendMessage _ _ _ => Except GoErr Unit
  -- the id of the request, empty where it is missing
  | .createAccount _ _ _ => Except GoErr String
  | .describeCreateAccountStatus _ => Except GoErr (Option CreateAccountStatus)
  | .listAccounts _ => Except GoErr (List Account)
  -- the first parent, empty where there is none
  | .listParents _ => Except GoErr String
  | .moveAccount _ _ _ => Except GoErr Unit
  -- does the answer bring credentials?
  | .assumeRole _ _ => Except GoErr Bool
  | .listHostedZonesByName _ => Except GoErr (List HostedZone)
  | .createHostedZone _ _ => Except GoErr (String × List String)
  | .getHostedZone _ => Except GoErr (List String)
  | .changeResourceRecordSets _ _ _ => Except GoErr Unit
  | .getRole _ => Except GoErr String
  | .updateAssumeRolePolicy _ _ => Except GoErr Unit
  | .preflightManagedLesserBodyRelease _ _ => Except GoErr Unit
  | .startBuild _ => Except GoErr (Option BuildRef)
  | .batchGetBuilds _ => Except GoErr (Option BuildInfo)
  | .getObject _ _ => Except GoErr String

/-- A call: the job in memory and what is asked for. -/
structure Call where
  memory : ProvisionJob
  request : Request

abbrev Call.Answer (c : Call) : Type := c.request.Answer

/-- A part of the worker. It fails with the error it returns. -/
abbrev Worker (α : Type) := Prog Call Call.Answer GoErr α

/-- Ask, with the job as it stands. -/
def ask (job : ProvisionJob) (request : Request) : Worker request.Answer :=
  Prog.perform (⟨job, request⟩ : Call)

/-! ## The services that are parameters -/

structure ManagedInstanceKeyReceipt where
  Version : Int
  Source : String
  SecretARN : String
  KeyID : String
  InstanceSlug : String
  Stage : String

/-- The receipt of `lesser up`. Both proofs have the same fields. -/
structure LesserUpReceipt where
  App : String
  BaseDomain : String
  AccountID : String
  Region : String
  HostedZoneID : String
  ManagedInstanceKey : Option ManagedInstanceKeyReceipt
  SoulBindingIntegration : Option ManagedInstanceKeyReceipt

/-- The functions of `deploy_runner_trust.go` on policy documents. -/
structure TrustPolicies where
  resolveManagementRootPrincipalARN : (vendingRoleARN rawPolicy : String) → Except GoErr String
  ensureAssumeRolePolicyAllowsPrincipal :
    (rawPolicy principalARN externalID managementPrincipalARN : String) → Except GoErr (String × Bool)
  verifyDeployRunnerAssumeRoleTrustPolicy :
    (rawPolicy principalARN externalID managementPrincipalARN : String) → Except GoErr Unit

/-- The server: its settings, and what it computes with. -/
structure Server where
  cfg : Config
  sha256 : Sha256
  parseReceipt : String → Except GoErr LesserUpReceipt
  policies : TrustPolicies
  managedOrgVendingRoleARN : String
  /-- `gcm.Open`: key, nonce and ciphertext; the plaintext if the tag is right -/
  gcmOpen : (key nonce ciphertext : List UInt8) → Option String

/-! ## Storing a job -/

/-- What every store of `persistJobAndInstance` does to the job in memory. -/
def stamp (s : Server) (job : ProvisionJob) (requestID : String) (now : Time) : ProvisionJob :=
  (clearProvisionJobConsentPlaintext s.sha256
    { job with RequestID := TrimSpace requestID, UpdatedAt := now }).UpdateKeys

/-- `persistJobAndInstance`: the job in memory and the error of the write. -/
def persistJobAndInstance (s : Server) (job : ProvisionJob) (requestID : String) (now : Time)
    (instanceUpdate : ProvisionJob → InstanceUpdate) : Worker (ProvisionJob × Except GoErr Unit) := do
  let job := stamp s job requestID now
  let result ← ask job (.putJob job (TrimSpace job.InstanceSlug) (instanceUpdate job))
  return (job, result)

def noUpdate : ProvisionJob → InstanceUpdate := fun _ => []

/-- The job as `failJob` stores it. -/
def failed (s : Server) (job : ProvisionJob) (requestID : String) (now : Time) (code msg : String) :
    ProvisionJob :=
  (clearProvisionJobConsentArtifacts s.sha256
    { job with
      Status := ProvisionJobStatusError
      Step := provisionStepFailed
      ErrorCode := TrimSpace code
      ErrorMessage := TrimSpace msg
      Note := TrimSpace msg
      RequestID := TrimSpace requestID
      UpdatedAt := now }).UpdateKeys

/-- `failJob`. -/
def failJob (s : Server) (job : ProvisionJob) (requestID : String) (now : Time) (code msg : String) :
    Worker ProvisionJob := do
  let job := failed s job requestID now code msg
  match ← ask job (.putJob job (TrimSpace job.InstanceSlug)
      [("ProvisionStatus", .text ProvisionJobStatusError), ("ProvisionJobID", .text (TrimSpace job.ID))])
    with
  | .ok () => return job
  | .error e => .fail e

/-- `requeueProvisionJob`. -/
def requeueProvisionJob (s : Server) (job : ProvisionJob) (jobID : String) (delay : Int) :
    Worker Unit := do
  let url := TrimSpace s.cfg.ProvisionQueueURL
  if url = "" then .fail (errorf "provision queue url is not configured")
  else if TrimSpace jobID = "" then return ()
  else match ← ask job (.sendMessage url (TrimSpace jobID) (sqsDelaySeconds delay)) with
    | .ok () => return ()
    | .error e => .fail e

/-! ## Results of a step -/

/-- What a step returns: the job in memory, the delay, and whether the run is over. -/
structure StepResult where
  job : ProvisionJob
  delay : Int
  done : Bool

/-- Store the job and go on; an error of the write ends the run. -/
def persistOrStop (s : Server) (job : ProvisionJob) (requestID : String) (now : Time)
    (instanceUpdate : ProvisionJob → InstanceUpdate) (delay : Int) (done : Bool) : Worker StepResult := do
  let (job, result) ← persistJobAndInstance s job requestID now instanceUpdate
  match result with
  | .ok () => return ⟨job, delay, done⟩
  | .error e => .fail e

/-- Store the job, whatever becomes of the write, and come back after the delay. -/
def persistAndWait (s : Server) (job : ProvisionJob) (requestID : String) (now : Time) (delay : Int) :
    Worker StepResult := do
  let (job, _) ← persistJobAndInstance s job requestID now noUpdate
  return ⟨job, delay, false⟩

/-- `return 0, false, s.failJob(…)`. -/
def failStep (s : Server) (job : ProvisionJob) (requestID : String) (now : Time) (code msg : String) :
    Worker StepResult := do
  let job ← failJob s job requestID now code msg
  return ⟨job, 0, false⟩

/-- Count an attempt; fail with the last one, else store the job with `note` and wait. -/
def retryOrFail (s : Server) (job : ProvisionJob) (requestID : String) (now : Time) (code msg : String)
    (note : Option String) (baseDelay maxDelay : Int) : Worker StepResult :=
  let job := { job with Attempts := int64 (job.Attempts + 1) }
  if job.MaxAttempts ≤ job.Attempts then failStep s job requestID now code msg
  else persistAndWait s { job with Note := note.getD job.Note } requestID now
    (jitteredBackoff job.Attempts baseDelay maxDelay)

/-- `retryProvisionJobOrFail`. -/
def retryProvisionJobOrFail (s : Server) (job : ProvisionJob) (requestID : String) (now : Time)
    (code msg : String) (baseDelay maxDelay : Int) : Worker StepResult :=
  retryOrFail s job requestID now (TrimSpace code) (TrimSpace msg) none baseDelay maxDelay

def failOrgPermissions (s : Server) (job : ProvisionJob) (requestID : String) (now : Time)
    (action : String) (err : GoErr) : Worker StepResult :=
  failStep s job requestID now "org_permissions_missing"
    ("organizations " ++ TrimSpace action ++ " access denied: " ++ compactErr err)

end LesserHost.ProvisionWorker
