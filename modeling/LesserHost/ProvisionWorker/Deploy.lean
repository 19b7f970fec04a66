import LesserHost.ProvisionWorker.Consent
import LesserHost.ProvisionWorker.Runner

set_option autoImplicit false

/-! # From the first deployment to the end

The steps that start a runner and wait for it: the deployment of the instance with the owner's consent,
the receipt it leaves, and, where the instance has a body, the deployment of the body and its wiring. -/

namespace LesserHost.ProvisionWorker

open LesserHost.Go

variable (s : Server) (requestID : String) (now : Time)

/-! ## The runner's status -/

def codebuildStatusSucceeded : String := "SUCCEEDED"
def codebuildStatusInProgress : String := "IN_PROGRESS"
def codebuildStatusFailed : String := "FAILED"
def codebuildStatusFault : String := "FAULT"
def codebuildStatusStopped : String := "STOPPED"
def codebuildStatusTimedOut : String := "TIMED_OUT"
def codebuildStatusUnknown : String := "UNKNOWN"

def normalizeCodebuildStatus (st : String) : String := orElse (TrimSpace st) codebuildStatusUnknown

/-- Status and link to the log. -/
def getDeployRunnerStatus (job : ProvisionJob) (runID : String) :
    Worker (Except GoErr (String × String)) := do
  let runID := TrimSpace runID
  if runID = "" then return .error (errorf "runID is required")
  else match ← ask job (.batchGetBuilds runID) with
  | .error err => return .error err
  | .ok none => return .error (errorf "deploy runner not found")
  | .ok (some build) =>
      return .ok (normalizeCodebuildStatus build.BuildStatus, TrimSpace build.DeepLink)

/-- What the three waiting steps call their runner: in messages, in the codes of errors, and in the note
    while it runs. -/
structure Runner where
  name : String
  code : String
  inProgressNote : String

/-- Poll the runner. All waiting steps do the same, apart from what follows a success. -/
def awaitDeployRunner (runner : Runner) (job : ProvisionJob) (succeeded : Worker StepResult) :
    Worker StepResult := do
  match ← getDeployRunnerStatus job (TrimSpace job.RunID) with
  | .error err =>
      retryOrFail s job requestID now (runner.code ++ "_status_failed")
        ("failed to poll " ++ runner.name ++ ": " ++ err.text)
        (some ("failed to poll " ++ runner.name ++ "; retrying: " ++ compactErr err))
        provisionDefaultPollDelay (10 * Minute)
  | .ok (status, deepLink) =>
      if status = codebuildStatusSucceeded then succeeded
      else if status = codebuildStatusFailed ∨ status = codebuildStatusFault ∨
          status = codebuildStatusStopped ∨ status = codebuildStatusTimedOut then
        failStep s job requestID now (runner.code ++ "_failed")
          (runner.name ++ " failed" ++ if deepLink ≠ "" then " (CodeBuild: " ++ deepLink ++ ")" else "")
      else if olderThan now job provisionMaxDeployAge then
        failStep s job requestID now (runner.code ++ "_timeout") (runner.name ++ " timed out")
      else
        persistAndWait s
          { job with
            Note := if status = codebuildStatusInProgress then runner.inProgressNote
              else runner.name ++ " status: " ++ status }
          requestID now provisionDefaultPollDelay

/-- Store the job at the step that waits for its runner, and come back later. -/
def goToWait (job : ProvisionJob) (step note : String) : Worker StepResult :=
  persistOrStop s { job with Step := step, Note := note } requestID now noUpdate provisionDefaultPollDelay
    false

/-! ## The instance -/

/-- `advanceProvisionDeployStart` once the consent is in memory and no runner has been started. -/
def startDeploy (job : ProvisionJob) : Worker StepResult := do
  match ← loadInstance job (TrimSpace job.InstanceSlug) with
  | .error err =>
      retryProvisionJobOrFail s job requestID now "instance_load_failed"
        ("failed to load instance: " ++ err.text) provisionDefaultShortRetryDelay (2 * Minute)
  | .ok none => failStep s job requestID now "instance_not_found" "instance record not found"
  | .ok (some _) =>
      if provisionJobHasConsentArtifacts job && job.ConsentExpiresAt.IsZero then
        failStep s (clearProvisionJobConsentArtifacts s.sha256 job) requestID now
          "provision_consent_expiration_missing" "provisioning consent expiration is missing"
      else if provisionJobConsentExpired job now then
        failStep s (clearProvisionJobConsentArtifacts s.sha256 job) requestID now
          "provision_consent_expired" "provisioning consent expired before deploy runner start"
      else match ← startDeployRunner s job with
      | .error err =>
          retryOrFail s job requestID now "deploy_start_failed"
            ("failed to start deploy runner: " ++ err.text)
            (some ("failed to start deploy runner; retrying: " ++ compactErr err))
            provisionDefaultShortRetryDelay (10 * Minute)
      | .ok runID =>
          goToWait s requestID now
            (clearProvisionJobConsentArtifacts s.sha256 { job with RunID := TrimSpace runID })
            provisionStepDeployWait noteDeployRunnerInProgress

def advanceProvisionDeployStart (job : ProvisionJob) : Worker StepResult :=
  match decryptConsentFromJob s job with
  | .error err =>
      failStep s (clearProvisionJobConsentArtifacts s.sha256 job) requestID now "consent_decrypt_failed"
        err.text
  | .ok job =>
      if TrimSpace job.RunID ≠ "" then
        goToWait s requestID now (clearProvisionJobConsentArtifacts s.sha256 job)
          provisionStepDeployWait "deploy runner already started"
      else startDeploy s requestID now job

def deployRunner : Runner := ⟨"deploy runner", "deploy", noteDeployRunnerInProgress⟩

def advanceProvisionDeployWait (job : ProvisionJob) : Worker StepResult :=
  awaitDeployRunner s requestID now deployRunner job
    (goTo s requestID now job provisionStepReceiptIngest "ingesting deployment receipt")

/-! ## The receipt -/

def applyLesserUpReceipt (job : ProvisionJob) (receiptJSON : String) (receipt : LesserUpReceipt) :
    ProvisionJob :=
  { job with
    ReceiptJSON := TrimSpace receiptJSON
    ErrorCode := ""
    ErrorMessage := ""
    AccountID := if TrimSpace receipt.AccountID ≠ "" then TrimSpace receipt.AccountID else job.AccountID
    Region := if TrimSpace receipt.Region ≠ "" then TrimSpace receipt.Region else job.Region
    ChildHostedZoneID :=
      if TrimSpace receipt.HostedZoneID ≠ "" then normalizeHostedZoneID (TrimSpace receipt.HostedZoneID)
      else job.ChildHostedZoneID }

def provisionStatusUpdate (continuing : Bool) (job : ProvisionJob) : InstanceUpdate :=
  [("ProvisionJobID", .text (TrimSpace job.ID)),
    ("ProvisionStatus", .text (if continuing then ProvisionJobStatusRunning else ProvisionJobStatusOK))]

def provisionReceiptIngestInstanceUpdate (continuing : Bool)
    (instanceKeySecretARN soulBindingSecretARN : String) (job : ProvisionJob) : InstanceUpdate :=
  provisionStatusUpdate continuing job ++
  setIfNotEmpty "HostedAccountID" (TrimSpace job.AccountID) ++
  setIfNotEmpty "HostedRegion" (TrimSpace job.Region) ++
  setIfNotEmpty "HostedBaseDomain" (TrimSpace job.BaseDomain) ++
  setIfNotEmpty "HostedZoneID" (TrimSpace job.ChildHostedZoneID) ++
  setIfNotEmpty "LesserHostInstanceKeySecretARN" (TrimSpace instanceKeySecretARN) ++
  (if HasPrefix (TrimSpace soulBindingSecretARN) soulBindingIntegrationSecretARNPrefix then
    [("SoulBindingIntegrationSecretARN", .text (TrimSpace soulBindingSecretARN))] else [])

/-- Where the receipt leads: to the body, to its wiring, or to the end. -/
def afterReceipt (job : ProvisionJob) : ProvisionJob :=
  if job.BodyEnabled && job.McpWiredAt.IsZero then
    if job.BodyProvisionedAt.IsZero then
      { job with RunID := "", Step := provisionStepBodyDeployStart, Note := noteStartingLesserBodyDeployRunner }
    else
      { job with RunID := "", Step := provisionStepDeployMcpStart, Note := noteStartingMcpWiringDeployRunner }
  else
    { job with Step := provisionStepDone, Status := ProvisionJobStatusOK, Note := noteProvisioned }

def advanceProvisionReceiptIngest (job : ProvisionJob) : Worker StepResult := do
  match ← loadReceiptFromS3 s job (TrimSpace s.cfg.ArtifactBucketName) (receiptS3Key job) with
  | .error err =>
      retryOrFail s job requestID now "receipt_load_failed" ("failed to load receipt: " ++ err.text)
        (some ("failed to load receipt; retrying: " ++ compactErr err)) provisionDefaultShortRetryDelay
        (5 * Minute)
  | .ok (receiptJSON, receipt) =>
      let job := applyLesserUpReceipt job receiptJSON receipt
      match ← applyProvisionManagedInstanceKeyReceipt s job receipt.ManagedInstanceKey with
      | .error err =>
          failStep s job requestID now "receipt_instance_key_invalid"
            ("failed to validate managed instance key receipt: " ++ err.text)
      | .ok instanceKeySecretARN =>
          match applyProvisionSoulBindingIntegrationReceipt s job receipt.SoulBindingIntegration with
          | .error err =>
              failStep s job requestID now "receipt_soul_binding_invalid"
                ("failed to validate soul binding integration receipt: " ++ err.text)
          | .ok soulBindingSecretARN =>
              let continuing := job.BodyEnabled && job.McpWiredAt.IsZero
              persistOrStop s (afterReceipt job) requestID now
                (provisionReceiptIngestInstanceUpdate continuing instanceKeySecretARN soulBindingSecretARN)
                0 !continuing

/-! ## The body and its wiring -/

def advanceProvisionDone (job : ProvisionJob) : Worker StepResult :=
  persistOrStop s
    { job with Step := provisionStepDone, Status := ProvisionJobStatusOK, Note := noteProvisioned }
    requestID now (provisionStatusUpdate false) 0 true

/-- `advanceProvisionStartDeployRunner`. -/
def advanceProvisionStartDeployRunner (job : ProvisionJob) (mode receiptKey waitStep failCode name
    inProgressNote : String) : Worker StepResult := do
  match ← startDeployRunnerWithMode s job (TrimSpace mode) (TrimSpace receiptKey) with
  | .error err =>
      retryOrFail s job requestID now (TrimSpace failCode) ("failed to start " ++ name ++ ": " ++ err.text)
        (some ("failed to start " ++ name ++ "; retrying: " ++ compactErr err))
        provisionDefaultShortRetryDelay (10 * Minute)
  | .ok runID =>
      goToWait s requestID now { job with RunID := TrimSpace runID } (TrimSpace waitStep)
        (TrimSpace inProgressNote)

/-- Store the job at the start of another phase, without a runner. -/
def goToPhase (job : ProvisionJob) (step note : String) : Worker StepResult :=
  goTo s requestID now { job with RunID := "" } step note

def advanceProvisionBodyDeployStartStartRunner (job : ProvisionJob) : Worker StepResult := do
  match ← ask job (.preflightManagedLesserBodyRelease (TrimSpace s.cfg.ManagedLesserBodyDefaultVersion)
      (deployRunnerStage s job)) with
  | .error err =>
      failStep s job requestID now "body_release_preflight_failed"
        ("lesser-body release preflight failed: " ++ err.text)
  | .ok () =>
      advanceProvisionStartDeployRunner s requestID now job deployRunnerModeLesserBody
        (bodyReceiptS3Key job) provisionStepBodyDeployWait "body_deploy_start_failed"
        "lesser-body deploy runner" noteLesserBodyDeployRunnerInProgress

def advanceProvisionBodyDeployStart (job : ProvisionJob) : Worker StepResult :=
  if job.BodyEnabled = false then advanceProvisionDone s requestID now job
  else if job.BodyProvisionedAt.IsZero = false then
    goToPhase s requestID now job provisionStepDeployMcpStart noteStartingMcpWiringDeployRunner
  else if TrimSpace job.RunID ≠ "" then
    goToWait s requestID now job provisionStepBodyDeployWait "lesser-body deploy runner already started"
  else advanceProvisionBodyDeployStartStartRunner s requestID now job

def bodyDeployRunner : Runner :=
  ⟨"lesser-body deploy runner", "body_deploy", noteLesserBodyDeployRunnerInProgress⟩

def advanceProvisionBodyDeployWait (job : ProvisionJob) : Worker StepResult :=
  awaitDeployRunner s requestID now bodyDeployRunner job
    (goToPhase s requestID now { job with BodyProvisionedAt := now } provisionStepDeployMcpStart
      noteStartingMcpWiringDeployRunner)

def advanceProvisionDeployMcpStart (job : ProvisionJob) : Worker StepResult :=
  if job.BodyEnabled = false then advanceProvisionDone s requestID now job
  else if job.BodyProvisionedAt.IsZero then
    goToPhase s requestID now job provisionStepBodyDeployStart noteStartingLesserBodyDeployRunner
  else if job.McpWiredAt.IsZero = false then advanceProvisionDone s requestID now job
  else if TrimSpace job.RunID ≠ "" then
    goToWait s requestID now job provisionStepDeployMcpWait "MCP wiring deploy runner already started"
  else
    advanceProvisionStartDeployRunner s requestID now job deployRunnerModeLesserMCP (mcpReceiptS3Key job)
      provisionStepDeployMcpWait "mcp_deploy_start_failed" "MCP wiring deploy runner"
      noteMCPDeployRunnerInProgress

def mcpDeployRunner : Runner :=
  ⟨"MCP wiring deploy runner", "mcp_deploy", noteMCPDeployRunnerInProgress⟩

def advanceProvisionDeployMcpWait (job : ProvisionJob) : Worker StepResult :=
  awaitDeployRunner s requestID now mcpDeployRunner job
    (advanceProvisionDone s requestID now { job with McpWiredAt := now, RunID := "" })

end LesserHost.ProvisionWorker
