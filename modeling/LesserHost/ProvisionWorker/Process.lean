import LesserHost.ProvisionWorker.Deploy

set_option autoImplicit false

/-! # One invocation for a provisioning job

`processProvisionJob` in `server.go`: the job is loaded and leased, started if it was queued, and advanced by at
most six steps before it is queued again. -/

namespace LesserHost.ProvisionWorker

open LesserHost.Go

/-- The job in memory before it is loaded. -/
def noJob : ProvisionJob :=
  ⟨"", "", 0, "", "", "", "", "", "", "", "", "", false, ⟨0, .utc⟩, ⟨0, .utc⟩, "", "", 0, "", "", "", "", ⟨0, .utc⟩,
    "", "", "", "", "", "", "", [], "", 0, 0, "", ⟨0, .utc⟩, "", "", ⟨0, .utc⟩, ⟨0, .utc⟩, ⟨0, .utc⟩, ""⟩

variable (s : Server) (requestID : String)

/-! ## The loop -/

section Loop

variable (now : Time)

def managedProvisionStepHandlers : List (String × (ProvisionJob → Worker StepResult)) :=
  [(provisionStepQueued, advanceProvisionQueued s requestID now),
    (provisionStepAccountCreate, advanceProvisionAccountCreate s requestID now),
    (provisionStepAccountCreatePoll, advanceProvisionAccountCreatePoll s requestID now),
    (provisionStepAccountMove, advanceProvisionAccountMove s requestID now),
    (provisionStepAssumeRole, advanceProvisionAssumeRole s requestID now),
    (provisionStepChildZone, advanceProvisionChildZone s requestID now),
    (provisionStepParentDelegation, advanceProvisionParentDelegation s requestID now),
    (provisionStepInstanceConfig, advanceProvisionInstanceConfig s requestID now),
    (provisionStepDeployStart, advanceProvisionDeployStart s requestID now),
    (provisionStepDeployWait, advanceProvisionDeployWait s requestID now),
    (provisionStepReceiptIngest, advanceProvisionReceiptIngest s requestID now),
    (provisionStepBodyDeployStart, advanceProvisionBodyDeployStart s requestID now),
    (provisionStepBodyDeployWait, advanceProvisionBodyDeployWait s requestID now),
    (provisionStepDeployMcpStart, advanceProvisionDeployMcpStart s requestID now),
    (provisionStepDeployMcpWait, advanceProvisionDeployMcpWait s requestID now)]

def advanceManagedProvisioning (job : ProvisionJob) : Worker StepResult :=
  let step := TrimSpace job.Step
  if step = provisionStepDone ∨ step = provisionStepFailed then return ⟨job, 0, true⟩
  else match (managedProvisionStepHandlers s requestID now).lookup step with
  | none => failStep s job requestID now "unknown_step" ("unknown provisioning step: " ++ step)
  | some handler => handler job

/-- The steps that are left, and the job as the last one left it. -/
def advanceManagedProvisioningLoop : Nat → ProvisionJob → Worker Unit
  | 0, job => requeueProvisionJob s job (TrimSpace job.ID) provisionDefaultShortRetryDelay
  | steps + 1, job => do
      let r ← advanceManagedProvisioning s requestID now job
      if r.done then return ()
      else if 0 < r.delay then requeueProvisionJob s r.job (TrimSpace r.job.ID) r.delay
      else advanceManagedProvisioningLoop steps r.job

def startManagedProvisioningJobIfQueued (job : ProvisionJob) : Worker ProvisionJob := do
  if ToLower (TrimSpace job.Status) ≠ ProvisionJobStatusQueued then return job
  else
    let (job, result) ← persistJobAndInstance s
      { job with Status := ProvisionJobStatusRunning, Note := "starting provisioning", Step := provisionStepQueued }
      requestID now (fun job => [("ProvisionStatus", .text ProvisionJobStatusRunning),
        ("ProvisionJobID", .text (TrimSpace job.ID))] ++
        setIfNotEmpty "HostedBaseDomain" (TrimSpace job.BaseDomain) ++
        setIfNotEmpty "HostedRegion" (TrimSpace job.Region))
    match result with
    | .ok () => return job
    | .error err => .fail err

def runManagedProvisioningStateMachine (job : ProvisionJob) : Worker Unit := do
  if job.ExpiresAt.IsZero = false ∧ job.ExpiresAt.Before now then
    let _ ← failJob s job requestID now "expired" "provisioning job has expired"
    return ()
  else
    let job ← startManagedProvisioningJobIfQueued s requestID now (initializeManagedProvisionJob s.cfg job)
    advanceManagedProvisioningLoop s requestID now provisionMaxTransitionsPerRun job

/-! ## The lease -/

/-- `tryAcquireProvisionJobLease`: the job with its lease, or nothing if another invocation holds it. -/
def tryAcquireProvisionJobLease (job : ProvisionJob) : Worker (Option ProvisionJob) := do
  let owner := provisionJobLeaseOwner requestID job.ID
  let expiresAt := now.Add provisionJobLeaseDuration
  let jobExpiresAt := if job.ExpiresAt.IsZero then now.Add (30 * 24 * Hour) else job.ExpiresAt
  match ← ask job (.acquireLease ⟨TrimSpace job.ID, TrimSpace owner, expiresAt, TrimSpace requestID, now⟩ now) with
  | .conditionFailed => return none
  | .error err => .fail err
  | .ok => return some { job with
      LeaseOwner := owner
      LeaseExpiresAt := expiresAt
      ExpiresAt := jobExpiresAt
      RequestID := TrimSpace requestID
      UpdatedAt := now }

end Loop

def processProvisionJob (jobID : String) : Worker Unit := do
  match ← ask noJob (.getProvisionJob (TrimSpace jobID)) with
  | .error err => .fail err
  | .ok none => return ()
  | .ok (some job) =>
      if provisionJobProcessable job = false then return ()
      else
        let now ← ask job .now
        if s.cfg.ManagedProvisioningEnabled = false then
          let _ ← failJob s job requestID now "disabled"
            "managed provisioning is disabled (set MANAGED_PROVISIONING_ENABLED=true)"
          return ()
        else
          let missing := missingManagedProvisioningConfig s.cfg job
          if missing ≠ [] then
            let _ ← failJob s job requestID now "missing_config"
              ("missing required config: " ++ Join missing ", ")
            return ()
          else match ← tryAcquireProvisionJobLease requestID now job with
          | none => return ()
          | some job => runManagedProvisioningStateMachine s requestID now job

end LesserHost.ProvisionWorker
