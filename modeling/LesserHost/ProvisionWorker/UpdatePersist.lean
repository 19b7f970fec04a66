import LesserHost.ProvisionWorker.UpdateJob

set_option autoImplicit false

/-! # What an update job loses on its way through the table

`setUpdateJobFieldsOnBuilder` lists the fields of a job by hand. Every text it writes is trimmed, and
`UpdateKeys` has trimmed it before; an attribute that is removed reads back as the zero value. So a job
comes back as it was, except for the one field the list leaves out: the reference of the secret that
`advanceUpdateInstanceConfig` resolves for the deploy runner. -/

namespace LesserHost.ProvisionWorker

open LesserHost.Go

/-! ## One attribute -/

@[simp] theorem getD_setOptionalString (value : String) :
    (setOptionalUpdateJobStringField value).getD "" = TrimSpace value := by
  unfold setOptionalUpdateJobStringField
  by_cases h : TrimSpace value = ""
  · simp [h]
  · simp [h]

@[simp] theorem getD_setOptionalBoolPtr (value : Option Bool) :
    (setOptionalUpdateJobBoolPtrField value).getD none = value := by
  cases value <;> rfl

theorem UTC_getD_lease (until_ : Time) :
    ((if until_.IsZero then none else some until_).getD zeroTime).UTC = until_.UTC := by
  by_cases h : until_.IsZero = true
  · have hzero : until_.nanos = 0 := by simpa [Time.IsZero] using h
    simp [h, zeroTime, Time.UTC, hzero]
  · simp [h]

/-! ## Index keys are trimmed -/

theorem TrimSpace_activeKey (active : Bool) :
    TrimSpace (if active then "UPDATE_ACTIVE" else "") = if active then "UPDATE_ACTIVE" else "" := by
  cases active <;> decide

theorem TrimSpace_empty : TrimSpace "" = "" := by decide

theorem TrimSpace_indexKey (t : Time) (id : String) :
    TrimSpace (t.FormatRFC3339Nano ++ "#" ++ TrimSpace id)
      = t.FormatRFC3339Nano ++ "#" ++ TrimSpace id := by
  obtain ⟨c, rest, hyear, hc⟩ := padDecimal_head 4
    ((civilDate ((t.nanos / Second + fourCenturies).toNat / 86400)).1 - 400)
  have hhead : t.FormatRFC3339Nano.toList.head? = some c := by
    rw [Time.FormatRFC3339Nano, String.toList_ofList, Time.FormatRFC3339]
    simp [String.toList_append, hyear, List.dropLast]
  have hhead := head?_append (t := TrimSpace id) (head?_append (t := "#") hhead)
  cases hlast : (TrimSpace id).toList.getLast? with
  | none =>
      have hempty : TrimSpace id = "" := String.toList_eq_nil_iff.1 (List.getLast?_eq_none_iff.1 hlast)
      rw [hempty, String.append_empty] at hhead ⊢
      exact (isTrimmed_of_ends hhead (getLast?_append (a := '#') rfl) hc (by decide)).TrimSpace_eq
  | some b =>
      have hb : isSpace b = false := (isTrimmed_TrimSpace id).2 b hlast
      exact (isTrimmed_of_ends hhead (getLast?_append hlast) hc hb).TrimSpace_eq

/-! ## The whole row -/

section Rows

-- a comparison of two rows is one of their fields, never of the texts' characters
attribute [local irreducible] TrimSpace ToLower

namespace UpdateJobOf

/-- Two times are compared by their instant. -/
def inUTC (job : UpdateJob) : UpdateJob :=
  { job with
    ProcessingLeaseUntil := job.ProcessingLeaseUntil.UTC
    CreatedAt := job.CreatedAt.UTC
    UpdatedAt := job.UpdatedAt.UTC
    ExpiresAt := job.ExpiresAt.UTC }

/-- Whose row it is: nothing of this is ever updated. -/
def identity (job : UpdateJob) : List String :=
  [job.PK, job.SK, job.GSI1PK, job.GSI1SK, job.ID, job.InstanceSlug]

theorem updateGSI2_GSI2PK (clock : Time) (job : UpdateJob) :
    (job.updateGSI2 clock).GSI2PK = if job.isActive then "UPDATE_ACTIVE" else "" := rfl

theorem updateGSI2_GSI2SK (clock : Time) (job : UpdateJob) :
    (job.updateGSI2 clock).GSI2SK = if job.isActive then
      (if job.UpdatedAt.IsZero then clock else job.UpdatedAt).FormatRFC3339Nano ++ "#"
        ++ TrimSpace job.ID else "" := rfl

theorem TrimSpace_GSI2PK (clock : Time) (job : UpdateJob) :
    TrimSpace (job.updateGSI2 clock).GSI2PK = (job.updateGSI2 clock).GSI2PK := by
  rw [updateGSI2_GSI2PK, TrimSpace_activeKey]

theorem TrimSpace_GSI2SK (clock : Time) (job : UpdateJob) :
    TrimSpace (job.updateGSI2 clock).GSI2SK = (job.updateGSI2 clock).GSI2SK := by
  rw [updateGSI2_GSI2SK]
  cases job.isActive
  · exact TrimSpace_empty
  · exact TrimSpace_indexKey _ job.ID

theorem trimmed_UpdateKeys (clock : Time) (job : UpdateJob) :
    (job.UpdateKeys clock).trimmed = job.UpdateKeys clock := by
  simp only [UpdateKeys, trimmed, keyed, updateGSI1, updateGSI2, isActive, TrimSpace_idem,
    TrimSpace_ToLower_TrimSpace, ToLower_idem]

/-- The row of a trimmed job, written over an older row of the same job. -/
theorem load_setUpdateJobFieldsOnBuilder {job : UpdateJob} {item : UpdateJobItem}
    (texts : job.trimmed = job) (hGSI2PK : TrimSpace job.GSI2PK = job.GSI2PK)
    (hGSI2SK : TrimSpace job.GSI2SK = job.GSI2SK) (same : item.load.identity = job.identity) :
    (setUpdateJobFieldsOnBuilder job item).load.inUTC
      = inUTC { job with
          SoulBindingIntegrationSecretARN := item.load.SoulBindingIntegrationSecretARN } := by
  simp only [identity, List.cons.injEq, and_true] at same
  obtain ⟨hPK, hSK, hGSI1PK, hGSI1SK, hID, hSlug⟩ := same
  have lower : ∀ {s : String}, ToLower (TrimSpace s) = s → TrimSpace s = s := by
    intro s h
    rw [← h, TrimSpace_ToLower_TrimSpace]
  have hStatus : TrimSpace job.Status = job.Status := lower (congrArg UpdateJobOf.Status texts)
  have hBaseDomain : TrimSpace job.BaseDomain = job.BaseDomain :=
    lower (congrArg UpdateJobOf.BaseDomain texts)
  cases job
  simp only [trimmed, UpdateJobOf.mk.injEq, true_and] at texts
  -- every other text is trimmed, every other value is set as it is
  simp only [load] at hPK hSK hGSI1PK hGSI1SK hID hSlug
  simp only [load, inUTC, setUpdateJobFieldsOnBuilder, hPK, hSK, hGSI1PK, hGSI1SK, hID, hSlug, hGSI2PK,
    hGSI2SK, hStatus, hBaseDomain, getD_setOptionalString, getD_setOptionalBoolPtr, Option.getD_some,
    UTC_getD_lease, texts]

/-- What no step assigns. -/
structure SameJob (a b : UpdateJob) : Prop where
  ID : a.ID = b.ID
  InstanceSlug : a.InstanceSlug = b.InstanceSlug
  CreatedAt : a.CreatedAt = b.CreatedAt

theorem SameJob.identity {a b : UpdateJob} (same : SameJob a b) {clock clock' : Time}
    (created : a.CreatedAt.IsZero = false) :
    (a.UpdateKeys clock).identity = (b.UpdateKeys clock').identity := by
  have hb : b.CreatedAt.IsZero = false := same.CreatedAt ▸ created
  have hcreated : (if a.CreatedAt.IsZero then clock else a.CreatedAt)
      = if b.CreatedAt.IsZero then clock' else b.CreatedAt := by
    rw [created, hb, same.CreatedAt]
    rfl
  simp only [UpdateJobOf.identity, UpdateKeys, updateGSI2, updateGSI1, keyed, trimmed, same.ID,
    same.InstanceSlug, hcreated]
  rfl

/-- A job of the table: it has an ID, and keys as they were when it was created. -/
structure Created (job : UpdateJob) : Prop where
  id : TrimSpace job.ID ≠ ""
  at_ : job.CreatedAt.IsZero = false
  keys : ∃ clock, job.identity = (job.UpdateKeys clock).identity

theorem created_BeforeCreate {clock : Time} {job : UpdateJob} (id : TrimSpace job.ID ≠ "")
    (now : clock.IsZero = false) : Created (job.BeforeCreate clock) := by
  have hcreated : (job.BeforeCreate clock).CreatedAt.IsZero = false := by
    change (if job.CreatedAt.IsZero then clock else job.CreatedAt).IsZero = false
    split_ifs with h
    · exact now
    · simpa using h
  refine ⟨?_, hcreated, clock, ?_⟩
  · change TrimSpace (TrimSpace job.ID) ≠ ""
    rwa [TrimSpace_idem]
  · simp only [UpdateJobOf.identity, BeforeCreate, UpdateKeys, updateGSI2, updateGSI1, keyed, trimmed,
      TrimSpace_idem, TrimSpace_ToLower_TrimSpace, ToLower_idem]

end UpdateJobOf

/-! ## The transaction -/

section Transaction

variable {s : UpdateServer} {store store' : UpdateStore}

theorem updateInstance_jobs {slug : String} {update : ManagedInstance → ManagedInstance}
    (h : store.updateInstance slug update = some store') : store'.jobs = store.jobs := by
  obtain ⟨inst, -, rfl⟩ := Option.map_eq_some_iff.1 h
  rfl

theorem writeUpdateJob_some {expected : Time} {job : UpdateJob}
    {update : Option (ManagedInstance → ManagedInstance)}
    (h : s.writeUpdateJob store expected job update = some store') :
    ∃ item, store.jobs ("UPDATE_JOB#" ++ TrimSpace job.ID) = some item ∧
      store'.jobs ("UPDATE_JOB#" ++ TrimSpace job.ID)
        = some (setUpdateJobFieldsOnBuilder job item) := by
  have hkey : (UpdateJobOf.UpdateKeys s.clock { newUpdateJob with ID := TrimSpace job.ID }).PK
      = "UPDATE_JOB#" ++ TrimSpace job.ID := congrArg (fun id => "UPDATE_JOB#" ++ id) (TrimSpace_idem job.ID)
  rw [UpdateServer.writeUpdateJob, hkey] at h
  cases hrow : store.jobs ("UPDATE_JOB#" ++ TrimSpace job.ID) with
  | none =>
      rw [hrow] at h
      cases h
  | some item =>
      rw [hrow] at h
      refine ⟨item, rfl, ?_⟩
      have hput : ((store.putJob ("UPDATE_JOB#" ++ TrimSpace job.ID)
          (setUpdateJobFieldsOnBuilder job item)).jobs ("UPDATE_JOB#" ++ TrimSpace job.ID))
          = some (setUpdateJobFieldsOnBuilder job item) := if_pos rfl
      simp only at h
      split_ifs at h
      cases update with
      | none =>
          obtain rfl := Option.some.inj h
          exact hput
      | some update => rw [updateInstance_jobs h, hput]

/-- A job comes back from the table equal in every field. -/
def Lossless (out : UpdateServer.UpdateOutcome) : Prop :=
  (loadUpdateJob out.store out.job.ID).map UpdateJobOf.inUTC = some out.job.inUTC

theorem loadUpdateJob_some {jobID : String} {item : UpdateJobItem} (id : TrimSpace jobID ≠ "")
    (row : store.jobs ("UPDATE_JOB#" ++ TrimSpace jobID) = some item) :
    loadUpdateJob store jobID = some item.load := by
  simp only [loadUpdateJob, if_neg id, row, Option.map_some]

/-- A job whose row was written: memory and table agree but for the one field the list lacks. -/
theorem lossless_iff {expected : Time} {job : UpdateJob} {item : UpdateJobItem}
    {update : Option (ManagedInstance → ManagedInstance)}
    (row : store.jobs ("UPDATE_JOB#" ++ TrimSpace job.ID) = some item)
    (created : item.load.Created) (same : item.load.SameJob job)
    (written : s.writeUpdateJob store expected (job.UpdateKeys s.clock) update = some store')
    (delay : Int) (err : Option GoErr) :
    Lossless ⟨job.UpdateKeys s.clock, store', delay, err⟩ ↔
      item.load.SoulBindingIntegrationSecretARN
        = TrimSpace job.SoulBindingIntegrationSecretARN := by
  have hid : TrimSpace (job.UpdateKeys s.clock).ID = TrimSpace job.ID := TrimSpace_idem job.ID
  obtain ⟨before, hbefore, hafter⟩ := writeUpdateJob_some written
  rw [hid] at hbefore hafter
  obtain rfl : item = before := Option.some.inj (row.symm.trans hbefore)
  have hne : TrimSpace (job.UpdateKeys s.clock).ID ≠ "" := by
    rw [hid, ← same.ID]
    exact created.id
  obtain ⟨clock, hkeys⟩ := created.keys
  have hload := UpdateJobOf.load_setUpdateJobFieldsOnBuilder
    (UpdateJobOf.trimmed_UpdateKeys s.clock job)
    (UpdateJobOf.TrimSpace_GSI2PK _ _) (UpdateJobOf.TrimSpace_GSI2SK _ _)
    (hkeys.trans (same.identity created.at_))
  rw [Lossless, loadUpdateJob_some hne (by rw [hid]; exact hafter), Option.map_some,
    Option.some_inj, hload]
  constructor
  · intro h
    exact congrArg (fun j : UpdateJob => j.SoulBindingIntegrationSecretARN) h
  · intro h
    rw [h]
    rfl

theorem Lossless.reference {out : UpdateServer.UpdateOutcome} (h : Lossless out) :
    (loadUpdateJob out.store out.job.ID).map (fun job => job.SoulBindingIntegrationSecretARN)
      = some out.job.SoulBindingIntegrationSecretARN := by
  obtain ⟨loaded, hloaded, hsame⟩ := Option.map_eq_some_iff.1 h
  have hfield := congrArg (fun job : UpdateJob => job.SoulBindingIntegrationSecretARN) hsame
  rw [hloaded, Option.map_some, Option.some_inj]
  exact hfield

end Transaction

/-! ## Persistence -/

section Persistence

variable {s : UpdateServer} {store : UpdateStore} {job : UpdateJob} {item : UpdateJobItem}
  {requestID : String} {now : Time}

theorem outcome_written {written : Option UpdateStore} {job : UpdateJob}
    (h : (s.outcome store job written).err = none) :
    ∃ store', written = some store' ∧ s.outcome store job written = ⟨job, store', 0, none⟩ := by
  cases written with
  | none => cases h
  | some store' => exact ⟨store', rfl, rfl⟩

/-- A job that was changed in memory and written back, from whatever step: what the table gives back
is the job in memory if and only if the row held the job's secret reference already. -/
theorem persisted_lossless
    {instanceUpdate : Option (UpdateJob → ManagedInstance → ManagedInstance)}
    (row : store.jobs ("UPDATE_JOB#" ++ TrimSpace job.ID) = some item)
    (created : item.load.Created) (same : item.load.SameJob job)
    (written : (s.persistUpdateJobAndInstance store job requestID now instanceUpdate).err = none) :
    Lossless (s.persistUpdateJobAndInstance store job requestID now instanceUpdate) ↔
      item.load.SoulBindingIntegrationSecretARN
        = TrimSpace job.SoulBindingIntegrationSecretARN := by
  have same' : item.load.SameJob (job.stamped requestID now) :=
    ⟨same.ID, same.InstanceSlug, same.CreatedAt⟩
  have row' : store.jobs ("UPDATE_JOB#" ++ TrimSpace (job.stamped requestID now).ID) = some item :=
    row
  unfold UpdateServer.persistUpdateJobAndInstance at written ⊢
  obtain ⟨store', hwritten, hout⟩ := outcome_written written
  rw [hout]
  exact lossless_iff row' created same' hwritten 0 none

end Persistence

end Rows

/-! ## A first configuration step -/

def sampleUpdateServer : UpdateServer where
  cfg :=
    { ManagedProvisioningEnabled := true, Stage := "live", WebAuthnRPID := "lesser.host",
      ProvisionQueueURL := "queue", ArtifactBucketName := "bucket",
      ManagedParentDomain := "greater.website", ManagedParentHostedZoneID := "Z1",
      ManagedAccountEmailTemplate := "aws+{slug}@example.com", ManagedAccountNamePrefix := "lesser-",
      ManagedInstanceRoleName := "role", ManagedTargetOrganizationalUnitID := "",
      ManagedDefaultRegion := "us-east-1", ManagedProvisionRunnerProjectName := "runner",
      ManagedProvisionRunnerRoleARN := "", ManagedProvisionConsentEncryptionKeyHex := "",
      ManagedLesserGitHubOwner := "equaltoai", ManagedLesserGitHubRepo := "lesser",
      ManagedLesserBodyGitHubOwner := "equaltoai", ManagedLesserBodyGitHubRepo := "lesser-body",
      ManagedLesserBodyDefaultVersion := "" }
  clock := ⟨Hour, .utc⟩
  jitteredBackoff := fun _ base _ => base
  transactionCanceled := errorf "transaction canceled"

/-- A job as the portal creates it, that has reached the configuration step. -/
def sampleUpdateJob : UpdateJob :=
  UpdateJobOf.BeforeCreate ⟨Minute, .utc⟩ { newUpdateJob with
    ID := "job1", InstanceSlug := "theory", Status := UpdateJobStatusRunning,
    Step := provisionStepInstanceConfig, LesserVersion := "v1.2.3" }

def sampleManagedInstance : ManagedInstance where
  Slug := "theory"
  HostedAccountID := "922120356241"
  HostedRegion := "us-east-1"
  HostedBaseDomain := "theory.example.com"
  LesserHostBaseURL := ""
  LesserHostAttestationsURL := ""
  LesserHostInstanceKeySecretARN := ""
  SoulBindingIntegrationSecretARN := ""
  TranslationEnabled := none
  TipEnabled := none
  TipChainID := 0
  TipContractAddress := ""
  LesserAIEnabled := none
  LesserAIModerationEnabled := none
  LesserAINsfwDetectionEnabled := none
  LesserAISpamDetectionEnabled := none
  LesserAIPiiDetectionEnabled := none
  LesserAIContentDetectionEnabled := none
  BodyEnabled := none
  UpdateStatus := ""
  UpdateJobID := ""
  UpdatedAt := zeroTime
  LesserUpdateStatus := ""
  LesserUpdateJobID := ""
  LesserUpdateAt := zeroTime
  LesserBodyUpdateStatus := ""
  LesserBodyUpdateJobID := ""
  LesserBodyUpdateAt := zeroTime
  MCPUpdateStatus := ""
  MCPUpdateJobID := ""
  MCPUpdateAt := zeroTime

def sampleUpdateStore : UpdateStore where
  jobs key := if key = "UPDATE_JOB#job1" then some sampleUpdateJob.stored else none
  instances slug := if slug = "theory" then some sampleManagedInstance else none

/-- The configuration step of that job. -/
def sampleConfigured : UpdateServer.UpdateOutcome :=
  sampleUpdateServer.advanceUpdateInstanceConfig sampleUpdateStore sampleUpdateJob "req1"
    ⟨Hour, .utc⟩ (.ok (some sampleManagedInstance))

/-- The step goes through and the deploy runner is next; in memory the job has the reference of its
secret, in the table it has none. -/
theorem not_persisted_lossless :
    sampleConfigured.err = none ∧ sampleConfigured.job.Step = updateStepDeployStart ∧
      sampleConfigured.job.SoulBindingIntegrationSecretARN = "live/theory/soul-binding-integration" ∧
      (loadUpdateJob sampleConfigured.store sampleConfigured.job.ID).map
        (fun job => job.SoulBindingIntegrationSecretARN) = some "" ∧
      ¬ Lossless sampleConfigured := by
  have hmemory : sampleConfigured.job.SoulBindingIntegrationSecretARN
      = "live/theory/soul-binding-integration" := by decide
  have htable : (loadUpdateJob sampleConfigured.store sampleConfigured.job.ID).map
      (fun job => job.SoulBindingIntegrationSecretARN) = some "" := by decide
  refine ⟨by decide, by decide, hmemory, htable, ?_⟩
  intro lossless
  have href := lossless.reference
  rw [htable, hmemory] at href
  exact absurd (Option.some.inj href) (by decide)

/-- The same job after an attempt that is to be repeated. -/
def sampleRetriedJob : UpdateJob := { sampleUpdateJob with Attempts := 1, Note := " retrying " }

theorem sample_created : sampleUpdateJob.stored.load.Created :=
  UpdateJobOf.created_BeforeCreate (by decide) (by decide)

/-- A step that leaves the reference alone loses nothing. -/
theorem persisted_lossless_retried :
    Lossless (sampleUpdateServer.persistUpdateJobAndInstance sampleUpdateStore sampleRetriedJob "req1"
      ⟨Hour, .utc⟩ none) := by
  have key : "UPDATE_JOB#" ++ TrimSpace sampleRetriedJob.ID = "UPDATE_JOB#job1" := by decide
  have row : sampleUpdateStore.jobs ("UPDATE_JOB#" ++ TrimSpace sampleRetriedJob.ID)
      = some sampleUpdateJob.stored := by
    rw [key]
    rfl
  have same : sampleUpdateJob.stored.load.SameJob sampleRetriedJob := ⟨rfl, rfl, rfl⟩
  have written : (sampleUpdateServer.persistUpdateJobAndInstance sampleUpdateStore sampleRetriedJob
      "req1" ⟨Hour, .utc⟩ none).err = none := by decide
  have reference : sampleUpdateJob.stored.load.SoulBindingIntegrationSecretARN
      = TrimSpace sampleRetriedJob.SoulBindingIntegrationSecretARN := by decide
  exact (persisted_lossless row sample_created same written).2 reference

end LesserHost.ProvisionWorker
