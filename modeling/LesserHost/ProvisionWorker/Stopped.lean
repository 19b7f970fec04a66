import LesserHost.Lib.Monitor
import LesserHost.ProvisionWorker.Process

set_option autoImplicit false

/-! # A failed job stops

Once `failJob` has stored a job, the invocation makes no further call to the outside and stores nothing but the
failed job, as long as the move of the account to its organizational unit does not fail the job. Where it does,
`advanceProvisionAccountMove` goes on to the next step. -/

namespace LesserHost.ProvisionWorker

open LesserHost.Go

/-! ## Calls -/

/-- As `failJob` leaves it. -/
def ProvisionJob.Stopped (job : ProvisionJob) : Prop :=
  job.Status = ProvisionJobStatusError ∧ job.Step = provisionStepFailed

/-- The calls that change something outside of the table and the queue. -/
def Request.External : Request → Prop
  | .createAccount .. | .moveAccount .. | .assumeRole .. | .createHostedZone .. | .changeResourceRecordSets ..
  | .updateAssumeRolePolicy .. | .startBuild _ => True
  | _ => False

instance (job : ProvisionJob) : Decidable job.Stopped := inferInstanceAs (Decidable (_ ∧ _))

def isOK {α : Type} : Except GoErr α → Bool
  | .ok _ => true
  | .error _ => false

/-- The job has been stored as a failed one. -/
def Fails : (c : Call) → c.Answer → Prop
  | ⟨_, .putJob job _ _⟩, answer => job.Stopped ∧ isOK answer = true
  | _, _ => False

instance (request : Request) : Decidable request.External := by
  cases request <;> first | exact isTrue trivial | exact isFalse id

/-- No call to the outside, and no row but that of a failed job. -/
def Silent (c : Call) : Prop :=
  ¬ c.request.External ∧ ∀ job slug inst, c.request = .putJob job slug inst → job.Stopped

/-- The error of a call that fails the job in memory: access is denied, or the last attempt is used up. -/
def Exhausts (memory : ProvisionJob) (err : GoErr) : Prop :=
  isOrgAccessDenied err = true ∨ memory.MaxAttempts ≤ int64 (memory.Attempts + 1)

instance (memory : ProvisionJob) (err : GoErr) : Decidable (Exhausts memory err) :=
  inferInstanceAs (Decidable (_ ∨ _))

def Refused {α : Type} (memory : ProvisionJob) : Except GoErr α → Prop
  | .error err => Exhausts memory err
  | .ok _ => False

instance decidableRefused {α : Type} (memory : ProvisionJob) :
    (answer : Except GoErr α) → Decidable (Refused memory answer)
  | .error err => inferInstanceAs (Decidable (Exhausts memory err))
  | .ok _ => isFalse id

/-- The move of an account fails its job. -/
def MoveFails : (c : Call) → c.Answer → Prop
  | ⟨memory, .listParents _⟩, answer => Refused (α := String) memory answer
  | ⟨memory, .moveAccount ..⟩, answer => Refused (α := Unit) memory answer
  | _, _ => False

instance (c : Call) (answer : c.Answer) : Decidable (Fails c answer) := by
  obtain ⟨memory, request⟩ := c
  cases request with
  | putJob job slug inst => exact inferInstanceAs (Decidable (job.Stopped ∧ isOK (α := Unit) answer = true))
  | _ => exact isFalse id

instance (c : Call) (answer : c.Answer) : Decidable (MoveFails c answer) := by
  obtain ⟨memory, request⟩ := c
  cases request with
  | listParents accountID => exact decidableRefused (α := String) memory answer
  | moveAccount accountID source destination => exact decidableRefused (α := Unit) memory answer
  | _ => exact isFalse id

/-- No row is stored. -/
def Reads : Call → Prop
  | ⟨_, .putJob ..⟩ => False
  | _ => True

theorem Reads.not_fails {c : Call} (h : Reads c) (answer : c.Answer) : ¬ Fails c answer := by
  obtain ⟨memory, request⟩ := c
  cases request with
  | putJob job slug inst => exact h.elim
  | _ => exact id

theorem fails_putJob {memory job : ProvisionJob} {slug : String} {inst : InstanceUpdate}
    {answer : Except GoErr Unit} :
    Fails ⟨memory, .putJob job slug inst⟩ answer ↔ job.Stopped ∧ isOK answer = true := Iff.rfl

/-! ## Rules -/

/-- The part ends in `R` while it has not failed the job, and in `L` once it has. -/
abbrev Stops {α : Type} (R L : α → Prop) (p : Worker α) : Prop :=
  p.Halts Silent (fun c answer => ¬ MoveFails c answer) Fails R L

/-- The job of a result is still to be advanced. -/
def Live (job : ProvisionJob) : Prop := TrimSpace job.Step ≠ provisionStepFailed

/-- The result of a step that has failed the job. -/
def Over (r : StepResult) : Prop :=
  TrimSpace r.job.Step = provisionStepFailed ∧ jobFailed r.job = true ∧ r.delay = 0

/-- The steps at which a job is stored, but for the one of a failed job. -/
def provisionSteps : List String :=
  [provisionStepAccountCreate, provisionStepAccountCreatePoll, provisionStepAccountMove, provisionStepAssumeRole,
    provisionStepChildZone, provisionStepParentDelegation, provisionStepInstanceConfig, provisionStepDeployStart,
    provisionStepDeployWait, provisionStepReceiptIngest, provisionStepBodyDeployStart, provisionStepBodyDeployWait,
    provisionStepDeployMcpStart, provisionStepDeployMcpWait, provisionStepDone, provisionStepQueued]

theorem provisionSteps_live : ∀ step ∈ provisionSteps, TrimSpace step ≠ provisionStepFailed := by decide

section Rules

variable {s : Server} {requestID : String} {now : Time} {job : ProvisionJob} {α : Type} {L : α → Prop}

theorem stops_call {request : Request} {R L : request.Answer → Prop}
    (h : ∀ answer, (Fails ⟨job, request⟩ answer → L answer) ∧ (¬ Fails ⟨job, request⟩ answer → R answer)) :
    Stops R L (ask job request) :=
  Prog.halts_perform fun answer _ => h answer

theorem stops_ask {request : Request} (h : Reads ⟨job, request⟩) {L : request.Answer → Prop} :
    Stops (fun answer => ¬ MoveFails ⟨job, request⟩ answer) L (ask job request) :=
  Prog.halts_perform fun answer hP => ⟨fun hfails => absurd hfails (h.not_fails answer), fun _ => hP⟩

theorem stops_read {p : Worker α} (h : p.Only Reads) : Stops (fun _ => True) L p :=
  Prog.halts_of_only (fun _ hreads answer _ => hreads.not_fails answer) h

theorem only_ask {request : Request} (h : Reads ⟨job, request⟩) : (ask job request).Only Reads :=
  (Prog.only_perform _).2 h

theorem silent_ask {request : Request} (h : Silent ⟨job, request⟩) :
    (ask job request).Yields Silent fun _ => True :=
  Prog.yields_perform h fun _ => trivial

theorem stamp_Step : (stamp s job requestID now).Step = TrimSpace job.Step := by
  simp only [stamp, ProvisionJob.UpdateKeys, clearProvisionJobConsentPlaintext]

theorem stops_persistJobAndInstance {update : ProvisionJob → InstanceUpdate} (hlive : Live job)
    {L : ProvisionJob × Except GoErr Unit → Prop} :
    Stops (fun r => Live r.1) L (persistJobAndInstance s job requestID now update) := by
  refine Prog.halts_bind (R := fun _ => True) (L := fun _ => False)
    (stops_call fun answer => ⟨fun hfails => ?_, fun _ => trivial⟩) (fun _ _ => Prog.halts_pure ?_)
    fun _ h => h.elim
  · have hstep : (stamp s job requestID now).Step = provisionStepFailed := (fails_putJob.1 hfails).1.2
    rw [stamp_Step] at hstep
    exact hlive hstep
  · show TrimSpace (stamp s job requestID now).Step ≠ _
    rw [stamp_Step, TrimSpace_idem]
    exact hlive

theorem stops_persistOrStop {update : ProvisionJob → InstanceUpdate} {delay : Int} {done : Bool} (hlive : Live job)
    {L : StepResult → Prop} :
    Stops (fun r => Live r.job) L (persistOrStop s job requestID now update delay done) := by
  refine Prog.halts_bind (L := fun _ => False) (stops_persistJobAndInstance hlive) (fun r hr => ?_)
    fun _ h => h.elim
  obtain ⟨job, result⟩ := r
  cases result with
  | ok _ => exact Prog.halts_pure hr
  | error err => exact Prog.halts_fail

theorem stops_persistAndWait {delay : Int} (hlive : Live job) {L : StepResult → Prop} :
    Stops (fun r => Live r.job) L (persistAndWait s job requestID now delay) :=
  Prog.halts_bind (L := fun _ => False) (stops_persistJobAndInstance hlive) (fun _ hr => Prog.halts_pure hr)
    fun _ h => h.elim

theorem failed_stopped (s : Server) (job : ProvisionJob) (requestID : String) (now : Time) (code msg : String) :
    (failed s job requestID now code msg).Stopped := by
  have hstatus : ToLower (TrimSpace ProvisionJobStatusError) = ProvisionJobStatusError := by decide
  have hstep : TrimSpace provisionStepFailed = provisionStepFailed := by decide
  refine ⟨?_, ?_⟩
  · simp only [failed, ProvisionJob.UpdateKeys, clearProvisionJobConsentArtifacts,
      clearProvisionJobConsentPlaintext, hstatus]
  · simp only [failed, ProvisionJob.UpdateKeys, clearProvisionJobConsentArtifacts,
      clearProvisionJobConsentPlaintext, hstep]

theorem ProvisionJob.Stopped.over (h : job.Stopped) {done : Bool} : Over ⟨job, 0, done⟩ := by
  have hstatus : ToLower (TrimSpace ProvisionJobStatusError) = ProvisionJobStatusError := by decide
  have hstep : TrimSpace provisionStepFailed = provisionStepFailed := by decide
  refine ⟨?_, ?_, rfl⟩
  · show TrimSpace job.Step = _
    rw [h.2, hstep]
  · show jobFailed job = true
    rw [jobFailed, h.1, hstatus, beq_self_eq_true]

theorem stops_failJob {code msg : String} {R : ProvisionJob → Prop} :
    Stops R ProvisionJob.Stopped (failJob s job requestID now code msg) := by
  have hstopped := failed_stopped s job requestID now code msg
  unfold failJob
  dsimp only
  refine Prog.halts_bind (R := fun answer => ∃ err, answer = Except.error err)
    (L := fun answer => isOK answer = true)
    (stops_call fun answer => ⟨fun hfails => (fails_putJob.1 hfails).2, fun hgo => ?_⟩)
    (fun answer herr => ?_) fun answer hok => ?_
  · cases answer with
    | ok _ => exact absurd ⟨hstopped, rfl⟩ hgo
    | error err => exact ⟨err, rfl⟩
  · obtain ⟨err, rfl⟩ := herr
    exact Prog.halts_fail
  · cases answer with
    | ok _ => exact Prog.yields_pure hstopped
    | error err => exact absurd hok Bool.false_ne_true

theorem stops_failStep {code msg : String} {R : StepResult → Prop} :
    Stops R Over (failStep s job requestID now code msg) :=
  Prog.halts_bind (R := fun _ => False) stops_failJob (fun _ h => h.elim) fun _ hstopped =>
    Prog.yields_pure hstopped.over

theorem live_of_step {job' : ProvisionJob} (hlive : Live job) (hstep : job'.Step = job.Step) : Live job' := by
  rw [Live, hstep]
  exact hlive

theorem live_at {step : String} (hstep : job.Step = step) (hne : TrimSpace step ≠ provisionStepFailed) :
    Live job := by
  rw [Live, hstep]
  exact hne

/-- As long as attempts are left. -/
theorem stops_retry_left {code msg : String} {note : Option String} {baseDelay maxDelay : Int} (hlive : Live job)
    (hleft : ¬ job.MaxAttempts ≤ int64 (job.Attempts + 1)) {L : StepResult → Prop} :
    Stops (fun r => Live r.job) L (retryOrFail s job requestID now code msg note baseDelay maxDelay) := by
  unfold retryOrFail
  dsimp only
  rw [if_neg hleft]
  refine stops_persistAndWait ?_
  exact live_of_step hlive rfl

theorem stops_retryOrFail {code msg : String} {note : Option String} {baseDelay maxDelay : Int} (hlive : Live job) :
    Stops (fun r => Live r.job) Over (retryOrFail s job requestID now code msg note baseDelay maxDelay) := by
  by_cases hleft : job.MaxAttempts ≤ int64 (job.Attempts + 1)
  · unfold retryOrFail
    dsimp only
    rw [if_pos hleft]
    exact stops_failStep
  · exact stops_retry_left hlive hleft

theorem stops_goTo {step note : String} (hstep : TrimSpace step ≠ provisionStepFailed) {L : StepResult → Prop} :
    Stops (fun r => Live r.job) L (goTo s requestID now job step note) := by
  unfold goTo
  refine stops_persistOrStop ?_
  exact live_at rfl hstep

theorem stops_unlessOver {first : Worker StepResult} {next : ProvisionJob → Worker StepResult}
    {R : StepResult → Prop} (h : Stops R Over first)
    (hnext : ∀ r, R r → Stops (fun r => Live r.job) Over (next r.job))
    (hover : ∀ r, Over r → Prog.Yields Silent Over (next r.job)) (hR : ∀ r, R r → Live r.job) :
    Stops (fun r => Live r.job) Over (unlessOver first next) :=
  Prog.halts_bind h (fun r hr => Prog.halts_ite (fun _ => Prog.halts_pure (hR r hr)) fun _ => hnext r hr)
    fun r hr => Prog.yields_ite (fun _ => Prog.yields_pure hr) fun _ => hover r hr

end Rules

/-! ## Steps -/

section Steps

variable {s : Server} {requestID : String} {now : Time} {job : ProvisionJob}

/-- What a step promises. -/
abbrev Advances (p : Worker StepResult) : Prop := Stops (fun r => Live r.job) Over p

theorem advances_queued : Advances (advanceProvisionQueued s requestID now job) :=
  stops_goTo (provisionSteps_live _ (by simp [provisionSteps]))

theorem advances_accountMove {note : String} {L : StepResult → Prop} :
    Stops (fun r => Live r.job) L (advanceToAccountMove s requestID now job note) :=
  stops_goTo (provisionSteps_live _ (by simp [provisionSteps]))

theorem advances_accountCreatePoll {note : String} :
    Advances (advanceToAccountCreatePoll s requestID now job note) := by
  have hstep : TrimSpace provisionStepAccountCreatePoll ≠ provisionStepFailed :=
    provisionSteps_live _ (by simp [provisionSteps])
  unfold advanceToAccountCreatePoll
  refine stops_persistOrStop ?_
  exact live_at rfl hstep

theorem advances_requestAccountCreate {email accountName roleName : String} (hlive : Live job) :
    Advances (requestAccountCreate s requestID now job email accountName roleName) := by
  refine Prog.halts_bind (L := fun _ => False) (stops_ask (by exact trivial)) (fun answer _ => ?_)
    fun _ h => h.elim
  cases answer with
  | error err => exact Prog.halts_ite (fun _ => stops_failStep) fun _ => stops_retryOrFail hlive
  | ok id => exact Prog.halts_ite (fun _ => stops_failStep) fun _ => advances_accountCreatePoll

theorem only_findAccountByID {accountID : String} : (findAccountByID job accountID).Only Reads := by
  refine Prog.only_bind (only_ask (by exact trivial)) fun answer => ?_
  cases answer with
  | error err => exact Prog.only_pure _
  | ok accounts => exact Prog.only_pure _

theorem advances_validateAdoptedProvisionAccount (hlive : Live job) :
    Advances (validateAdoptedProvisionAccount s requestID now job) := by
  refine Prog.halts_ite (fun _ => Prog.halts_pure hlive) fun _ => ?_
  refine Prog.halts_bind (L := fun _ => False) (stops_read only_findAccountByID) (fun answer _ => ?_)
    fun _ h => h.elim
  rcases answer with err | _ | acct
  · exact Prog.halts_ite (fun _ => stops_failStep) fun _ => stops_retryOrFail hlive
  · exact stops_failStep
  · dsimp only
    split
    · exact stops_failStep
    · exact Prog.halts_pure hlive

/-- A job that has been failed goes no further. -/
theorem over_unlessFailed {r : StepResult} (h : Over r) {next : Worker StepResult} :
    Prog.Yields Silent Over (if jobFailed r.job then return ⟨r.job, 0, true⟩ else next) := by
  rw [if_pos h.2.1]
  exact Prog.yields_pure ⟨h.1, h.2.1, rfl⟩

theorem advances_unlessFailed {next : Worker StepResult} (hlive : Live job) (h : Advances next) :
    Advances (if jobFailed job then return ⟨job, 0, true⟩ else next) :=
  Prog.halts_ite (fun _ => Prog.halts_pure hlive) fun _ => h

theorem advances_accountCreate (hlive : Live job) : Advances (advanceProvisionAccountCreate s requestID now job) := by
  refine Prog.halts_ite (fun _ => ?_) fun _ => ?_
  · refine Prog.halts_ite (fun _ => ?_) fun _ => advances_accountMove
    exact stops_unlessOver (advances_validateAdoptedProvisionAccount hlive)
      (fun _ hr => advances_unlessFailed hr advances_accountMove) (fun _ hr => over_unlessFailed hr) fun _ hr => hr
  · refine Prog.halts_ite (fun _ => ?_) fun _ => advances_accountCreatePoll
    unfold startProvisionAccountCreate ensureProvisionAccountEmail
    dsimp only
    split_ifs with hemail
    · refine advances_requestAccountCreate ?_
      exact live_of_step hlive rfl
    · exact advances_requestAccountCreate hlive

theorem advances_handleAccountCreateEmailExists :
    Advances (handleAccountCreateEmailExists s requestID now job) := by
  unfold handleAccountCreateEmailExists
  exact stops_failStep

theorem advances_handleProvisionAccountCreateStatus (hlive : Live job) (st : CreateAccountStatus) :
    Advances (handleProvisionAccountCreateStatus s requestID now job st) := by
  unfold handleProvisionAccountCreateStatus
  split
  · exact Prog.halts_ite (fun _ => stops_failStep) fun _ => advances_accountMove
  · refine stops_persistAndWait ?_
    exact live_of_step hlive rfl
  · exact Prog.halts_ite (fun _ => advances_handleAccountCreateEmailExists) fun _ => stops_failStep
  · refine stops_persistAndWait ?_
    exact live_of_step hlive rfl

theorem advances_accountCreatePollStep (hlive : Live job) :
    Advances (advanceProvisionAccountCreatePoll s requestID now job) := by
  refine Prog.halts_ite (fun _ => advances_accountMove) fun _ => ?_
  refine Prog.halts_ite (fun _ => stops_goTo (provisionSteps_live _ (by simp [provisionSteps]))) fun _ => ?_
  refine Prog.halts_ite (fun _ => stops_failStep) fun _ => ?_
  refine Prog.halts_bind (L := fun _ => False) (stops_ask (by exact trivial)) (fun answer _ => ?_) fun _ h => h.elim
  rcases answer with err | _ | st
  · exact Prog.halts_ite (fun _ => stops_failStep) fun _ => stops_retryOrFail hlive
  · exact Prog.halts_pure hlive
  · exact advances_handleProvisionAccountCreateStatus hlive st

theorem stops_moveError {job' : ProvisionJob} {code msg action : String} {err : GoErr} {baseDelay maxDelay : Int}
    (hlive : Live job') (hdenied : ¬ isOrgAccessDenied err = true)
    (hleft : ¬ job'.MaxAttempts ≤ int64 (job'.Attempts + 1)) {L : StepResult → Prop} :
    Stops (fun r => Live r.job) L
      (if isOrgAccessDenied err then failOrgPermissions s job requestID now action err
      else retryProvisionJobOrFail s job' requestID now code msg baseDelay maxDelay) := by
  rw [if_neg hdenied]
  exact stops_retry_left hlive hleft

/-- The move of the account, as long as it does not fail the job. -/
theorem stops_moveProvisionAccountToTargetOU {targetOu : String} (hlive : Live job) :
    Stops (fun r => Live r.job) (fun _ => False) (moveProvisionAccountToTargetOU s requestID now job targetOu) := by
  refine Prog.halts_ite (fun _ => stops_goTo (provisionSteps_live _ (by simp [provisionSteps]))) fun _ => ?_
  refine Prog.halts_bind (L := fun _ => False) (stops_ask (by exact trivial)) (fun answer hanswer => ?_)
    fun _ h => h.elim
  cases answer with
  | error err =>
      exact stops_moveError hlive (fun h => hanswer (.inl h)) fun h => hanswer (.inr h)
  | ok parent =>
      refine Prog.halts_ite (fun _ => Prog.halts_pure hlive) fun _ => ?_
      refine Prog.halts_bind (L := fun _ => False) (stops_ask (by exact trivial)) (fun answer hanswer => ?_)
        fun _ h => h.elim
      cases answer with
      | error err =>
          refine stops_moveError ?_ (fun h => hanswer (.inl h)) ?_
          · exact live_of_step hlive rfl
          · exact fun h => hanswer (.inr h)
      | ok _ =>
          refine stops_persistOrStop ?_
          exact live_of_step hlive rfl

theorem advances_advanceToAssumeRole : Advances (advanceToAssumeRole s requestID now job) := by
  have hstep : TrimSpace provisionStepAssumeRole ≠ provisionStepFailed :=
    provisionSteps_live _ (by simp [provisionSteps])
  unfold advanceToAssumeRole
  refine stops_persistOrStop ?_
  exact live_at rfl hstep

theorem advances_accountMoveStep (hlive : Live job) : Advances (advanceProvisionAccountMove s requestID now job) := by
  refine stops_unlessOver (advances_validateAdoptedProvisionAccount hlive) (fun r hr => advances_unlessFailed hr ?_)
    (fun _ hr => over_unlessFailed hr) fun _ hr => hr
  refine Prog.halts_ite (fun _ => ?_) fun _ => advances_advanceToAssumeRole
  exact Prog.halts_bind (stops_moveProvisionAccountToTargetOU hr)
    (fun r hr => Prog.halts_ite (fun _ => Prog.halts_pure hr) fun _ => advances_advanceToAssumeRole)
    fun _ h => h.elim

/-! ### The role and the domain -/

theorem only_assumeInstanceRole {accountID roleName : String} :
    (assumeInstanceRole job accountID roleName).Only Reads := by
  refine Prog.only_ite (Prog.only_pure _) ?_
  refine Prog.only_bind (only_ask (by exact trivial)) fun answer => ?_
  cases answer with
  | ok _ => exact Prog.only_pure _
  | error err =>
      dsimp only
      split <;> exact Prog.only_pure _

theorem advances_assumeRole (hlive : Live job) : Advances (advanceProvisionAssumeRole s requestID now job) := by
  refine Prog.halts_ite (fun _ => stops_goTo (provisionSteps_live _ (by simp [provisionSteps]))) fun _ => ?_
  refine Prog.halts_ite (fun _ => stops_failStep) fun _ => ?_
  refine Prog.halts_bind (L := fun _ => False) (stops_read only_assumeInstanceRole) (fun answer _ => ?_)
    fun _ h => h.elim
  rcases answer with ⟨err, _ | retryAfter⟩ | _
  · exact stops_retryOrFail hlive
  · refine stops_persistAndWait ?_
    exact live_of_step hlive rfl
  · exact stops_goTo (provisionSteps_live _ (by simp [provisionSteps]))

theorem only_ensureNameServers {domainDot zoneID : String} {nameServers : List String} :
    (ensureNameServers job domainDot zoneID nameServers).Only Reads := by
  refine Prog.only_ite (Prog.only_pure _) (Prog.only_ite (Prog.only_pure _) ?_)
  refine Prog.only_bind (only_ask (by exact trivial)) fun answer => ?_
  cases answer with
  | error err => exact Prog.only_pure _
  | ok servers => exact Prog.only_ite (Prog.only_pure _) (Prog.only_pure _)

theorem only_ensureHostedZoneAndNameServers {domainDot existingZoneID jobID : String} {servers : List String} :
    (ensureHostedZoneAndNameServers job domainDot existingZoneID servers jobID).Only Reads := by
  unfold ensureHostedZoneAndNameServers
  dsimp only
  refine Prog.only_ite only_ensureNameServers ?_
  refine Prog.only_bind (only_ask (by exact trivial)) fun answer => ?_
  cases answer with
  | error err => exact Prog.only_pure _
  | ok zones =>
      refine Prog.only_ite only_ensureNameServers ?_
      refine Prog.only_bind (only_ask (by exact trivial)) fun answer => ?_
      cases answer with
      | error err => exact Prog.only_pure _
      | ok created => exact only_ensureNameServers

theorem only_ensureChildHostedZone {accountID : String} : (ensureChildHostedZone job accountID).Only Reads := by
  refine Prog.only_ite (Prog.only_pure _) ?_
  refine Prog.only_bind (Prog.only_bind only_assumeInstanceRole fun answer => ?_) fun answer => ?_
  · rcases answer with failure | _ | _ <;> exact Prog.only_pure _
  · cases answer with
    | error err => exact Prog.only_pure _
    | ok _ => exact only_ensureHostedZoneAndNameServers

theorem advances_childZone (hlive : Live job) : Advances (advanceProvisionChildZone s requestID now job) := by
  have hstep : TrimSpace provisionStepParentDelegation ≠ provisionStepFailed :=
    provisionSteps_live _ (by simp [provisionSteps])
  refine Prog.halts_ite (fun _ => stops_goTo (provisionSteps_live _ (by simp [provisionSteps]))) fun _ => ?_
  refine Prog.halts_bind (L := fun _ => False) (stops_read only_ensureChildHostedZone) (fun answer _ => ?_)
    fun _ h => h.elim
  cases answer with
  | error err => exact stops_retryOrFail hlive
  | ok zone =>
      refine stops_persistOrStop ?_
      exact live_at rfl hstep

theorem only_upsertParentNSDelegation : (upsertParentNSDelegation job).Only Reads := by
  refine Prog.only_ite (Prog.only_pure _) ?_
  exact Prog.only_ite (Prog.only_pure _) (only_ask (by exact trivial))

theorem advances_parentDelegation (hlive : Live job) :
    Advances (advanceProvisionParentDelegation s requestID now job) := by
  refine Prog.halts_ite (fun _ => stops_failStep) fun _ => ?_
  refine Prog.halts_ite (fun _ => stops_goTo (provisionSteps_live _ (by simp [provisionSteps]))) fun _ => ?_
  refine Prog.halts_bind (L := fun _ => False) (stops_read only_upsertParentNSDelegation) (fun answer _ => ?_)
    fun _ h => h.elim
  cases answer with
  | error err => exact stops_retryOrFail hlive
  | ok _ => exact stops_goTo (provisionSteps_live _ (by simp [provisionSteps]))

theorem only_loadInstance {slug : String} : (loadInstance job slug).Only Reads := by
  unfold loadInstance
  dsimp only
  refine Prog.only_ite (Prog.only_pure _) ?_
  exact only_ask (by exact trivial)

theorem advances_instanceConfig (hlive : Live job) :
    Advances (advanceProvisionInstanceConfig s requestID now job) := by
  have hstep : TrimSpace provisionStepDeployStart ≠ provisionStepFailed :=
    provisionSteps_live _ (by simp [provisionSteps])
  refine Prog.halts_ite (fun _ => stops_goTo (provisionSteps_live _ (by simp [provisionSteps]))) fun _ => ?_
  refine Prog.halts_bind (L := fun _ => False) (stops_read only_loadInstance) (fun answer _ => ?_) fun _ h => h.elim
  rcases answer with err | _ | inst
  · exact stops_retryOrFail hlive
  · exact stops_failStep
  · refine stops_persistOrStop ?_
    exact live_at rfl hstep

/-! ### The runner -/

theorem only_resolveProvisionDeployRunnerInstanceInputs :
    (resolveProvisionDeployRunnerInstanceInputs s job).Only Reads := by
  refine Prog.only_bind only_loadInstance fun answer => ?_
  rcases answer with err | _ | inst
  · exact Prog.only_pure _
  · exact Prog.only_pure _
  · exact Prog.only_pure _

theorem only_updateAndReadBackAssumeRoleTrustPolicy {roleName policy : String} :
    (updateAndReadBackAssumeRoleTrustPolicy job roleName policy).Only Reads := by
  refine Prog.only_bind (only_ask (by exact trivial)) fun answer => ?_
  cases answer with
  | error err => exact Prog.only_pure _
  | ok _ =>
      refine Prog.only_bind (only_ask (by exact trivial)) fun answer => ?_
      cases answer with
      | error err => exact Prog.only_pure _
      | ok verified => exact Prog.only_ite (Prog.only_pure _) (Prog.only_pure _)

theorem only_ensureTrustPolicy {runnerRoleARN roleName slug rawPolicy : String} :
    (ensureTrustPolicy s job runnerRoleARN roleName slug rawPolicy).Only Reads := by
  unfold ensureTrustPolicy
  dsimp only
  split
  · exact Prog.only_pure _
  · split
    · exact Prog.only_pure _
    · refine Prog.only_bind ?_ fun _ => Prog.only_pure _
      exact Prog.only_ite only_updateAndReadBackAssumeRoleTrustPolicy (Prog.only_pure _)

theorem only_ensureDeployRunnerAssumeRoleTrust : (ensureDeployRunnerAssumeRoleTrust s job).Only Reads := by
  unfold ensureDeployRunnerAssumeRoleTrust
  dsimp only
  refine Prog.only_ite (Prog.only_pure _) ?_
  split
  · exact Prog.only_pure _
  · refine Prog.only_ite (Prog.only_pure _) ?_
    refine Prog.only_bind only_assumeInstanceRole fun answer => ?_
    rcases answer with failure | _ | _
    · exact Prog.only_pure _
    · exact Prog.only_pure _
    · refine Prog.only_bind (only_ask (by exact trivial)) fun answer => ?_
      cases answer with
      | error err => exact Prog.only_pure _
      | ok policy => exact Prog.only_ite (Prog.only_pure _) only_ensureTrustPolicy

theorem only_prepareDeployRunner {mode receiptKey : String} :
    (prepareDeployRunner s job mode receiptKey).Only Reads := by
  unfold prepareDeployRunner
  split
  · exact Prog.only_pure _
  · exact Prog.only_pure _
  · refine Prog.only_bind only_resolveProvisionDeployRunnerInstanceInputs fun answer => ?_
    cases answer with
    | error err => exact Prog.only_pure _
    | ok inputs =>
        refine Prog.only_bind only_ensureDeployRunnerAssumeRoleTrust fun answer => ?_
        cases answer with
        | error err => exact Prog.only_pure _
        | ok _ => exact Prog.only_pure _

theorem only_startDeployRunnerWithMode {mode receiptKey : String} :
    (startDeployRunnerWithMode s job mode receiptKey).Only Reads := by
  refine Prog.only_bind only_prepareDeployRunner fun answer => ?_
  cases answer with
  | error err => exact Prog.only_pure _
  | ok input =>
      refine Prog.only_bind (only_ask (by exact trivial)) fun answer => ?_
      cases answer with
      | error err => exact Prog.only_pure _
      | ok build => exact Prog.only_pure _

theorem only_getDeployRunnerStatus {runID : String} : (getDeployRunnerStatus job runID).Only Reads := by
  unfold getDeployRunnerStatus
  dsimp only
  refine Prog.only_ite (Prog.only_pure _) ?_
  refine Prog.only_bind (only_ask (by exact trivial)) fun answer => ?_
  rcases answer with err | _ | build <;> exact Prog.only_pure _

theorem stops_goToWait {step note : String} (hstep : TrimSpace step ≠ provisionStepFailed) {L : StepResult → Prop} :
    Stops (fun r => Live r.job) L (goToWait s requestID now job step note) := by
  unfold goToWait
  refine stops_persistOrStop ?_
  exact live_at rfl hstep

theorem advances_awaitDeployRunner {runner : Runner} {succeeded : Worker StepResult} (hlive : Live job)
    (h : Advances succeeded) : Advances (awaitDeployRunner s requestID now runner job succeeded) := by
  refine Prog.halts_bind (L := fun _ => False) (stops_read only_getDeployRunnerStatus) (fun answer _ => ?_)
    fun _ h => h.elim
  cases answer with
  | error err => exact stops_retryOrFail hlive
  | ok status =>
      refine Prog.halts_ite (fun _ => h) fun _ => ?_
      refine Prog.halts_ite (fun _ => stops_failStep) fun _ => ?_
      refine Prog.halts_ite (fun _ => stops_failStep) fun _ => ?_
      refine stops_persistAndWait ?_
      exact live_of_step hlive rfl

/-! ### From the first deployment on -/

theorem advances_startDeploy (hlive : Live job) : Advances (startDeploy s requestID now job) := by
  refine Prog.halts_bind (L := fun _ => False) (stops_read only_loadInstance) (fun answer _ => ?_) fun _ h => h.elim
  rcases answer with err | _ | inst
  · exact stops_retryOrFail hlive
  · exact stops_failStep
  · refine Prog.halts_ite (fun _ => stops_failStep) fun _ => ?_
    refine Prog.halts_ite (fun _ => stops_failStep) fun _ => ?_
    refine Prog.halts_bind (L := fun _ => False) (stops_read only_startDeployRunnerWithMode) (fun answer _ => ?_)
      fun _ h => h.elim
    cases answer with
    | error err => exact stops_retryOrFail hlive
    | ok runID => exact stops_goToWait (provisionSteps_live _ (by simp [provisionSteps]))

theorem decryptConsentFromJob_Step {job' : ProvisionJob} (h : decryptConsentFromJob s job = .ok job') :
    job'.Step = job.Step := by
  unfold decryptConsentFromJob at h
  split_ifs at h
  · cases h
    rfl
  · split at h
    · cases h
    · split at h
      · cases h
      · cases h
        rfl

theorem advances_deployStart (hlive : Live job) : Advances (advanceProvisionDeployStart s requestID now job) := by
  unfold advanceProvisionDeployStart
  split
  · exact stops_failStep
  · next job' hdecrypt =>
      refine Prog.halts_ite (fun _ => stops_goToWait (provisionSteps_live _ (by simp [provisionSteps])))
        fun _ => advances_startDeploy ?_
      exact live_of_step hlive (decryptConsentFromJob_Step hdecrypt)

theorem advances_deployWait (hlive : Live job) : Advances (advanceProvisionDeployWait s requestID now job) :=
  advances_awaitDeployRunner hlive (stops_goTo (provisionSteps_live _ (by simp [provisionSteps])))

theorem advances_done : Advances (advanceProvisionDone s requestID now job) := by
  have hstep : TrimSpace provisionStepDone ≠ provisionStepFailed :=
    provisionSteps_live _ (by simp [provisionSteps])
  unfold advanceProvisionDone
  refine stops_persistOrStop ?_
  exact live_at rfl hstep

theorem advances_startDeployRunner {mode receiptKey waitStep failCode name note : String} (hlive : Live job)
    (hwait : TrimSpace waitStep ≠ provisionStepFailed) :
    Advances (advanceProvisionStartDeployRunner s requestID now job mode receiptKey waitStep failCode name note) := by
  refine Prog.halts_bind (L := fun _ => False) (stops_read only_startDeployRunnerWithMode) (fun answer _ => ?_)
    fun _ h => h.elim
  cases answer with
  | error err => exact stops_retryOrFail hlive
  | ok runID => exact stops_goToWait ((congrArg (· ≠ provisionStepFailed) (TrimSpace_idem waitStep)).mpr hwait)

theorem stops_goToPhase {step note : String} (hstep : TrimSpace step ≠ provisionStepFailed) {L : StepResult → Prop} :
    Stops (fun r => Live r.job) L (goToPhase s requestID now job step note) := by
  unfold goToPhase
  exact stops_goTo hstep

theorem advances_bodyDeployStart (hlive : Live job) :
    Advances (advanceProvisionBodyDeployStart s requestID now job) := by
  refine Prog.halts_ite (fun _ => advances_done) fun _ => ?_
  refine Prog.halts_ite (fun _ => stops_goToPhase (provisionSteps_live _ (by simp [provisionSteps]))) fun _ => ?_
  refine Prog.halts_ite (fun _ => stops_goToWait (provisionSteps_live _ (by simp [provisionSteps]))) fun _ => ?_
  refine Prog.halts_bind (L := fun _ => False) (stops_ask (by exact trivial)) (fun answer _ => ?_) fun _ h => h.elim
  cases answer with
  | error err => exact stops_failStep
  | ok _ => exact advances_startDeployRunner hlive (provisionSteps_live _ (by simp [provisionSteps]))

theorem advances_bodyDeployWait (hlive : Live job) :
    Advances (advanceProvisionBodyDeployWait s requestID now job) := by
  have hstep : TrimSpace provisionStepDeployMcpStart ≠ provisionStepFailed :=
    provisionSteps_live _ (by simp [provisionSteps])
  unfold advanceProvisionBodyDeployWait
  refine advances_awaitDeployRunner hlive ?_
  exact stops_goToPhase hstep

theorem advances_deployMcpStart (hlive : Live job) :
    Advances (advanceProvisionDeployMcpStart s requestID now job) := by
  refine Prog.halts_ite (fun _ => advances_done) fun _ => ?_
  refine Prog.halts_ite (fun _ => stops_goToPhase (provisionSteps_live _ (by simp [provisionSteps]))) fun _ => ?_
  refine Prog.halts_ite (fun _ => advances_done) fun _ => ?_
  refine Prog.halts_ite (fun _ => stops_goToWait (provisionSteps_live _ (by simp [provisionSteps]))) fun _ => ?_
  exact advances_startDeployRunner hlive (provisionSteps_live _ (by simp [provisionSteps]))

theorem advances_deployMcpWait (hlive : Live job) :
    Advances (advanceProvisionDeployMcpWait s requestID now job) := by
  unfold advanceProvisionDeployMcpWait
  refine advances_awaitDeployRunner hlive ?_
  exact advances_done

/-! ### The receipt -/

theorem only_loadReceiptFromS3 {bucket key : String} : (loadReceiptFromS3 s job bucket key).Only Reads := by
  unfold loadReceiptFromS3
  dsimp only
  refine Prog.only_ite (Prog.only_pure _) ?_
  refine Prog.only_bind (only_ask (by exact trivial)) fun answer => ?_
  cases answer with
  | error err => exact Prog.only_pure _
  | ok data =>
      refine Prog.only_ite (Prog.only_pure _) ?_
      split
      · exact Prog.only_pure _
      · exact Prog.only_ite (Prog.only_pure _) (Prog.only_pure _)

theorem only_ensureInstanceKeyRecord {slug keyID : String} : (ensureInstanceKeyRecord job slug keyID).Only Reads := by
  unfold ensureInstanceKeyRecord
  dsimp only
  refine Prog.only_ite (Prog.only_pure _) ?_
  refine Prog.only_bind (only_ask (by exact trivial)) fun answer => ?_
  rcases answer with _ | _ | err <;> exact Prog.only_pure _

theorem only_applyProvisionManagedInstanceKeyReceipt {receipt : Option ManagedInstanceKeyReceipt} :
    (applyProvisionManagedInstanceKeyReceipt s job receipt).Only Reads := by
  unfold applyProvisionManagedInstanceKeyReceipt
  split
  · exact Prog.only_pure _
  · split
    · exact Prog.only_pure _
    · refine Prog.only_bind only_ensureInstanceKeyRecord fun answer => ?_
      cases answer with
      | error err => exact Prog.only_pure _
      | ok _ => exact Prog.only_pure _

theorem afterReceipt_live : Live (afterReceipt job) := by
  unfold afterReceipt
  split_ifs
  · exact live_at rfl (provisionSteps_live provisionStepBodyDeployStart (by simp [provisionSteps]))
  · exact live_at rfl (provisionSteps_live provisionStepDeployMcpStart (by simp [provisionSteps]))
  · exact live_at rfl (provisionSteps_live provisionStepDone (by simp [provisionSteps]))

theorem advances_receiptIngest (hlive : Live job) : Advances (advanceProvisionReceiptIngest s requestID now job) := by
  refine Prog.halts_bind (L := fun _ => False) (stops_read only_loadReceiptFromS3) (fun answer _ => ?_)
    fun _ h => h.elim
  cases answer with
  | error err => exact stops_retryOrFail hlive
  | ok receipt =>
      refine Prog.halts_bind (L := fun _ => False) (stops_read only_applyProvisionManagedInstanceKeyReceipt)
        (fun answer _ => ?_) fun _ h => h.elim
      cases answer with
      | error err => exact stops_failStep
      | ok secretARN =>
          dsimp only
          split
          · exact stops_failStep
          · refine stops_persistOrStop ?_
            exact afterReceipt_live

/-! ### The loop -/

/-- Every step that has a handler. -/
theorem advances_handlers : ∀ h ∈ managedProvisionStepHandlers s requestID now, Live job → Advances (h.2 job) := by
  intro h hmem hlive
  simp only [managedProvisionStepHandlers, List.mem_cons, List.not_mem_nil, or_false] at hmem
  rcases hmem with rfl | rfl | rfl | rfl | rfl | rfl | rfl | rfl | rfl | rfl | rfl | rfl | rfl | rfl | rfl <;>
    dsimp only
  · exact advances_queued
  · exact advances_accountCreate hlive
  · exact advances_accountCreatePollStep hlive
  · exact advances_accountMoveStep hlive
  · exact advances_assumeRole hlive
  · exact advances_childZone hlive
  · exact advances_parentDelegation hlive
  · exact advances_instanceConfig hlive
  · exact advances_deployStart hlive
  · exact advances_deployWait hlive
  · exact advances_receiptIngest hlive
  · exact advances_bodyDeployStart hlive
  · exact advances_bodyDeployWait hlive
  · exact advances_deployMcpStart hlive
  · exact advances_deployMcpWait hlive

theorem advances_advanceManagedProvisioning :
    Stops (fun _ => True) Over (advanceManagedProvisioning s requestID now job) := by
  unfold advanceManagedProvisioning
  dsimp only
  by_cases hend : TrimSpace job.Step = provisionStepDone ∨ TrimSpace job.Step = provisionStepFailed
  · rw [if_pos hend]
    exact Prog.halts_pure trivial
  · rw [if_neg hend]
    have hlive : Live job := fun h => hend (.inr h)
    cases hlookup : (managedProvisionStepHandlers s requestID now).lookup (TrimSpace job.Step) with
    | none => exact stops_failStep
    | some handler =>
        obtain ⟨before, after, hsplit⟩ := List.lookup_eq_some_iff.1 hlookup
        have hmem : (TrimSpace job.Step, handler) ∈ managedProvisionStepHandlers s requestID now := by
          rw [hsplit.1]
          simp
        exact (advances_handlers _ hmem hlive).mono (fun _ _ => trivial) fun _ h => h

/-- A failed job is not advanced. -/
theorem advanceManagedProvisioning_failed (hstep : TrimSpace job.Step = provisionStepFailed) :
    advanceManagedProvisioning s requestID now job = pure ⟨job, 0, true⟩ := by
  unfold advanceManagedProvisioning
  dsimp only
  rw [if_pos (.inr hstep)]

theorem silent_requeueProvisionJob {jobID : String} {delay : Int} :
    (requeueProvisionJob s job jobID delay).Yields Silent fun _ => True := by
  unfold requeueProvisionJob
  dsimp only
  refine Prog.yields_ite (fun _ => Prog.yields_fail) fun _ => ?_
  refine Prog.yields_ite (fun _ => Prog.yields_pure trivial) fun _ => ?_
  refine Prog.yields_bind (silent_ask ?_) fun answer _ => ?_
  · exact ⟨id, fun _ _ _ h => by cases h⟩
  cases answer with
  | error err => exact Prog.yields_fail
  | ok _ => exact Prog.yields_pure trivial

theorem stops_requeueProvisionJob {jobID : String} {delay : Int} {L : Unit → Prop} :
    Stops (fun _ => True) L (requeueProvisionJob s job jobID delay) := by
  refine stops_read ?_
  unfold requeueProvisionJob
  dsimp only
  refine Prog.only_ite (Prog.only_fail _) ?_
  refine Prog.only_ite (Prog.only_pure _) ?_
  refine Prog.only_bind (only_ask (by exact trivial)) fun answer => ?_
  cases answer with
  | error err => exact Prog.only_fail _
  | ok _ => exact Prog.only_pure _

/-- A failed job leaves the loop, or is queued again. -/
theorem silent_loop_failed {steps : Nat} (hstep : TrimSpace job.Step = provisionStepFailed) :
    (advanceManagedProvisioningLoop s requestID now steps job).Yields Silent fun _ => True := by
  cases steps with
  | zero => exact silent_requeueProvisionJob
  | succ steps =>
      rw [advanceManagedProvisioningLoop, advanceManagedProvisioning_failed hstep, Prog.pure_eq, Prog.ret_bind,
        if_pos rfl]
      exact Prog.yields_pure trivial

theorem stops_loop {steps : Nat} :
    Stops (fun _ => True) (fun _ => True) (advanceManagedProvisioningLoop s requestID now steps job) := by
  induction steps generalizing job with
  | zero => exact stops_requeueProvisionJob
  | succ steps ih =>
      rw [advanceManagedProvisioningLoop]
      refine Prog.halts_bind advances_advanceManagedProvisioning (fun r _ => ?_) fun r hr => ?_
      · refine Prog.halts_ite (fun _ => Prog.halts_pure trivial) fun _ => ?_
        exact Prog.halts_ite (fun _ => stops_requeueProvisionJob) fun _ => ih
      · refine Prog.yields_ite (fun _ => Prog.yields_pure trivial) fun _ => ?_
        refine Prog.yields_ite (fun hdelay => absurd hr.2.2.symm (Int.ne_of_lt hdelay)) fun _ => ?_
        exact silent_loop_failed hr.1

theorem stops_startManagedProvisioningJobIfQueued {L : ProvisionJob → Prop} :
    Stops (fun _ => True) L (startManagedProvisioningJobIfQueued s requestID now job) := by
  have hstep : TrimSpace provisionStepQueued ≠ provisionStepFailed :=
    provisionSteps_live _ (by simp [provisionSteps])
  refine Prog.halts_ite (fun _ => Prog.halts_pure trivial) fun _ => ?_
  refine Prog.halts_bind (L := fun _ => False) (stops_persistJobAndInstance ?_) (fun r _ => ?_) fun _ h => h.elim
  · exact live_at rfl hstep
  · obtain ⟨job, result⟩ := r
    cases result with
    | ok _ => exact Prog.halts_pure trivial
    | error err => exact Prog.halts_fail

/-- A run that ends with `failJob`. -/
theorem stops_failJob_end {code msg : String} :
    Stops (fun _ => True) (fun _ => True) (do let _ ← failJob s job requestID now code msg; return ()) :=
  Prog.halts_bind (R := fun _ => True) stops_failJob (fun _ _ => Prog.halts_pure trivial) fun _ _ =>
    Prog.yields_pure trivial

theorem stops_runManagedProvisioningStateMachine :
    Stops (fun _ => True) (fun _ => True) (runManagedProvisioningStateMachine s requestID now job) := by
  refine Prog.halts_ite (fun _ => stops_failJob_end) fun _ => ?_
  exact Prog.halts_bind (L := fun _ => False) stops_startManagedProvisioningJobIfQueued (fun _ _ => stops_loop)
    fun _ h => h.elim

theorem only_tryAcquireProvisionJobLease : (tryAcquireProvisionJobLease requestID now job).Only Reads := by
  refine Prog.only_bind (only_ask (by exact trivial)) fun answer => ?_
  rcases answer with _ | _ | err
  · exact Prog.only_pure _
  · exact Prog.only_pure _
  · exact Prog.only_fail _

theorem stops_processProvisionJob {jobID : String} :
    Stops (fun _ => True) (fun _ => True) (processProvisionJob s requestID jobID) := by
  refine Prog.halts_bind (L := fun _ => False) (stops_ask (by exact trivial)) (fun answer _ => ?_) fun _ h => h.elim
  rcases answer with err | _ | job
  · exact Prog.halts_fail
  · exact Prog.halts_pure trivial
  · refine Prog.halts_ite (fun _ => Prog.halts_pure trivial) fun _ => ?_
    refine Prog.halts_bind (L := fun _ => False) (stops_ask (by exact trivial)) (fun now _ => ?_) fun _ h => h.elim
    refine Prog.halts_ite (fun _ => stops_failJob_end) fun _ => ?_
    refine Prog.halts_ite (fun _ => stops_failJob_end) fun _ => ?_
    refine Prog.halts_bind (L := fun _ => False) (stops_read only_tryAcquireProvisionJobLease) (fun leased _ => ?_)
      fun _ h => h.elim
    cases leased with
    | none => exact Prog.halts_pure trivial
    | some job => exact stops_runManagedProvisioningStateMachine

end Steps

/-! ## The invocation -/

/-- **A failed job stops.** In every invocation in which the move of the account does not fail the job: once
`failJob` has stored the job, nothing outside is called, and every row that is stored is that of a failed job. -/
theorem failed_job_stops (s : Server) (requestID jobID : String) (ch : Nat → (c : Call) → c.Answer)
    (hmove : ∀ e ∈ (processProvisionJob s requestID jobID).events ch, ¬ MoveFails e.1 e.2) :
    ((processProvisionJob s requestID jobID).events ch).Pairwise fun e e' => Fails e.1 e.2 →
      ¬ e'.1.request.External ∧ ∀ job slug inst, e'.1.request = .putJob job slug inst → job.Stopped :=
  stops_processProvisionJob.events ch hmove

/-! ## A move that fails the job -/

def sampleTime : Time := ⟨1, .utc⟩

/-- A job whose account is to be moved. -/
def sampleMove : ProvisionJob :=
  { noJob with
    ID := "j"
    InstanceSlug := "alpha"
    Status := ProvisionJobStatusRunning
    Step := provisionStepAccountMove
    AccountID := "1"
    AccountRequestID := "r"
    MaxAttempts := 10 }

def sampleConfig (enabled : Bool) : Config where
  ManagedProvisioningEnabled := enabled
  Stage := "lab"
  WebAuthnRPID := ""
  ProvisionQueueURL := "q"
  ArtifactBucketName := "b"
  ManagedParentDomain := ""
  ManagedParentHostedZoneID := "z"
  ManagedAccountEmailTemplate := "e"
  ManagedAccountNamePrefix := ""
  ManagedInstanceRoleName := "role"
  ManagedTargetOrganizationalUnitID := "ou"
  ManagedDefaultRegion := "us-east-1"
  ManagedProvisionRunnerProjectName := "p"
  ManagedProvisionRunnerRoleARN := ""
  ManagedProvisionConsentEncryptionKeyHex := ""
  ManagedLesserGitHubOwner := ""
  ManagedLesserGitHubRepo := ""
  ManagedLesserBodyGitHubOwner := ""
  ManagedLesserBodyGitHubRepo := ""
  ManagedLesserBodyDefaultVersion := ""

def sampleServer (enabled : Bool) : Server where
  cfg := sampleConfig enabled
  sha256 _ := Vector.replicate 32 0
  parseReceipt _ := .error (errorf "")
  policies := ⟨fun _ _ => .error (errorf ""), fun _ _ _ _ => .error (errorf ""), fun _ _ _ _ => .error (errorf "")⟩
  managedOrgVendingRoleARN := ""
  gcmOpen _ _ _ := none

/-- The parents of the account may not be listed. Every write goes through. -/
def sampleAnswer (c : Call) : c.Answer :=
  match c with
  | ⟨_, .getProvisionJob _⟩ => Except.ok (some sampleMove)
  | ⟨_, .listProvisionJobs _⟩ => Except.error (errorf "")
  | ⟨_, .acquireLease _ _⟩ => Written.ok
  | ⟨_, .putJob _ _ _⟩ => Except.ok ()
  | ⟨_, .loadInstance _⟩ => Except.error (errorf "")
  | ⟨_, .createInstanceKey _ _⟩ => Written.ok
  | ⟨_, .now⟩ => sampleTime
  | ⟨_, .sendMessage _ _ _⟩ => Except.ok ()
  | ⟨_, .createAccount _ _ _⟩ => Except.error (errorf "")
  | ⟨_, .describeCreateAccountStatus _⟩ => Except.error (errorf "")
  | ⟨_, .listAccounts _⟩ => Except.error (errorf "")
  | ⟨_, .listParents _⟩ => Except.error ⟨"denied", some ("AccessDeniedException", "")⟩
  | ⟨_, .moveAccount _ _ _⟩ => Except.ok ()
  | ⟨_, .assumeRole _ _⟩ => Except.error ⟨"", some ("NoSuchEntity", "")⟩
  | ⟨_, .listHostedZonesByName _⟩ => Except.error (errorf "")
  | ⟨_, .createHostedZone _ _⟩ => Except.error (errorf "")
  | ⟨_, .getHostedZone _⟩ => Except.error (errorf "")
  | ⟨_, .changeResourceRecordSets _ _ _⟩ => Except.error (errorf "")
  | ⟨_, .getRole _⟩ => Except.error (errorf "")
  | ⟨_, .updateAssumeRolePolicy _ _⟩ => Except.error (errorf "")
  | ⟨_, .preflightManagedLesserBodyRelease _ _⟩ => Except.error (errorf "")
  | ⟨_, .startBuild _⟩ => Except.error (errorf "")
  | ⟨_, .batchGetBuilds _⟩ => Except.error (errorf "")
  | ⟨_, .getObject _ _⟩ => Except.error (errorf "")

/-- Provisioning is disabled, which fails the job. -/
theorem failed_job_stops_disabled :
    ((processProvisionJob (sampleServer false) "req" "j").events fun _ => sampleAnswer).Pairwise
      fun e e' => Fails e.1 e.2 →
        ¬ e'.1.request.External ∧ ∀ job slug inst, e'.1.request = .putJob job slug inst → job.Stopped :=
  failed_job_stops (sampleServer false) "req" "j" (fun _ => sampleAnswer) (by decide)

/-- The job that was failed because the parents of its account may not be listed is stored at the next step, and
the role of the account is assumed. -/
theorem failed_job_advanced :
    ¬ ∀ (s : Server) (requestID jobID : String) (ch : Nat → (c : Call) → c.Answer),
      ((processProvisionJob s requestID jobID).events ch).Pairwise fun e e' => Fails e.1 e.2 →
        ¬ e'.1.request.External ∧ ∀ job slug inst, e'.1.request = .putJob job slug inst → job.Stopped := by
  intro h
  have hpairs := (h (sampleServer true) "req" "j" fun _ => sampleAnswer).imp fun hstops hfails => (hstops hfails).1
  have hcalls : ¬ ((processProvisionJob (sampleServer true) "req" "j").events fun _ => sampleAnswer).Pairwise
      fun e e' => Fails e.1 e.2 → ¬ e'.1.request.External := by decide
  exact hcalls hpairs

end LesserHost.ProvisionWorker
