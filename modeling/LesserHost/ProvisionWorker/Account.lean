import LesserHost.ProvisionWorker.Calls

set_option autoImplicit false

/-! # From the queue to the instance's configuration

The steps of `server.go` that allocate the account, move it to its organizational unit, wait for its role
and delegate its domain. Each takes the job in memory and returns it as it left it. -/

namespace LesserHost.ProvisionWorker

open LesserHost.Go

variable (s : Server) (requestID : String) (now : Time)

/-- Store the job at another step with a note, and go on. -/
def goTo (job : ProvisionJob) (step note : String) : Worker StepResult :=
  persistOrStop s { job with Step := step, Note := note } requestID now noUpdate 0 false

def advanceProvisionQueued (job : ProvisionJob) : Worker StepResult :=
  goTo s requestID now job provisionStepAccountCreate "allocating AWS account"

def advanceToAccountMove (job : ProvisionJob) (note : String) : Worker StepResult :=
  goTo s requestID now job provisionStepAccountMove (TrimSpace note)

def advanceToAccountCreatePoll (job : ProvisionJob) (note : String) : Worker StepResult :=
  persistOrStop s { job with Step := provisionStepAccountCreatePoll, Note := TrimSpace note } requestID now
    noUpdate provisionDefaultPollDelay false

def restartProvisionAccountCreate (job : ProvisionJob) (note : String) : Worker StepResult :=
  goTo s requestID now job provisionStepAccountCreate (TrimSpace note)

/-! ## The account -/

def ensureProvisionAccountEmail (job : ProvisionJob) (tmpl : String) : String × ProvisionJob :=
  let email := TrimSpace job.AccountEmail
  if email = "" then
    let email := TrimSpace (expandManagedAccountEmailTemplate tmpl job.InstanceSlug)
    (email, { job with AccountEmail := email })
  else (email, job)

def managedAccountRoleName (jobRole defaultRole : String) : String :=
  orElse (TrimSpace jobRole) (TrimSpace defaultRole)

def requestAccountCreate (job : ProvisionJob) (email accountName roleName : String) :
    Worker StepResult := do
  match ← ask job (.createAccount accountName email roleName) with
  | .error err =>
      if isOrgAccessDenied err then
        failOrgPermissions s job requestID now "CreateAccount" err
      else
        retryOrFail s job requestID now "create_account_failed"
          ("organizations CreateAccount failed: " ++ err.text) (some "retrying account allocation")
          provisionDefaultShortRetryDelay (5 * Minute)
  | .ok id =>
      let reqID := TrimSpace id
      if reqID = "" then
        failStep s job requestID now "create_account_failed"
          "organizations CreateAccount returned empty request id"
      else
        advanceToAccountCreatePoll s requestID now { job with AccountRequestID := reqID }
          "waiting for AWS account creation"

def startProvisionAccountCreate (job : ProvisionJob) : Worker StepResult :=
  let (email, job) := ensureProvisionAccountEmail job s.cfg.ManagedAccountEmailTemplate
  let accountName := managedAccountName s.cfg.ManagedAccountNamePrefix job.InstanceSlug
  let roleName := managedAccountRoleName job.AccountRoleName s.cfg.ManagedInstanceRoleName
  requestAccountCreate s requestID now job email accountName roleName

def ensureAccountMatchesExpected (acct : Account) (expectedName : String) : Except GoErr Unit :=
  let expectedName := TrimSpace expectedName
  let actualName := TrimSpace acct.Name
  if expectedName ≠ "" ∧ actualName ≠ "" ∧ EqualFold actualName expectedName = false then
    .error (errorf ("account email already exists but name " ++ Quote actualName
      ++ " does not match expected " ++ Quote expectedName))
  else match acct.Status with
  | .unset | .active => .ok ()
  | .other name => .error (errorf ("account status " ++ name ++ " is not active"))

def ensureAdoptedAccountMatchesExpected (acct : Account) (accountID expectedEmail expectedName : String) :
    Except GoErr Unit :=
  let accountID := TrimSpace accountID
  let expectedEmail := ToLower (TrimSpace expectedEmail)
  let actualEmail := ToLower (TrimSpace acct.Email)
  if accountID = "" ∨ TrimSpace acct.Id ≠ accountID then
    .error (errorf "adopted account id does not match Organizations account")
  else if expectedEmail = "" then
    .error (errorf "expected account email is required for account adoption")
  else if actualEmail = "" ∨ actualEmail ≠ expectedEmail then
    .error (errorf "adopted account email does not match expected managed account email")
  else ensureAccountMatchesExpected acct expectedName

def findAccountByID (job : ProvisionJob) (accountID : String) : Worker (Except GoErr (Option Account)) := do
  match ← ask job (.listAccounts accountID) with
  | .error err => return .error err
  | .ok accounts => return .ok (accounts.find? fun acct => TrimSpace acct.Id == accountID)

/-- `validateAdoptedProvisionAccount`: an account the worker has not requested itself is looked up. -/
def validateAdoptedProvisionAccount (job : ProvisionJob) : Worker StepResult := do
  let accountID := TrimSpace job.AccountID
  if accountID = "" ∨ TrimSpace job.AccountRequestID ≠ "" then return ⟨job, 0, false⟩
  else
    let expectedEmail := orElse (TrimSpace job.AccountEmail)
      (TrimSpace (expandManagedAccountEmailTemplate s.cfg.ManagedAccountEmailTemplate job.InstanceSlug))
    let expectedName := managedAccountName s.cfg.ManagedAccountNamePrefix job.InstanceSlug
    match ← findAccountByID job accountID with
    | .error err =>
        if isOrgAccessDenied err then
          failOrgPermissions s job requestID now "ListAccounts" err
        else
          retryProvisionJobOrFail s job requestID now "account_lookup_failed"
            ("account lookup failed for adopted account: " ++ err.text) provisionDefaultShortRetryDelay
            (5 * Minute)
    | .ok none =>
        failStep s job requestID now "account_adoption_invalid"
          "adopted AWS account is not visible in the managed organization"
    | .ok (some acct) =>
        match ensureAdoptedAccountMatchesExpected acct accountID expectedEmail expectedName with
        | .error err => failStep s job requestID now "account_adoption_invalid" err.text
        | .ok () => return ⟨{ job with AccountEmail := orElse job.AccountEmail expectedEmail }, 0, false⟩

/-- `if delay, done, err := first; err != nil || done || delay > 0 { return delay, done, err }` -/
def unlessOver (first : Worker StepResult) (next : ProvisionJob → Worker StepResult) :
    Worker StepResult := do
  let r ← first
  if r.done = true ∨ r.delay > 0 then return r else next r.job

/-- Has the job been failed in memory? -/
def jobFailed (job : ProvisionJob) : Bool := ToLower (TrimSpace job.Status) == ProvisionJobStatusError

def advanceProvisionAccountCreate (job : ProvisionJob) : Worker StepResult :=
  if TrimSpace job.AccountID ≠ "" then
    if TrimSpace job.AccountRequestID = "" then
      unlessOver (validateAdoptedProvisionAccount s requestID now job) fun job =>
        if jobFailed job then return ⟨job, 0, true⟩
        else advanceToAccountMove s requestID now job "AWS account allocated"
    else advanceToAccountMove s requestID now job "AWS account allocated"
  else if TrimSpace job.AccountRequestID = "" then startProvisionAccountCreate s requestID now job
  else advanceToAccountCreatePoll s requestID now job "waiting for AWS account creation"

def handleAccountCreateEmailExists (job : ProvisionJob) : Worker StepResult :=
  let (email, job) := ensureProvisionAccountEmail job s.cfg.ManagedAccountEmailTemplate
  let msg := "AWS Organizations reports the managed account email already exists; "
    ++ "explicit validated account adoption is required"
  let msg := if TrimSpace email ≠ "" then msg ++ " for " ++ TrimSpace email else msg
  failStep s job requestID now "account_email_exists_adoption_required" msg

/-- The reason Organizations gives for an address that is taken. -/
def emailAlreadyExists : String := "EMAIL_ALREADY_EXISTS"

def handleProvisionAccountCreateStatus (job : ProvisionJob) (st : CreateAccountStatus) :
    Worker StepResult :=
  match st.State with
  | .succeeded =>
      let accID := TrimSpace st.AccountId
      if accID = "" then
        failStep s job requestID now "account_create_failed"
          "Organizations CreateAccount SUCCEEDED but AccountId is empty"
      else advanceToAccountMove s requestID now { job with AccountID := accID } "AWS account created"
  | .inProgress =>
      persistAndWait s { job with Note := "AWS account creation in progress" } requestID now
        provisionDefaultPollDelay
  | .failed =>
      if st.FailureReason = emailAlreadyExists then
        handleAccountCreateEmailExists s requestID now job
      else failStep s job requestID now "account_create_failed" ("AWS account creation failed: "
        ++ if st.FailureReason = "" then "unknown" else st.FailureReason)
  | .other state =>
      persistAndWait s { job with Note := "AWS account creation state: " ++ state } requestID now
        provisionDefaultPollDelay

/-- Is the job older than `age`? -/
def olderThan (job : ProvisionJob) (age : Int) : Bool :=
  !job.CreatedAt.IsZero && decide (age < now.Sub job.CreatedAt)

def advanceProvisionAccountCreatePoll (job : ProvisionJob) : Worker StepResult := do
  if TrimSpace job.AccountID ≠ "" then advanceToAccountMove s requestID now job "AWS account ready"
  else if TrimSpace job.AccountRequestID = "" then
    restartProvisionAccountCreate s requestID now job
      "missing account request id; restarting account allocation"
  else if olderThan now job provisionMaxAccountCreateAge then
    failStep s job requestID now "account_create_timeout"
      "AWS account creation timed out; check Organizations CreateAccountStatus"
  else match ← ask job (.describeCreateAccountStatus (TrimSpace job.AccountRequestID)) with
    | .error err =>
        if isOrgAccessDenied err then
          failOrgPermissions s job requestID now "DescribeCreateAccountStatus" err
        else
          retryProvisionJobOrFail s job requestID now "describe_account_failed"
            ("organizations DescribeCreateAccountStatus failed: " ++ err.text) provisionDefaultPollDelay
            (10 * Minute)
    | .ok none => return ⟨job, provisionDefaultPollDelay, false⟩
    | .ok (some st) => handleProvisionAccountCreateStatus s requestID now job st

/-! ## The organizational unit -/

def moveProvisionAccountToTargetOU (job : ProvisionJob) (targetOu : String) : Worker StepResult := do
  let accID := TrimSpace job.AccountID
  if accID = "" then restartProvisionAccountCreate s requestID now job noteMissingAccountIDRestart
  else match ← ask job (.listParents accID) with
    | .error err =>
        if isOrgAccessDenied err then
          failOrgPermissions s job requestID now "ListParents" err
        else
          retryProvisionJobOrFail s job requestID now "list_parents_failed"
            ("organizations ListParents failed: " ++ err.text) provisionDefaultShortRetryDelay (5 * Minute)
    | .ok parent =>
        let sourceParent := TrimSpace parent
        if sourceParent = "" ∨ sourceParent = targetOu then return ⟨job, 0, false⟩
        else match ← ask job (.moveAccount accID sourceParent targetOu) with
          | .error err =>
              if isOrgAccessDenied err then
                failOrgPermissions s job requestID now "MoveAccount" err
              else
                retryProvisionJobOrFail s { job with Note := "retrying OU move" } requestID now
                  "move_account_failed" ("organizations MoveAccount failed: " ++ err.text)
                  provisionDefaultShortRetryDelay (10 * Minute)
          | .ok () =>
              persistOrStop s { job with Note := "moved account to OU" } requestID now noUpdate 0 false

def advanceToAssumeRole (job : ProvisionJob) : Worker StepResult :=
  persistOrStop s
    { job with
      Step := provisionStepAssumeRole
      Note := "assuming provisioning role into instance account" }
    requestID now (fun job => [("HostedAccountID", .text (TrimSpace job.AccountID))]) 0 false

def advanceProvisionAccountMove (job : ProvisionJob) : Worker StepResult :=
  unlessOver (validateAdoptedProvisionAccount s requestID now job) fun job =>
    if jobFailed job then return ⟨job, 0, true⟩
    else
      let targetOu := TrimSpace s.cfg.ManagedTargetOrganizationalUnitID
      if targetOu ≠ "" then
        -- whether the move has failed the job is not looked at
        unlessOver (moveProvisionAccountToTargetOU s requestID now job targetOu)
          (advanceToAssumeRole s requestID now)
      else advanceToAssumeRole s requestID now job

/-! ## The role -/

/-- Does a failed `AssumeRole` mean that the role is not ready yet or not open to the worker? -/
def classifyAssumeRoleFailure (err : GoErr) : Option String :=
  let known := ["AccessDeniedException", "AccessDenied", "NoSuchEntity", "InvalidClientTokenId"]
  let contains (text word : String) : Bool := decide (word.toList <:+: text.toList)
  let sanitize (text : String) : String := Join (Fields text) " "
  let code := ToLower (match err.api with
    | some (code, _) => sanitize code
    | none => (known.find? (contains err.text)).getD "")
  let msg := ToLower (match err.api with
    | some (_, message) => sanitize message
    | none => sanitize err.text)
  if code = "nosuchentity" ∨ code = "invalidclienttokenid" ∨
      ["nosuchentity", "no such entity", "could not be found", "not found", "invalidclienttokenid"].any
        (contains msg) then some "readiness"
  else if code = "accessdenied" ∨ code = "accessdeniedexception" ∨
      ["accessdenied", "access denied", "is not authorized"].any (contains msg) then some "access_denied"
  else none

/-- Why a role was not assumed: the error, and the time to wait if the role may get ready. -/
structure AssumeRoleFailure where
  err : GoErr
  retryAfter : Option Int

/-- `assumeInstanceRole`: are there credentials? -/
def assumeInstanceRole (job : ProvisionJob) (accountID roleName : String) :
    Worker (Except AssumeRoleFailure Bool) := do
  let accountID := TrimSpace accountID
  let roleName := TrimSpace roleName
  if accountID = "" ∨ roleName = "" then
    return .error ⟨errorf "account id and role name are required", none⟩
  else
    let roleArn := "arn:aws:iam::" ++ accountID ++ ":role/" ++ roleName
    let sessionName := "lesser-host-" ++ TrimSpace job.InstanceSlug ++ "-" ++ TrimSpace job.ID
    match ← ask job (.assumeRole roleArn (sliceTo sessionName 64)) with
    | .ok credentials => return .ok credentials
    | .error err =>
        match classifyAssumeRoleFailure err with
        | some kind => return .error ⟨⟨"sts AssumeRole " ++ kind ++ "; " ++ err.text, err.api⟩,
            some provisionDefaultPollDelay⟩
        | none => return .error ⟨err, none⟩

def advanceProvisionAssumeRole (job : ProvisionJob) : Worker StepResult := do
  let accID := TrimSpace job.AccountID
  if accID = "" then
    goTo s requestID now job provisionStepAccountCreate noteMissingAccountIDRestart
  else if olderThan now job (provisionMaxAssumeRoleAge + provisionMaxAccountCreateAge) then
    failStep s job requestID now "assume_role_timeout"
      "timed out waiting for instance role to become assumable"
  else match ← assumeInstanceRole job accID (TrimSpace job.AccountRoleName) with
    | .error ⟨_, some retryAfter⟩ =>
        persistAndWait s { job with Note := "waiting for role to become assumable" } requestID now
          retryAfter
    | .error ⟨err, none⟩ =>
        retryOrFail s job requestID now "assume_role_failed" ("sts AssumeRole failed: " ++ err.text) none
          provisionDefaultShortRetryDelay (5 * Minute)
    | .ok _ => goTo s requestID now job provisionStepChildZone "creating delegated hosted zone"

/-! ## The domain -/

def ensureTrailingDot (name : String) : String :=
  let name := TrimSpace name
  if name = "" then "" else if HasSuffix name "." then name else name ++ "."

def normalizeHostedZoneID (id : String) : String :=
  TrimPrefix (TrimPrefix (TrimSpace id) "/hostedzone/") "hostedzone/"

/-- `dedupeSortedStrings`. -/
def dedupeSorted : List String → List String
  | a :: b :: rest => if a = b then dedupeSorted (b :: rest) else a :: dedupeSorted (b :: rest)
  | l => l

/-- `normalizeNameServers`: trimmed, without empty ones, sorted by their bytes and without repetitions. -/
def normalizeNameServers (servers : List String) : List String :=
  dedupeSorted (((servers.map TrimSpace).filter (· ≠ "")).mergeSort fun a b =>
    decide (bytes a ≤ bytes b))

/-- `childRoute53Client`. -/
def childRoute53Client (job : ProvisionJob) (accountID roleName : String) :
    Worker (Except GoErr Unit) := do
  match ← assumeInstanceRole job accountID roleName with
  | .error failure => return .error (failure.err.wrap "assume instance role")
  | .ok false => return .error (errorf "assume role returned empty credentials")
  | .ok true => return .ok ()

/-- `findHostedZoneIDByName`. -/
def findHostedZoneIDByName (zones : List HostedZone) (domainDot : String) : String :=
  (zones.findSome? fun zone =>
    match zone.Name, zone.Id with
    | some name, some id =>
        if EqualFold (TrimSpace name) domainDot then some (normalizeHostedZoneID (TrimSpace id)) else none
    | _, _ => none).getD ""

/-- `ensureHostedZoneAndNameServers` after the zone is known, with the name servers found so far. -/
def ensureNameServers (job : ProvisionJob) (domainDot zoneID : String) (nameServers : List String) :
    Worker (Except GoErr (String × List String)) := do
  if zoneID = "" then
    return .error (errorf ("unable to resolve child hosted zone id for " ++ domainDot))
  else if nameServers ≠ [] then return .ok (zoneID, nameServers)
  else match ← ask job (.getHostedZone zoneID) with
    | .error err => return .error (err.wrap "get hosted zone")
    | .ok servers =>
        if normalizeNameServers servers = [] then
          return .error (errorf "child hosted zone has no name servers")
        else return .ok (zoneID, normalizeNameServers servers)

/-- `ensureHostedZoneAndNameServers`. -/
def ensureHostedZoneAndNameServers (job : ProvisionJob) (domainDot existingZoneID : String)
    (existingNameServers : List String) (jobID : String) :
    Worker (Except GoErr (String × List String)) := do
  let zoneID := normalizeHostedZoneID existingZoneID
  let nameServers := normalizeNameServers existingNameServers
  if zoneID ≠ "" then ensureNameServers job domainDot zoneID nameServers
  else match ← ask job (.listHostedZonesByName domainDot) with
    | .error err => return .error (err.wrap "list hosted zones by name")
    | .ok zones =>
        let zoneID := findHostedZoneIDByName zones domainDot
        if zoneID ≠ "" then ensureNameServers job domainDot zoneID nameServers
        else match ← ask job (.createHostedZone domainDot ("lesser-host-" ++ TrimSpace jobID)) with
          | .error err => return .error (err.wrap "create hosted zone")
          | .ok (id, servers) =>
              ensureNameServers job domainDot (normalizeHostedZoneID (TrimSpace id))
                (normalizeNameServers servers)

/-- `ensureChildHostedZone`. -/
def ensureChildHostedZone (job : ProvisionJob) (accountID : String) :
    Worker (Except GoErr (String × List String)) := do
  let roleName := TrimSpace job.AccountRoleName
  let baseDomain := TrimSpace job.BaseDomain
  if accountID = "" ∨ roleName = "" ∨ baseDomain = "" then
    return .error (errorf "accountID, roleName, and baseDomain are required")
  else match ← childRoute53Client job accountID roleName with
    | .error err => return .error err
    | .ok () =>
        ensureHostedZoneAndNameServers job (ensureTrailingDot baseDomain)
          (TrimSpace job.ChildHostedZoneID) job.ChildNameServers (TrimSpace job.ID)

def advanceProvisionChildZone (job : ProvisionJob) : Worker StepResult := do
  let accID := TrimSpace job.AccountID
  if accID = "" then
    goTo s requestID now job provisionStepAccountCreate noteMissingAccountIDRestart
  else match ← ensureChildHostedZone job accID with
    | .error err =>
        retryOrFail s job requestID now "child_zone_failed"
          ("failed to ensure child hosted zone: " ++ err.text)
          (some ("failed to ensure child hosted zone; retrying: " ++ compactErr err))
          provisionDefaultShortRetryDelay (10 * Minute)
    | .ok (childZoneID, nameServers) =>
        persistOrStop s
          { job with
            ChildHostedZoneID := TrimSpace childZoneID
            ChildNameServers := nameServers
            Step := provisionStepParentDelegation
            Note := "delegating DNS from parent zone" }
          requestID now
          (fun job => if TrimSpace job.ChildHostedZoneID ≠ "" then
            [("HostedZoneID", .text (TrimSpace job.ChildHostedZoneID))] else []) 0 false

/-- `upsertParentNSDelegation`. -/
def upsertParentNSDelegation (job : ProvisionJob) : Worker (Except GoErr Unit) := do
  let parentZoneID := TrimSpace job.ParentHostedZoneID
  let baseDomain := TrimSpace job.BaseDomain
  if parentZoneID = "" ∨ baseDomain = "" then
    return .error (errorf "parentZoneID and baseDomain are required")
  else
    let servers := normalizeNameServers job.ChildNameServers
    if servers = [] then return .error (errorf "nameServers are required")
    else ask job (.changeResourceRecordSets parentZoneID (ensureTrailingDot baseDomain) servers)

def advanceProvisionParentDelegation (job : ProvisionJob) : Worker StepResult := do
  if TrimSpace job.ParentHostedZoneID = "" then
    failStep s job requestID now "missing_parent_zone" "parent hosted zone id is missing"
  else if job.ChildNameServers = [] then
    goTo s requestID now job provisionStepChildZone
      "missing child zone name servers; reloading child hosted zone"
  else match ← upsertParentNSDelegation job with
    | .error err =>
        retryOrFail s job requestID now "parent_delegation_failed"
          ("failed to upsert parent NS delegation: " ++ err.text)
          (some ("failed to upsert parent NS delegation; retrying: " ++ compactErr err))
          provisionDefaultShortRetryDelay (10 * Minute)
    | .ok () =>
        goTo s requestID now job provisionStepInstanceConfig noteEnsuringInstanceConfiguration

/-! ## The instance's configuration -/

/-- `loadInstance`. -/
def loadInstance (job : ProvisionJob) (slug : String) : Worker (Except GoErr (Option Instance)) := do
  let slug := TrimSpace (ToLower slug)
  if slug = "" then return .error (errorf "instance slug is required")
  else ask job (.loadInstance slug)

def setIfNotEmpty (field value : String) : InstanceUpdate :=
  if value = "" then [] else [(field, .text value)]

def setIfNil (field : String) (current : Option Bool) (default : Bool) : InstanceUpdate :=
  match current with
  | some _ => []
  | none => [(field, .flag default)]

/-- `provisionInstanceConfigInstanceUpdate`. -/
def provisionInstanceConfigInstanceUpdate (inst : Instance) (publicBaseURL secretArn : String)
    (job : ProvisionJob) : InstanceUpdate :=
  setIfNotEmpty "LesserVersion" (TrimSpace job.LesserVersion) ++
  (if publicBaseURL = "" then [] else
    [("LesserHostBaseURL", .text publicBaseURL), ("LesserHostAttestationsURL", .text publicBaseURL)]) ++
  setIfNotEmpty "LesserHostInstanceKeySecretARN" secretArn ++
  setIfNil "TranslationEnabled" inst.TranslationEnabled true ++
  setIfNil "TipEnabled" inst.TipEnabled false ++
  setIfNil "LesserAIEnabled" inst.LesserAIEnabled true ++
  setIfNil "LesserAIModerationEnabled" inst.LesserAIModerationEnabled true ++
  setIfNil "LesserAINsfwDetectionEnabled" inst.LesserAINsfwDetectionEnabled true ++
  setIfNil "LesserAISpamDetectionEnabled" inst.LesserAISpamDetectionEnabled true ++
  setIfNil "LesserAIPiiDetectionEnabled" inst.LesserAIPiiDetectionEnabled false ++
  setIfNil "LesserAIContentDetectionEnabled" inst.LesserAIContentDetectionEnabled false

def advanceProvisionInstanceConfig (job : ProvisionJob) : Worker StepResult := do
  if TrimSpace job.AccountID = "" then
    goTo s requestID now job provisionStepAccountCreate noteMissingAccountIDRestart
  else match ← loadInstance job (TrimSpace job.InstanceSlug) with
    | .error err =>
        retryProvisionJobOrFail s job requestID now "instance_load_failed"
          ("failed to load instance: " ++ err.text) provisionDefaultShortRetryDelay (2 * Minute)
    | .ok none => failStep s job requestID now "instance_not_found" "instance record not found"
    | .ok (some inst) =>
        persistOrStop s
          { job with Step := provisionStepDeployStart, Note := "starting instance deploy runner" }
          requestID now
          (provisionInstanceConfigInstanceUpdate inst (TrimSpace (publicBaseURL s.cfg))
            (TrimSpace inst.LesserHostInstanceKeySecretARN)) 0 false

end LesserHost.ProvisionWorker
