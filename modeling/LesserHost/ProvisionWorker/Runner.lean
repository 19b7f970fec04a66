import LesserHost.Go.Base64
import LesserHost.Go.JSONText
import LesserHost.ProvisionWorker.Account

set_option autoImplicit false

/-! # Starting a deploy runner

`server_helpers.go`, `deploy_runner_validation.go` and `deploy_runner_trust.go`: what is checked before a
build is started, the environment the build gets, and the checks of what it reports back. -/

namespace LesserHost.ProvisionWorker

open LesserHost.Go

variable (s : Server)

def deployRunnerModeLesser : String := "lesser"
def deployRunnerModeLesserBody : String := "lesser-body"
def deployRunnerModeLesserMCP : String := "lesser-mcp"

/-! ## The job and its instance -/

def validateDeployRunnerJob (job : ProvisionJob) : Except GoErr Unit :=
  if TrimSpace job.InstanceSlug = "" then .error (errorf "instance slug not configured")
  else if TrimSpace job.AdminUsername = "" then .error (errorf "admin username not configured")
  else if TrimSpace job.AdminWalletAddr = "" then .error (errorf "admin wallet not configured")
  else .ok ()

def provisionRunnerProjectName : Except GoErr String :=
  let projectName := TrimSpace s.cfg.ManagedProvisionRunnerProjectName
  if projectName = "" then .error (errorf "runner project name not configured") else .ok projectName

def deployRunnerStage (job : ProvisionJob) : String :=
  normalizeManagedLesserStage (orElse (TrimSpace job.Stage) (TrimSpace s.cfg.Stage))

/-- `awsAccountIDRE`: twelve digits. -/
def isAWSAccountID (value : String) : Bool :=
  value.toList.length == 12 && value.toList.all fun c => '0' ≤ c && c ≤ '9'

/-- `evmAddressRE`: `0x` and forty hexadecimal digits. -/
def isEVMAddress (value : String) : Bool :=
  HasPrefix value "0x" && (value.toList.drop 2).length == 40 &&
    (value.toList.drop 2).all fun c => (JSONText.hexValue c).isSome

def expectedManagedInstanceRoleName : String :=
  orElse (TrimSpace s.cfg.ManagedInstanceRoleName) defaultManagedInstanceRoleName

/-- `validateDeployRunnerJobForInstance`, its parts in their order. -/
def validateDeployRunnerJobForInstance (job : ProvisionJob) (inst : Instance) : Except GoErr Unit := do
  let slug := TrimSpace job.InstanceSlug
  if slug = "" ∨ TrimSpace inst.Slug = "" ∨ EqualFold slug (TrimSpace inst.Slug) = false then
    throw (errorf "deploy runner instance slug does not match job")
  let accountID := TrimSpace job.AccountID
  if isAWSAccountID accountID = false then
    throw (errorf "target account id must be a 12-digit AWS account id")
  if TrimSpace inst.HostedAccountID ≠ "" ∧ TrimSpace inst.HostedAccountID ≠ accountID then
    throw (errorf "deploy runner target account does not match instance metadata")
  let roleName := TrimSpace job.AccountRoleName
  if roleName = "" then throw (errorf "target role name is required")
  if expectedManagedInstanceRoleName s ≠ "" ∧ roleName ≠ expectedManagedInstanceRoleName s then
    throw (errorf "deploy runner target role does not match managed instance role")
  let region := TrimSpace job.Region
  if region = "" then throw (errorf "target region is required")
  if TrimSpace inst.HostedRegion ≠ "" ∧ TrimSpace inst.HostedRegion ≠ region then
    throw (errorf "deploy runner target region does not match instance metadata")
  let baseDomain := TrimSpace job.BaseDomain
  if baseDomain = "" then throw (errorf "base domain is required")
  if TrimSpace inst.HostedBaseDomain ≠ "" ∧ EqualFold (TrimSpace inst.HostedBaseDomain) baseDomain = false
  then throw (errorf "deploy runner base domain does not match instance metadata")
  if TrimSpace job.LesserVersion = "" then throw (errorf "lesser version is required")

def validateManagedTipDeployConfig (enabled : Bool) (chainID : Int) (contractAddress : String) :
    Except GoErr Unit :=
  if enabled = false then .ok ()
  else if chainID ≤ 0 then .error (errorf "tip chain id is required when tips are enabled")
  else if isEVMAddress (TrimSpace contractAddress) = false then
    .error (errorf "tip contract address must be a 20-byte EVM address when tips are enabled")
  else .ok ()

/-! ## Amazon resource names -/

structure ARN where
  Partition : String
  Service : String
  Region : String
  AccountID : String
  Resource : String

/-- `arn.Parse`: six sections, the last of which may contain colons. -/
def arnParse (value : String) : Except GoErr ARN :=
  if HasPrefix value "arn:" = false then .error (errorf "arn: invalid prefix")
  else match Split value ':' with
  | _ :: partition :: service :: region :: account :: resource :: rest =>
      .ok ⟨partition, service, region, account, Join (resource :: rest) ":"⟩
  | _ => .error (errorf "arn: not enough sections")

def validateIAMRoleARN (value : String) : Except GoErr Unit :=
  match arnParse (TrimSpace value) with
  | .error e => .error e
  | .ok parsed =>
      if parsed.Service ≠ "iam" ∨ parsed.AccountID = "" ∨ HasPrefix parsed.Resource "role/" = false then
        .error (errorf "expected iam role arn")
      else .ok ()

/-- `managedInstanceKeyReceiptBinding`. -/
structure ReceiptBinding where
  kind : String
  slug : String
  accountID : String
  region : String
  stage : String

def provisionManagedInstanceKeyReceiptBinding (job : ProvisionJob) : ReceiptBinding :=
  ⟨"provision job", TrimSpace job.InstanceSlug, TrimSpace job.AccountID, TrimSpace job.Region,
    TrimSpace job.Stage⟩

def soulBindingIntegrationSecretARNPrefix : String := "arn:aws:secretsmanager:"

def soulBindingIntegrationSecretName (targetDeploymentStage slug : String) : String :=
  let slug := ToLower (TrimSpace slug)
  if slug = "" then ""
  else normalizeManagedLesserStage targetDeploymentStage ++ "/" ++ slug ++ "/soul-binding-integration"

/-- A secret's ARN ends with its name, or with its name and six letters or digits. -/
def secretsManagerARNResourceMatchesName (resource canonicalName : String) : Bool :=
  let secretName := TrimPrefix (TrimSpace resource) "secret:"
  let canonicalName := TrimSpace canonicalName
  secretName == canonicalName ||
    (HasPrefix secretName (canonicalName ++ "-") &&
      let suffix := (TrimPrefix secretName (canonicalName ++ "-")).toList
      suffix.length == 6 && suffix.all fun c => c.isAlphanum)

/-- A secret's ARN names region, account and a secret. -/
def parseSecretARN (value : String) : Option ARN :=
  match arnParse value with
  | .error _ => none
  | .ok parsed =>
      if parsed.Service = "secretsmanager" ∧ TrimSpace parsed.Region ≠ "" ∧
        TrimSpace parsed.AccountID ≠ "" ∧ HasPrefix parsed.Resource "secret:" = true then some parsed
      else none

/-- Account and region of a secret are those of the job, where the job has them. -/
def secretARNMatches (what : String) (binding : ReceiptBinding) (parsed : ARN) : Except GoErr Unit :=
  if TrimSpace binding.accountID ≠ "" ∧ parsed.AccountID ≠ TrimSpace binding.accountID then
    .error (errorf (what ++ " secret ARN account does not match " ++ binding.kind))
  else if TrimSpace binding.region ≠ "" ∧ parsed.Region ≠ TrimSpace binding.region then
    .error (errorf (what ++ " secret ARN region does not match " ++ binding.kind))
  else .ok ()

def validateSoulBindingIntegrationSecretRef (binding : ReceiptBinding) (targetDeploymentStage ref : String) :
    Except GoErr Unit := do
  let canonicalName := soulBindingIntegrationSecretName targetDeploymentStage binding.slug
  let ref := TrimSpace ref
  if canonicalName = "" ∨ ref = "" then
    throw (errorf "soul binding integration secret reference is invalid")
  if ref = canonicalName then return ()
  if HasPrefix ref soulBindingIntegrationSecretARNPrefix = false then
    throw (errorf "soul binding integration secret name does not match canonical target stage and slug")
  match parseSecretARN ref with
  | none => throw (errorf "soul binding integration secret reference is invalid")
  | some parsed =>
      secretARNMatches "soul binding integration" binding parsed
      if secretsManagerARNResourceMatchesName parsed.Resource canonicalName = false then
        throw (errorf
          "soul binding integration secret ARN name does not match canonical target stage and slug")

/-! ## The instance's inputs -/

/-- `provisionDeployRunnerInstanceInputs`. -/
structure DeployRunnerInputs where
  lesserHostURL : String
  lesserHostAttestationsURL : String
  instanceKeySecretArn : String
  soulBindingSecretArn : String
  translationEnabled : Bool
  tipEnabled : Bool
  tipChainID : Int
  tipContractAddress : String
  aiEnabled : Bool
  aiModerationEnabled : Bool
  aiNsfwDetectionEnabled : Bool
  aiSpamDetectionEnabled : Bool
  aiPiiDetectionEnabled : Bool
  aiContentDetectionEnabled : Bool

/-- The inputs that an instance asks for. -/
def deployRunnerInputs (job : ProvisionJob) (inst : Instance) : DeployRunnerInputs :=
  let url := orElse (TrimSpace inst.LesserHostBaseURL) (TrimSpace (publicBaseURL s.cfg))
  { lesserHostURL := url
    lesserHostAttestationsURL := orElse (TrimSpace inst.LesserHostAttestationsURL) url
    instanceKeySecretArn := TrimSpace inst.LesserHostInstanceKeySecretARN
    soulBindingSecretArn := orElse (TrimSpace inst.SoulBindingIntegrationSecretARN)
      (soulBindingIntegrationSecretName (deployRunnerStage s job) (TrimSpace job.InstanceSlug))
    translationEnabled := inst.TranslationEnabled.getD false
    tipEnabled := inst.TipEnabled.getD false
    tipChainID := inst.TipChainID
    tipContractAddress := TrimSpace inst.TipContractAddress
    aiEnabled := inst.LesserAIEnabled.getD true
    aiModerationEnabled := inst.LesserAIModerationEnabled.getD true
    aiNsfwDetectionEnabled := inst.LesserAINsfwDetectionEnabled.getD true
    aiSpamDetectionEnabled := inst.LesserAISpamDetectionEnabled.getD true
    aiPiiDetectionEnabled := inst.LesserAIPiiDetectionEnabled.getD false
    aiContentDetectionEnabled := inst.LesserAIContentDetectionEnabled.getD false }

def resolveProvisionDeployRunnerInstanceInputs (job : ProvisionJob) :
    Worker (Except GoErr DeployRunnerInputs) := do
  match ← loadInstance job (TrimSpace job.InstanceSlug) with
  | .error err => return .error err
  | .ok none => return .error (errorf "instance not found")
  | .ok (some inst) => return do
      validateDeployRunnerJobForInstance s job inst
      let inputs := deployRunnerInputs s job inst
      if inputs.lesserHostURL = "" then throw (errorf "lesser host base url is missing")
      validateManagedTipDeployConfig inputs.tipEnabled inputs.tipChainID inputs.tipContractAddress
      let targetStage := deployRunnerStage s job
      validateSoulBindingIntegrationSecretRef
        { provisionManagedInstanceKeyReceiptBinding job with stage := targetStage } targetStage
        inputs.soulBindingSecretArn
      return inputs

/-! ## Trust -/

def deployRunnerExternalID (slug : String) : String :=
  let slug := TrimSpace slug
  if slug = "" then "lesser-host/deploy/unknown" else "lesser-host/deploy/" ++ slug

/-- `updateAndReadBackAssumeRoleTrustPolicy`. -/
def updateAndReadBackAssumeRoleTrustPolicy (job : ProvisionJob) (roleName policy : String) :
    Worker (Except GoErr String) := do
  match ← ask job (.updateAssumeRolePolicy roleName policy) with
  | .error err => return .error (err.wrap "update managed instance role trust policy")
  | .ok () =>
      match ← ask job (.getRole roleName) with
      | .error err => return .error (err.wrap "verify managed instance role trust policy")
      | .ok verified =>
          if TrimSpace verified = "" then
            return .error (errorf "verify managed instance role trust policy: policy is empty")
          else return .ok (TrimSpace verified)

/-- `ensureDeployRunnerAssumeRoleTrust` once the policy of the role is known. -/
def ensureTrustPolicy (job : ProvisionJob) (runnerRoleARN roleName slug rawPolicy : String) :
    Worker (Except GoErr Unit) := do
  let externalID := deployRunnerExternalID slug
  match s.policies.resolveManagementRootPrincipalARN s.managedOrgVendingRoleARN rawPolicy with
  | .error err => return .error err
  | .ok managementPrincipalARN =>
      match s.policies.ensureAssumeRolePolicyAllowsPrincipal rawPolicy runnerRoleARN externalID
          managementPrincipalARN with
      | .error err => return .error err
      | .ok (updated, changed) =>
          let verified ← (if changed then
              updateAndReadBackAssumeRoleTrustPolicy job roleName updated
            else return .ok rawPolicy)
          return do
            let policy ← verified
            (s.policies.verifyDeployRunnerAssumeRoleTrustPolicy policy runnerRoleARN externalID
              managementPrincipalARN).mapError fun e => e.wrap "verify managed instance role trust policy"

def ensureDeployRunnerAssumeRoleTrust (job : ProvisionJob) : Worker (Except GoErr Unit) := do
  let runnerRoleARN := TrimSpace s.cfg.ManagedProvisionRunnerRoleARN
  let accountID := TrimSpace job.AccountID
  let roleName := TrimSpace job.AccountRoleName
  if runnerRoleARN = "" then return .ok ()
  else match validateIAMRoleARN runnerRoleARN with
  | .error err => return .error (err.wrap "invalid managed provision runner role arn")
  | .ok () =>
      if accountID = "" ∨ roleName = "" then
        return .error (errorf "account id and role name are required")
      else match ← assumeInstanceRole job accountID roleName with
      | .error failure => return .error (failure.err.wrap "assume instance role")
      | .ok false => return .error (errorf "assume role returned empty credentials")
      | .ok true =>
          match ← ask job (.getRole roleName) with
          | .error err => return .error (err.wrap "get managed instance role trust policy")
          | .ok policy =>
              if TrimSpace policy = "" then
                return .error (errorf "managed instance role trust policy is empty")
              else
                ensureTrustPolicy s job runnerRoleARN roleName (TrimSpace job.InstanceSlug)
                  (TrimSpace policy)

/-! ## The release -/

/-- The numbers of a version `v1.2.3`. -/
def parseManagedReleaseSemver (version : String) : Except GoErr (Int × Int × Int) :=
  let version := TrimSpace version
  let isNumber (part : String) : Bool := (parseDigits (bytes part)).isSome
  let number (part : String) : Except GoErr Int :=
    match Atoi (bytes part) with
    | some n => .ok n
    | none => .error (errorf ("strconv.Atoi: parsing " ++ Quote part ++ ": value out of range"))
  match HasPrefix version "v", Split (TrimPrefix version "v") '.' with
  | true, [major, minor, patch] =>
      if isNumber major && isNumber minor && isNumber patch then
        return (← number major, ← number minor, ← number patch)
      else
        .error (errorf ("release version " ++ Quote version
          ++ " must be a concrete semver tag like v1.2.6"))
  | _, _ =>
      .error (errorf ("release version " ++ Quote version
        ++ " must be a concrete semver tag like v1.2.6"))

/-- `ValidateManagedLesserBodyReleaseVersionSupported`: nothing before v1.0.8. -/
def ValidateManagedLesserBodyReleaseVersionSupported (version : String) : Except GoErr Unit :=
  let version := TrimSpace version
  if version = "" then .error (errorf "lesser-body version is required")
  else match parseManagedReleaseSemver version with
  | .error e => .error ⟨"lesser-body " ++ e.text, e.api⟩
  | .ok (major, minor, patch) =>
      if major < 1 ∨ (major = 1 ∧ (minor < 0 ∨ (minor = 0 ∧ patch < 8))) then
        .error (errorf ("managed lesser-body releases before v1.0.8 are not supported by this "
          ++ "lesser-host build: the standard three-phase flow requires the instance-plane SSM "
          ++ "contract, including instance_mcp_lambda_arn"))
      else .ok ()

def normalizeDeployRunnerMode (mode : String) : String :=
  let mode := ToLower (TrimSpace mode)
  if mode = "" then deployRunnerModeLesser else mode

def validateDeployRunnerLesserBodyPhaseVersion (mode version : String) : Except GoErr Unit :=
  if normalizeDeployRunnerMode mode ≠ deployRunnerModeLesserMCP then .ok ()
  else (ValidateManagedLesserBodyReleaseVersionSupported version).mapError fun e =>
    e.wrap "RUN_MODE=lesser-mcp requires a compatible lesser-body release"

/-! ## The build -/

def receiptKey (job : ProvisionJob) (file : String) : String :=
  "managed/provisioning/" ++ TrimSpace job.InstanceSlug ++ "/" ++ TrimSpace job.ID ++ "/" ++ file

def receiptS3Key (job : ProvisionJob) : String := receiptKey job "state.json"

def bodyReceiptS3Key (job : ProvisionJob) : String := receiptKey job "body-state.json"

def mcpReceiptS3Key (job : ProvisionJob) : String := receiptKey job "mcp-state.json"

def bootstrapS3Key (job : ProvisionJob) : String :=
  "managed/provisioning/" ++ TrimSpace job.InstanceSlug ++ "/bootstrap.json"

/-- `base64.StdEncoding.EncodeToString`. -/
def base64Std (text : String) : String := asciiText (Base64.encode (bytes text))

def boolText (b : Bool) : String := if b then "true" else "false"

def buildDeployRunnerEnv (job : ProvisionJob) (stage receiptKey bootstrapKey : String) :
    List (String × String) :=
  [ ("JOB_ID", TrimSpace job.ID),
    ("APP_SLUG", TrimSpace job.InstanceSlug),
    ("STAGE", stage),
    ("ADMIN_USERNAME", TrimSpace job.AdminUsername),
    ("ADMIN_WALLET_ADDRESS", TrimSpace job.AdminWalletAddr),
    ("ADMIN_WALLET_CHAIN_ID", Itoa job.AdminWalletChainID),
    ("CONSENT_MESSAGE_B64", if job.ConsentMessage ≠ "" then base64Std job.ConsentMessage else ""),
    ("CONSENT_SIGNATURE", job.ConsentSignature),
    ("BASE_DOMAIN", TrimSpace job.BaseDomain),
    ("TARGET_ACCOUNT_ID", TrimSpace job.AccountID),
    ("TARGET_ROLE_NAME", TrimSpace job.AccountRoleName),
    ("TARGET_REGION", TrimSpace job.Region),
    ("DEPLOY_EXTERNAL_ID", deployRunnerExternalID (TrimSpace job.InstanceSlug)),
    ("LESSER_VERSION", TrimSpace job.LesserVersion),
    ("ARTIFACT_BUCKET", TrimSpace s.cfg.ArtifactBucketName),
    ("RECEIPT_S3_KEY", receiptKey),
    ("BOOTSTRAP_S3_KEY", bootstrapKey),
    ("GITHUB_OWNER", TrimSpace s.cfg.ManagedLesserGitHubOwner),
    ("GITHUB_REPO", TrimSpace s.cfg.ManagedLesserGitHubRepo),
    ("LESSER_BODY_GITHUB_OWNER", TrimSpace s.cfg.ManagedLesserBodyGitHubOwner),
    ("LESSER_BODY_GITHUB_REPO", TrimSpace s.cfg.ManagedLesserBodyGitHubRepo),
    ("LESSER_BODY_VERSION", TrimSpace s.cfg.ManagedLesserBodyDefaultVersion) ]

/-- `BODY_ENABLED` and `INSTANCE_PLANE_ENABLED`: off for the first phase, on for the wiring, and not
    mentioned for the body itself. -/
def deployRunnerPhaseEnv (mode : String) : List (String × String) :=
  if mode = deployRunnerModeLesser then [("BODY_ENABLED", "false"), ("INSTANCE_PLANE_ENABLED", "false")]
  else if mode = deployRunnerModeLesserMCP then
    [("BODY_ENABLED", "true"), ("INSTANCE_PLANE_ENABLED", "true")]
  else []

/-- `appendProvisionDeployRunnerInstanceEnv`. -/
def deployRunnerInstanceEnv (inputs : DeployRunnerInputs) : List (String × String) :=
  [ ("LESSER_HOST_URL", inputs.lesserHostURL),
    ("LESSER_HOST_ATTESTATIONS_URL", inputs.lesserHostAttestationsURL),
    ("LESSER_HOST_INSTANCE_KEY_ARN", inputs.instanceKeySecretArn),
    ("LESSER_HOST_INSTANCE_KEY_SECRET_ID", inputs.instanceKeySecretArn),
    ("SOUL_BINDING_INTEGRATION_KEY_ARN", inputs.soulBindingSecretArn),
    ("TRANSLATION_ENABLED", boolText inputs.translationEnabled),
    ("TIP_ENABLED", boolText inputs.tipEnabled),
    ("AI_ENABLED", boolText inputs.aiEnabled),
    ("AI_MODERATION_ENABLED", boolText inputs.aiModerationEnabled),
    ("AI_NSFW_DETECTION_ENABLED", boolText inputs.aiNsfwDetectionEnabled),
    ("AI_SPAM_DETECTION_ENABLED", boolText inputs.aiSpamDetectionEnabled),
    ("AI_PII_DETECTION_ENABLED", boolText inputs.aiPiiDetectionEnabled),
    ("AI_CONTENT_DETECTION_ENABLED", boolText inputs.aiContentDetectionEnabled) ] ++
  (if inputs.tipEnabled then
    [("TIP_CHAIN_ID", Itoa inputs.tipChainID), ("TIP_CONTRACT_ADDRESS", inputs.tipContractAddress)]
  else [])

/-- `codebuildIdempotencyToken`. -/
def codebuildIdempotencyToken (parts : List String) : String :=
  let normalized := parts.map TrimSpace
  if normalized.all (· = "") then ""
  else String.ofList ((hexEncode (s.sha256 (bytes (Join normalized "\n"))).toList).take 32)

/-- The build that is asked for. -/
def startBuildInput (job : ProvisionJob) (projectName mode receiptKey : String)
    (inputs : DeployRunnerInputs) : StartBuildInput :=
  let stage := deployRunnerStage s job
  let mode := normalizeDeployRunnerMode mode
  { ProjectName := projectName
    Env := buildDeployRunnerEnv s job stage receiptKey (bootstrapS3Key job) ++
      ("RUN_MODE", mode) :: deployRunnerPhaseEnv mode ++ deployRunnerInstanceEnv inputs
    IdempotencyToken := codebuildIdempotencyToken s
      [projectName, stage, TrimSpace job.InstanceSlug, TrimSpace job.ID, mode, TrimSpace receiptKey] }

def codebuildBuildID (build : Option BuildRef) : Except GoErr String :=
  match build with
  | none => .error (errorf "codebuild StartBuild returned empty build")
  | some ref =>
      let id := TrimSpace (ref.Id.getD "")
      let arn := TrimSpace (ref.Arn.getD "")
      if id ≠ "" then .ok id
      else if arn ≠ "" then .ok arn
      else .error (errorf "codebuild StartBuild returned empty build id")

/-- `startDeployRunnerWithMode` before it asks for a build: the build, or why there is none. -/
def prepareDeployRunner (job : ProvisionJob) (mode receiptKey : String) :
    Worker (Except GoErr StartBuildInput) := do
  match validateDeployRunnerJob job, provisionRunnerProjectName s with
  | .error err, _ => return .error err
  | .ok (), .error err => return .error err
  | .ok (), .ok projectName =>
      match ← resolveProvisionDeployRunnerInstanceInputs s job with
      | .error err => return .error err
      | .ok inputs =>
          match ← ensureDeployRunnerAssumeRoleTrust s job with
          | .error err =>
              return .error (errorf ("deploy runner trust bootstrap failed: " ++ compactErr err))
          | .ok () =>
              return do
                validateDeployRunnerLesserBodyPhaseVersion (normalizeDeployRunnerMode mode)
                  s.cfg.ManagedLesserBodyDefaultVersion
                return startBuildInput s job projectName mode receiptKey inputs

def startDeployRunnerWithMode (job : ProvisionJob) (mode receiptKey : String) :
    Worker (Except GoErr String) := do
  match ← prepareDeployRunner s job mode receiptKey with
  | .error err => return .error err
  | .ok input =>
      match ← ask job (.startBuild input) with
      | .error err => return .error err
      | .ok build => return codebuildBuildID build

def startDeployRunner (job : ProvisionJob) : Worker (Except GoErr String) :=
  startDeployRunnerWithMode s job deployRunnerModeLesser (receiptS3Key job)

/-! ## Receipts -/

/-- `managedInstanceKeySecretStage`. -/
def managedInstanceKeySecretStage (controlPlaneStage : String) : String :=
  let stage := ToLower (TrimSpace controlPlaneStage)
  let stage := if stage = "prod" ∨ stage = "production" then "live" else stage
  let stage := orElse stage defaultControlPlaneStage
  let kept := stage.toList.filter fun c =>
    ('a' ≤ c && c ≤ 'z') || ('0' ≤ c && c ≤ '9') || c == '-' || c == '_' || c == '.'
  orElse (Trim (String.ofList kept) "-_.") defaultControlPlaneStage

/-- `validateManagedInstanceKeyReceiptKeyID` and `validateSoulBindingIntegrationReceiptKeyID`. -/
def validateReceiptKeyID (what keyID : String) : Except GoErr Unit :=
  let keyID := TrimSpace keyID
  if len keyID ≠ 64 ∨ (keyID.toList.all fun c => (JSONText.hexValue c).isSome) = false then
    .error (errorf (what ++ " receipt has invalid key id"))
  else .ok ()

/-- What both proofs of a receipt have to show first. -/
def validateReceiptForBinding (what : String) (binding : ReceiptBinding)
    (receipt : ManagedInstanceKeyReceipt) : Except GoErr Unit := do
  if TrimSpace binding.slug = "" then throw (errorf "job is nil")
  if receipt.Version ≠ 1 then throw (errorf ("unsupported " ++ what ++ " receipt version"))
  if TrimSpace receipt.Source ≠ "deploy-runner-managed-profile" then
    throw (errorf (what ++ " receipt source is invalid"))
  if ToLower (TrimSpace receipt.InstanceSlug) ≠ ToLower (TrimSpace binding.slug) then
    throw (errorf (what ++ " receipt slug does not match " ++ binding.kind))
  if TrimSpace receipt.Stage = "" then throw (errorf (what ++ " receipt stage is missing"))

def validateManagedInstanceKeyReceiptSecretARN (binding : ReceiptBinding) (secretARN : String) :
    Except GoErr Unit :=
  match parseSecretARN (TrimSpace secretARN) with
  | none => .error (errorf "managed instance key receipt secret ARN is invalid")
  | some parsed => secretARNMatches "managed instance key receipt" binding parsed

def validateManagedInstanceKeyReceiptForBinding (binding : ReceiptBinding)
    (receipt : ManagedInstanceKeyReceipt) : Except GoErr Unit := do
  validateReceiptForBinding "managed instance key" binding receipt
  if managedInstanceKeySecretStage receipt.Stage ≠
      managedInstanceKeySecretStage (normalizeManagedLesserStage s.cfg.Stage) then
    throw (errorf "managed instance key receipt stage does not match control plane stage")
  validateManagedInstanceKeyReceiptSecretARN binding receipt.SecretARN
  validateReceiptKeyID "managed instance key" receipt.KeyID

def validateSoulBindingIntegrationReceiptForBinding (binding : ReceiptBinding)
    (receipt : ManagedInstanceKeyReceipt) : Except GoErr Unit := do
  validateReceiptForBinding "soul binding integration" binding receipt
  let expectedStage := normalizeManagedLesserStage (orElse binding.stage s.cfg.Stage)
  if ToLower (TrimSpace receipt.Stage) ≠ expectedStage then
    throw (errorf "soul binding integration receipt stage does not match target deployment stage")
  if TrimSpace receipt.SecretARN = "" then
    throw (errorf "soul binding integration receipt secret ARN is invalid")
  (validateSoulBindingIntegrationSecretRef binding expectedStage receipt.SecretARN).mapError fun e =>
    e.wrap "soul binding integration receipt secret ARN validation failed"
  validateReceiptKeyID "soul binding integration" receipt.KeyID

/-- `ensureInstanceKeyRecord`: a record that exists already is as good as a new one. -/
def ensureInstanceKeyRecord (job : ProvisionJob) (slug keyID : String) : Worker (Except GoErr Unit) := do
  let slug := ToLower (TrimSpace slug)
  let keyID := TrimSpace keyID
  if slug = "" ∨ keyID = "" then return .error (errorf "slug and keyID are required")
  else match ← ask job (.createInstanceKey slug keyID) with
    | .ok | .conditionFailed => return .ok ()
    | .error e => return .error e

/-- `applyProvisionManagedInstanceKeyReceipt`: the secret that the receipt proves. -/
def applyProvisionManagedInstanceKeyReceipt (job : ProvisionJob)
    (receipt : Option ManagedInstanceKeyReceipt) : Worker (Except GoErr String) := do
  match receipt with
  | none => return .error (errorf "managed instance key proof missing from receipt")
  | some receipt =>
      match validateManagedInstanceKeyReceiptForBinding s
          (provisionManagedInstanceKeyReceiptBinding job) receipt with
      | .error err => return .error err
      | .ok () =>
          match ← ensureInstanceKeyRecord job (TrimSpace job.InstanceSlug)
              (ToLower (TrimSpace receipt.KeyID)) with
          | .error err => return .error (err.wrap "ensure instance key record from receipt")
          | .ok () => return .ok (TrimSpace receipt.SecretARN)

/-- `applyProvisionSoulBindingIntegrationReceipt`. -/
def applyProvisionSoulBindingIntegrationReceipt (job : ProvisionJob)
    (receipt : Option ManagedInstanceKeyReceipt) : Except GoErr String := do
  match receipt with
  | none => throw (errorf "soul binding integration proof missing from receipt")
  | some receipt =>
      validateSoulBindingIntegrationReceiptForBinding s
        (provisionManagedInstanceKeyReceiptBinding job) receipt
      return TrimSpace receipt.SecretARN

/-- `loadReceiptFromS3`: the text of the receipt and what it says. -/
def loadReceiptFromS3 (job : ProvisionJob) (bucket key : String) :
    Worker (Except GoErr (String × LesserUpReceipt)) := do
  let bucket := TrimSpace bucket
  let key := TrimSpace key
  if bucket = "" ∨ key = "" then return .error (errorf "bucket and key are required")
  else match ← ask job (.getObject bucket key) with
  | .error err => return .error err
  | .ok data =>
      let raw := TrimSpace data
      if raw = "" then return .error (errorf "receipt is empty")
      else match s.parseReceipt raw with
      | .error err => return .error err
      | .ok parsed =>
          if TrimSpace parsed.BaseDomain = "" ∨ TrimSpace parsed.App = "" then
            return .error (errorf "receipt is missing required fields")
          else return .ok (raw, parsed)

end LesserHost.ProvisionWorker
