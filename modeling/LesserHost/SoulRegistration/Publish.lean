import LesserHost.Outbound.Fetcher
import LesserHost.SoulLifecycle.Handlers

set_option autoImplicit false

/-! # Publishing a registration

`handlers_soul_update_registration.go` takes a signed document and publishes it. A document of version 2
or 3 names the version before it and goes through `soul_registration_publish_v2.go`, as does the append of
a boundary; a document without a version, or of version 1, goes through `publishLegacySoulRegistration`.

The rows and the objects here are those of one agent. Requests come one after another, and S3 and
DynamoDB answer. What the other checks of a request say (its signatures, the principal it is bound to,
its claim levels) comes with the request. -/

namespace LesserHost.SoulRegistration

open LesserHost.Go
open LesserHost.ControlPlane (AppTheoryError newAppTheoryError)
open LesserHost.Outbound (URL)
open LesserHost.SoulLifecycle

structure Config where
  SoulEnabled : Bool
  SoulPackBucketName : String
  SoulV2StrictIntegrity : Bool

structure Std where
  Parse : String → Option URL
  ParseRequestURI : String → Option URL
  Sum256 : Sha256

/-! ## Rows and objects -/

structure SoulAgentVersion where
  AgentID : String
  VersionNumber : Int
  RegistrationURI : String
  RegistrationSHA256 : String
  PreviousRegistrationSHA256 : String
  ChangeSummary : String
  SelfAttestation : String
  CreatedAt : Time

def SoulAgentVersion.UpdateKeys (v : SoulAgentVersion) : SoulAgentVersion :=
  { v with
    AgentID := ToLower (TrimSpace v.AgentID)
    RegistrationURI := TrimSpace v.RegistrationURI
    RegistrationSHA256 := ToLower (TrimSpace v.RegistrationSHA256)
    PreviousRegistrationSHA256 := ToLower (TrimSpace v.PreviousRegistrationSHA256)
    ChangeSummary := TrimSpace v.ChangeSummary
    SelfAttestation := TrimSpace v.SelfAttestation }

/-- What is stored of an agent: its identity, its version rows and its boundaries, and its objects. -/
structure Registry where
  identity : SoulAgentIdentity
  versions : List SoulAgentVersion
  boundaries : List String
  objects : String → Option Bytes

def soulRegistrationS3Key (agentIDHex : String) : String :=
  "registry/v1/agents/" ++ ToLower (TrimSpace agentIDHex) ++ "/registration.json"

def soulRegistrationVersionedS3Key (agentIDHex : String) (version : Int) : String :=
  "registry/v1/agents/" ++ ToLower (TrimSpace agentIDHex) ++ "/versions/" ++ Itoa version
    ++ "/registration.json"

/-- Where a version is stored. -/
def versionURI (bucketName agentIDHex : String) (version : Int) : String :=
  "s3://" ++ bucketName ++ "/" ++ soulRegistrationVersionedS3Key agentIDHex version

def PutObject (reg : Registry) (key : String) (body : Bytes) : Registry :=
  { reg with objects := fun k => if k = key then some body else reg.objects k }

inductive ObjectError where
  | NoSuchKey
  | tooLarge
  deriving DecidableEq

def GetObject (reg : Registry) (key : String) (maxBytes : Nat) : Except ObjectError Bytes :=
  match reg.objects key with
  | none => .error .NoSuchKey
  | some body => if maxBytes < body.length then .error .tooLarge else .ok body

def getSoulAgentVersionRecord (reg : Registry) (version : Int) : Option SoulAgentVersion :=
  reg.versions.find? fun row => row.VersionNumber == version

/-- A row that is not there yet. -/
def createVersion (reg : Registry) (row : SoulAgentVersion) : Option Registry :=
  if (getSoulAgentVersionRecord reg row.VersionNumber).isSome then none
  else some { reg with versions := reg.versions ++ [row] }

def regSHA256Hex (std : Std) (regBytes : Bytes) : String :=
  String.ofList (hexEncode (std.Sum256 regBytes).toList)

def partitionWalkPageSize : Nat := 100
def partitionWalkMaxPages : Nat := 20

/-- `collectPartitionAll`: the last page that may be read has to end the walk. -/
def collectVersions (reg : Registry) : Option (List SoulAgentVersion) :=
  if partitionWalkPageSize * partitionWalkMaxPages ≤ reg.versions.length then none
  else some reg.versions

def laterVersion (latest : Int × String) (row : SoulAgentVersion) : Int × String :=
  if latest.1 < row.VersionNumber then (row.VersionNumber, TrimSpace row.RegistrationSHA256) else latest

/-- The highest version with its digest. -/
def latestVersion (rows : List SoulAgentVersion) : Int × String := rows.foldl laterVersion (0, "")

/-- The next version, and the digest of the one before. -/
def getNextSoulAgentVersion (reg : Registry) : Except AppTheoryError (Int × String) :=
  match collectVersions reg with
  | none => .error (newAppTheoryError "app.internal" "failed to read version history")
  | some rows => .ok ((latestVersion rows).1 + 1, (latestVersion rows).2)

def buildSoulVersionRecord (agentIDHex bucketName versionedKey : String) (version : Int)
    (regSHA256 prevRegSHA256 changeSummary selfSig : String) (now : Time) : SoulAgentVersion where
  AgentID := agentIDHex
  VersionNumber := version
  RegistrationURI := "s3://" ++ TrimSpace bucketName ++ "/" ++ versionedKey
  RegistrationSHA256 := regSHA256
  PreviousRegistrationSHA256 := TrimSpace prevRegSHA256
  ChangeSummary := TrimSpace changeSummary
  SelfAttestation := TrimSpace selfSig
  CreatedAt := now

/-! ## The predecessor of a document -/

/-- The version that a document names, and the one it becomes. -/
def deriveSoulRegistrationNextVersion (std : Std) (agentIDHex : String)
    (previousVersionURI : Option String) (bucketName : String) : Except AppTheoryError (Int × Int) :=
  let agentIDHex := ToLower (TrimSpace agentIDHex)
  let invalid (message : String) := newAppTheoryError "app.bad_request" message
  let prevURI := TrimSpace (previousVersionURI.getD "")
  if prevURI = "" then .ok (0, 1)
  else match std.Parse prevURI with
  | none => .error (invalid "previousVersionUri is invalid")
  | some u =>
      let key := TrimPrefix (TrimSpace u.Path) "/"
      let pre := "registry/v1/agents/" ++ agentIDHex ++ "/versions/"
      if ToLower (TrimSpace u.Scheme) ≠ "s3" ∨ TrimSpace u.Host = "" then
        .error (invalid "previousVersionUri is invalid")
      else if EqualFold (TrimSpace u.Host) (TrimSpace bucketName) = false then
        .error (invalid "previousVersionUri does not match expected bucket")
      else if HasPrefix key pre = false then
        .error (invalid "previousVersionUri does not match expected agent")
      else match Split (TrimPrefix key pre) '/' with
      | [version, name] =>
          if TrimSpace name ≠ "registration.json" then
            .error (invalid "previousVersionUri does not match expected format")
          else match Atoi (bytes (TrimSpace version)) with
          | some n =>
              if n ≤ 0 then .error (invalid "previousVersionUri does not match expected format")
              else .ok (n, n + 1)
          | none => .error (invalid "previousVersionUri does not match expected format")
      | _ => .error (invalid "previousVersionUri does not match expected format")

/-- `validateSoulRegistrationPreviousVersionURIValue`, for both versions of a document. -/
def validateSoulRegistrationPreviousVersionURI (bucketName agentIDHex : String) (nextVersion : Int)
    (previousVersionURI : Option String) : Except AppTheoryError Unit :=
  let currentURI := TrimSpace (previousVersionURI.getD "")
  let invalid (message : String) := newAppTheoryError "app.bad_request" message
  if nextVersion ≤ 1 then
    if currentURI ≠ "" then .error (invalid "previousVersionUri must be null for the first version")
    else .ok ()
  else if currentURI = "" then
    .error (invalid "previousVersionUri is required for subsequent versions")
  else if currentURI ≠ versionURI bucketName agentIDHex (nextVersion - 1) then
    .error (invalid "previousVersionUri does not match the expected previous version")
  else .ok ()

/-! ## Publishing a version -/

/-- A document on its way: its text with the digest, and what is recorded of it. -/
structure Publication where
  now : Time
  PreviousVersionURI : Option String
  regBytes : Bytes
  changeSummary : String
  selfSig : String
  expectedVersion : Option Int
  /-- `validateCapabilityClaimLevelTransitions` -/
  claimLevels : Except AppTheoryError Unit
  /-- the boundary that is created with the version -/
  boundary : Option String

section Publishing

variable (std : Std) (cfg : Config) (agentIDHex : String)

def ensureNoSoulRegistrationVersionHistory (reg : Registry) : Except AppTheoryError Unit := do
  let next ← getNextSoulAgentVersion reg
  if 1 < next.1 then
    .error (newAppTheoryError "app.conflict" "previousVersionUri is required for existing version history")
  else .ok ()

/-- The first version of an agent has no history. -/
def ensureFirstVersion (prev next : Int) (reg : Registry) : Except AppTheoryError Unit :=
  if prev = 0 ∧ next = 1 then ensureNoSoulRegistrationVersionHistory reg else .ok ()

def ensureSoulPackObjectSHA256 (key : String) (expectedBody : Bytes) (expectedSHA256 : String)
    (reg : Registry) : Except AppTheoryError Registry :=
  match GetObject reg key (512 * 1024) with
  | .ok body =>
      if regSHA256Hex std body ≠ ToLower (TrimSpace expectedSHA256) then
        .error (newAppTheoryError "app.conflict" "registration artifact integrity violation")
      else .ok reg
  | .error .NoSuchKey => .ok (PutObject reg key expectedBody)
  | .error .tooLarge => .error (newAppTheoryError "app.internal" "failed to fetch registration")

def ensureSoulRegistrationS3Artifacts (version : Int) (regBytes : Bytes) (reg : Registry) :
    Except AppTheoryError Registry := do
  let reg ← ensureSoulPackObjectSHA256 std (soulRegistrationVersionedS3Key agentIDHex version) regBytes
    (regSHA256Hex std regBytes) reg
  return PutObject reg (soulRegistrationS3Key agentIDHex) regBytes

/-- `finalizeSoulAgentRegistrationV2Identity`: the identity takes the version, and stays active. -/
def finalizeIdentity (version : Int) (reg : Registry) : Registry :=
  let activation := shouldPersistSoulIdentityActivationOnRegistrationPublish reg.identity true
  { reg with identity := { activated reg.identity activation with SelfDescriptionVersion := version } }

/-- A version that is recorded already is published again, if it is the same. -/
def repairExistingSoulRegistrationVersion (nextVersion : Int) (regBytes : Bytes) (reg : Registry) :
    Except AppTheoryError (Option Registry) :=
  match getSoulAgentVersionRecord reg nextVersion with
  | none => .ok none
  | some existing =>
      if ToLower (TrimSpace existing.RegistrationSHA256) ≠ ToLower (TrimSpace (regSHA256Hex std regBytes))
      then .error (newAppTheoryError "app.conflict" "version already exists with different content")
      else do
        let reg ← ensureSoulRegistrationS3Artifacts std agentIDHex nextVersion regBytes reg
        return some (finalizeIdentity nextVersion reg)

def loadPreviousSoulRegistrationSHA (prevVersion : Int) (reg : Registry) :
    Except AppTheoryError String :=
  if prevVersion ≤ 0 then .ok ""
  else match getSoulAgentVersionRecord reg prevVersion with
  | some row => .ok (TrimSpace row.RegistrationSHA256)
  | none =>
      if cfg.SoulV2StrictIntegrity then
        .error (newAppTheoryError "app.conflict" "missing previous version history; repair is required")
      else .ok ""

/-- `soulRegistrationPublishPlan`: the version is there again, or its row is to be created. -/
inductive Plan where
  | repaired (nextVersion : Int) (reg : Registry)
  | create (prevVersion : Int) (versionRecord : SoulAgentVersion)

def prepareSoulRegistrationPublish (p : Publication) (reg : Registry) : Except AppTheoryError Plan := do
  let (prev, next) ←
    deriveSoulRegistrationNextVersion std agentIDHex p.PreviousVersionURI cfg.SoulPackBucketName
  if (p.expectedVersion.any fun expected => expected != prev) = true then
    .error (newAppTheoryError "app.bad_request" "expected_version does not match previousVersionUri")
  else do
    validateSoulRegistrationPreviousVersionURI (TrimSpace cfg.SoulPackBucketName) agentIDHex next
      p.PreviousVersionURI
    ensureFirstVersion prev next reg
    if next < reg.identity.SelfDescriptionVersion then
      .error (newAppTheoryError "app.conflict" "agent has advanced beyond this version")
    else do
      p.claimLevels
      match ← repairExistingSoulRegistrationVersion std agentIDHex next p.regBytes reg with
      | some reg => return .repaired next reg
      | none =>
          if reg.identity.SelfDescriptionVersion ≠ prev then
            .error (newAppTheoryError "app.conflict" "version conflict; reload and try again")
          else do
            let prevRegSHA256 ← loadPreviousSoulRegistrationSHA cfg prev reg
            return .create prev (buildSoulVersionRecord agentIDHex cfg.SoulPackBucketName
              (soulRegistrationVersionedS3Key agentIDHex next) next (regSHA256Hex std p.regBytes)
              prevRegSHA256 p.changeSummary p.selfSig p.now).UpdateKeys

def validateSoulRegistrationPublishBase (regSHA256 : String) : Except AppTheoryError Unit :=
  if cfg.SoulEnabled = false then .error (newAppTheoryError "app.not_found" "not found")
  else if TrimSpace cfg.SoulPackBucketName = "" then
    .error (newAppTheoryError "app.conflict" "soul registry bucket is not configured")
  else if len (TrimSpace regSHA256) ≠ 64 then
    .error (newAppTheoryError "app.bad_request" "invalid registration sha256")
  else .ok ()

/-- The transaction: the identity is at the version before, and the row and the boundary are new. -/
def recordVersion (prev : Int) (row : SoulAgentVersion) (boundary : Option String) (reg : Registry) :
    Option Registry :=
  if reg.identity.SelfDescriptionVersion ≠ max prev 0 then none
  else if boundary.any reg.boundaries.contains then none
  else (createVersion reg row).map fun reg =>
    { reg with boundaries := reg.boundaries ++ boundary.toList }

/-- `publishSoulAgentRegistrationWithExtraWrites`. What was written before a check fails stays. -/
def publishSoulAgentRegistration (p : Publication) (reg : Registry) :
    Registry × Except AppTheoryError Int :=
  match validateSoulRegistrationPublishBase cfg (regSHA256Hex std p.regBytes) with
  | .error err => (reg, .error err)
  | .ok () =>
    match prepareSoulRegistrationPublish std cfg agentIDHex p reg with
    | .error err => (reg, .error err)
    | .ok (.repaired next reg) => (reg, .ok next)
    | .ok (.create prev row) =>
      match recordVersion prev row p.boundary reg with
      | none => (reg, .error (newAppTheoryError "app.conflict" "version conflict; reload and try again"))
      | some reg =>
        match ensureSoulRegistrationS3Artifacts std agentIDHex row.VersionNumber p.regBytes reg with
        | .error err => (reg, .error err)
        | .ok reg => (finalizeIdentity row.VersionNumber reg, .ok row.VersionNumber)

/-- `publishLegacySoulRegistration`: the objects are written first. -/
def publishLegacySoulRegistration (p : Publication) (reg : Registry) :
    Registry × Except AppTheoryError Int :=
  match getNextSoulAgentVersion reg with
  | .error err => (reg, .error err)
  | .ok (next, prevRegSHA256) =>
    match p.claimLevels with
    | .error err => (reg, .error err)
    | .ok () =>
      let versionedKey := soulRegistrationVersionedS3Key agentIDHex next
      let reg := PutObject (PutObject reg versionedKey p.regBytes) (soulRegistrationS3Key agentIDHex)
        p.regBytes
      match createVersion reg (buildSoulVersionRecord agentIDHex cfg.SoulPackBucketName versionedKey next
        (regSHA256Hex std p.regBytes) prevRegSHA256 p.changeSummary p.selfSig p.now).UpdateKeys with
      | none => (reg, .error (newAppTheoryError "app.internal" "failed to record version history"))
      | some reg => (reg, .ok next)

/-! ## Requests -/

/-- The part of `requireActiveSoulAgentWithDomainAccess` that reads the identity. -/
def requireActiveSoulAgent (reg : Registry) : Except AppTheoryError Unit :=
  if effectiveStatus reg.identity ≠ SoulAgentStatusActive then
    .error (newAppTheoryError "app.conflict" "agent is not active")
  else .ok ()

def validateOptionalPreviousVersionURI (previousVersionURI : Option String) : Except AppTheoryError Unit :=
  let uri := TrimSpace (previousVersionURI.getD "")
  if uri = "" then .ok ()
  else if (std.ParseRequestURI uri).isNone then
    .error (newAppTheoryError "app.bad_request" "previousVersionUri is invalid")
  else .ok ()

structure UpdateRequest where
  version : String
  publication : Publication
  /-- the checks of the document's fields and of its signature -/
  verified : Except AppTheoryError Unit
  /-- the other checks of its schema, and the principal it is bound to -/
  bound : Except AppTheoryError Unit

def isLegacyVersion (version : String) : Bool := version == "" || version == "1"
def isTypedVersion (version : String) : Bool := version == "2" || version == "3"

/-- `parseSoulUpdateRegistrationSchema`. -/
def validateSoulUpdateRegistrationSchema (r : UpdateRequest) : Except AppTheoryError Unit :=
  if isLegacyVersion r.version then .ok ()
  else if isTypedVersion r.version then
    validateOptionalPreviousVersionURI std r.publication.PreviousVersionURI
  else .error (newAppTheoryError "app.bad_request" "unsupported registration version")

/-- What a request has to pass before it is published. -/
def admitUpdate (r : UpdateRequest) (reg : Registry) : Except AppTheoryError Unit := do
  requireActiveSoulAgent reg
  r.verified
  validateSoulUpdateRegistrationSchema std r
  r.bound

/-- `completeSoulAgentRegistrationUpdate`. -/
def completeSoulAgentRegistrationUpdate (r : UpdateRequest) (reg : Registry) :
    Registry × Except AppTheoryError Int :=
  match admitUpdate std r reg with
  | .error err => (reg, .error err)
  | .ok () =>
      if isTypedVersion r.version then
        publishSoulAgentRegistration std cfg agentIDHex { r.publication with boundary := none } reg
      else publishLegacySoulRegistration std cfg agentIDHex r.publication reg

structure BoundaryRequest where
  now : Time
  BoundaryID : String
  ExpectedVersion : Int
  SelfAttestation : String
  /-- the checks of the input, of its signature and of the boundary it supersedes -/
  verified : Except AppTheoryError Unit
  /-- the document that is built from the current one and signed -/
  document : Bytes → Except AppTheoryError Bytes
  claimLevels : Except AppTheoryError Unit

/-- The document of the append names the version before. -/
def BoundaryRequest.publication (b : BoundaryRequest) (regBytes : Bytes) : Publication where
  now := b.now
  PreviousVersionURI := if b.ExpectedVersion + 1 ≤ 1 then none
    else some (versionURI (TrimSpace cfg.SoulPackBucketName) agentIDHex b.ExpectedVersion)
  regBytes := regBytes
  changeSummary := "Append boundary " ++ b.BoundaryID
  selfSig := b.SelfAttestation
  expectedVersion := some b.ExpectedVersion
  claimLevels := b.claimLevels
  boundary := some b.BoundaryID

/-- The document of an append, from the object that is current. -/
def admitBoundary (b : BoundaryRequest) (reg : Registry) : Except AppTheoryError Bytes := do
  requireActiveSoulAgent reg
  if b.ExpectedVersion < 0 then .error (newAppTheoryError "app.bad_request" "expected_version is invalid")
  else if b.ExpectedVersion ≠ reg.identity.SelfDescriptionVersion then
    .error (newAppTheoryError "app.conflict" "version conflict; reload and try again")
  else do
    b.verified
    match GetObject reg (soulRegistrationS3Key agentIDHex) (1024 * 1024) with
    | .error .NoSuchKey => .error (newAppTheoryError "app.conflict"
        "registration is not yet published; update registration first")
    | .error .tooLarge => .error (newAppTheoryError "app.internal" "failed to fetch registration")
    | .ok base => b.document base

/-- `handleSoulAppendBoundary`. The boundary that is there already is returned again. -/
def handleSoulAppendBoundary (b : BoundaryRequest) (reg : Registry) :
    Registry × Except AppTheoryError Int :=
  if b.ExpectedVersion < reg.identity.SelfDescriptionVersion ∧ reg.boundaries.contains b.BoundaryID then
    (reg, .ok reg.identity.SelfDescriptionVersion)
  else match admitBoundary agentIDHex b reg with
  | .error err => (reg, .error err)
  | .ok regBytes =>
      publishSoulAgentRegistration std cfg agentIDHex (b.publication cfg agentIDHex regBytes) reg

end Publishing

end LesserHost.SoulRegistration
