import LesserHost.SoulLifecycle.Table

set_option autoImplicit false

/-! # Lifecycle requests

`handlers_soul_lifecycle.go`, `handlers_soul_suspension.go`, `handlers_soul_sovereignty.go`, the append of
`handlers_soul_continuity.go`, and the last write of `soul_registration_publish_v2.go`. Audit entries,
which no handler reads, are left out.

The digest of a JSON object (`jsoncanonicalizer` and `Keccak256`) and the check of a signature are
parameters. -/

namespace LesserHost.SoulLifecycle

open LesserHost.Go
open LesserHost.ControlPlane (AppTheoryError StoreError newAppTheoryError)

/-! ## The server -/

/-- A value of the objects that are signed. -/
inductive Member where
  | text (s : String)
  | texts (l : List String)
  deriving DecidableEq

/-- A JSON object, by its members. -/
abbrev Unsigned := List (String × Member)

abbrev Digest := List UInt8

structure Server where
  /-- `Keccak256` of the canonical form of an object; none where it has none -/
  digest : Unsigned → Option Digest
  verifyEthereumSignatureBytes : (wallet : String) → Digest → (sig : String) → Bool
  verifyEthereumSignatureBytesNonMalleable : (wallet : String) → Digest → (sig : String) → Bool

/-! ## Continuity entries -/

def continuityEntryTypes : List String :=
  ["capability_acquired", "capability_deprecated", "significant_failure", "recovery", "boundary_added",
    "migration", "model_change", "relationship_formed", "relationship_ended", "self_suspension",
    "archived", "succession_declared", "succession_received"]

def SoulContinuityEntryTypeArchived : String := "archived"
def SoulContinuityEntryTypeSuccessionDeclared : String := "succession_declared"
def SoulContinuityEntryTypeSuccessionReceived : String := "succession_received"

/-- `normalizeContinuityReferences`. -/
def normalizeContinuityReferences (references : List String) : List String :=
  trimmedNonEmpty references

/-- The object `computeSoulContinuityEntryDigest` hashes. -/
def unsignedContinuityEntry (entryType timestamp summary recovery : String) (references : List String)
    (nonce : String) : Unsigned :=
  let references := normalizeContinuityReferences references
  [("type", .text (ToLower (TrimSpace entryType))), ("timestamp", .text (TrimSpace timestamp)),
    ("summary", .text (TrimSpace summary))] ++
  (if TrimSpace recovery ≠ "" then [("recovery", .text (TrimSpace recovery))] else []) ++
  (if references ≠ [] then [("references", .texts references)] else []) ++
  (if TrimSpace nonce ≠ "" then [("nonce", .text (TrimSpace nonce))] else [])

def computeSoulContinuityEntryDigest (s : Server) (entryType timestamp summary recovery : String)
    (references : List String) (nonce : String) : Except AppTheoryError Digest :=
  match s.digest (unsignedContinuityEntry entryType timestamp summary recovery references nonce) with
  | some digest => .ok digest
  | none => .error (newAppTheoryError "app.bad_request" "invalid continuity JSON")

theorem computeSoulContinuityEntryDigest_ok {s : Server} {entryType timestamp summary recovery : String}
    {references : List String} {nonce : String} {digest : Digest} :
    computeSoulContinuityEntryDigest s entryType timestamp summary recovery references nonce = .ok digest ↔
      s.digest (unsignedContinuityEntry entryType timestamp summary recovery references nonce)
        = some digest := by
  unfold computeSoulContinuityEntryDigest
  split
  · next digest' hdigest =>
      rw [hdigest, Except.ok.injEq, Option.some.injEq]
  · next hnone =>
      rw [hnone]
      simp

def canonicalSoulSignedTimestamp (ts : Time) : String := ts.UTC.TruncateMillisecond.FormatMillis

def soulSignedRequestMaxFutureSkew : Int := 2 * Minute
def soulSignedRequestMaxAge : Int := 2 * Minute

/-- `parseSoulSignedTimestamp` of the field `timestamp`. -/
def parseSoulSignedTimestamp (raw : String) (now : Time) : Except AppTheoryError (Time × String) :=
  let raw := TrimSpace raw
  if raw = "" then .error (newAppTheoryError "app.bad_request" "timestamp is required")
  else match ParseTime raw with
  | none => .error (newAppTheoryError "app.bad_request" "timestamp must be RFC3339")
  | some parsedTS =>
      if parsedTS.After (now.Add soulSignedRequestMaxFutureSkew) then
        .error (newAppTheoryError "app.bad_request" "timestamp cannot be in the future")
      else if parsedTS.Before (now.Add (-soulSignedRequestMaxAge)) then
        .error (newAppTheoryError "app.bad_request" "timestamp is too far in the past")
      else .ok (parsedTS.TruncateMillisecond, canonicalSoulSignedTimestamp parsedTS)

/-! ## Reads and tests -/

def liftExcept {α : Type} : Except AppTheoryError α → Handler α
  | .ok a => .ret a
  | .error e => .fail e

def now : Handler Time := Prog.perform (.now : Op)

def requireSoulDomainAccess (domain : String) : Handler Unit := do
  liftExcept (← Prog.perform (.requireDomainAccess domain : Op))

/-- The read repair of `getSoulAgentIdentity`: the lifecycle status follows the status. -/
def readRepair (item : SoulAgentIdentity) : SoulAgentIdentity :=
  let status := ToLower (TrimSpace item.Status)
  let lifecycle := ToLower (TrimSpace item.LifecycleStatus)
  if lifecycle = "" ∧ status ≠ "" then { item with LifecycleStatus := status }
  else if status = "" ∧ lifecycle ≠ "" then { item with Status := lifecycle }
  else if status ≠ "" ∧ lifecycle ≠ "" ∧ status ≠ lifecycle then { item with LifecycleStatus := status }
  else item

def getSoulAgentIdentity (agentID : String) : Handler (Except StoreError SoulAgentIdentity) := do
  let agentID := ToLower (TrimSpace agentID)
  if agentID = "" then return .error .other
  else match ← Prog.perform (.getIdentity agentID : Op) with
  | .error e => return .error e
  | .ok item => return .ok (readRepair item)

/-- `parseSoulAgentIDHex`. -/
def parseSoulAgentIDHex (agentID : String) : Except AppTheoryError String :=
  let agentID := ToLower (TrimSpace agentID)
  if agentID = "" then .error (newAppTheoryError "app.bad_request" "agent_id is required")
  else if HasPrefix agentID "0x" = false ∨ len agentID ≠ 66 ∨
      ((agentID.toList.drop 2).all fun c => (JSONText.hexValue c).isSome) = false then
    .error (newAppTheoryError "app.bad_request" "invalid agent_id")
  else .ok agentID

def effectiveStatus (identity : SoulAgentIdentity) : String :=
  if TrimSpace identity.LifecycleStatus = "" then TrimSpace identity.Status
  else TrimSpace identity.LifecycleStatus

def requireActiveSoulAgentWithDomainAccess (agentIDHex : String) : Handler SoulAgentIdentity := do
  match ← getSoulAgentIdentity agentIDHex with
  | .error .notFound => .fail (newAppTheoryError "app.not_found" "agent not found")
  | .error _ => .fail (newAppTheoryError "app.internal" "internal error")
  | .ok identity =>
      if effectiveStatus identity ≠ SoulAgentStatusActive then
        .fail (newAppTheoryError "app.conflict" "agent is not active")
      else do
        requireSoulDomainAccess (TrimSpace identity.Domain)
        return identity

def loadSoulLifecycleIdentity (agentIDHex : String) : Handler SoulAgentIdentity := do
  match ← getSoulAgentIdentity agentIDHex with
  | .error _ => .fail (newAppTheoryError "app.not_found" "agent not found")
  | .ok identity => do
      requireSoulDomainAccess (TrimSpace identity.Domain)
      return identity

def lifecycleMutable (identity : SoulAgentIdentity) : Bool :=
  TrimSpace identity.Status == SoulAgentStatusActive ||
    TrimSpace identity.Status == SoulAgentStatusSelfSuspended

def validateSoulLifecycleMutableStatus (identity : SoulAgentIdentity) (action : String) :
    Except AppTheoryError Unit :=
  if lifecycleMutable identity then .ok ()
  else .error (newAppTheoryError "app.conflict"
    ("only active or self-suspended agents can " ++ TrimSpace action))

/-- One write, and the error of its failure. -/
def writeOr (ws : List Write) (failure : StoreError → AppTheoryError) : Handler Unit := do
  match ← Prog.perform (.write ws : Op) with
  | .ok () => return ()
  | .error e => .fail (failure e)

/-! ## Challenges -/

def soulLifecycleChallengeTTL : Int := 5 * Minute
def soulLifecycleChallengePurposeArchiveAgent : String := "archive_agent"
def soulLifecycleChallengePurposeDesignateSuccessor : String := "designate_successor"

def newSoulContinuityNonce : Handler String := do
  match ← Prog.perform (.newToken : Op) with
  | .ok nonce => return nonce
  | .error _ => .fail (newAppTheoryError "app.internal" "failed to generate nonce")

def newSoulLifecycleChallenge (agentIDHex nonce purpose successorIDHex : String) (now : Time) :
    SoulLifecycleChallenge :=
  SoulLifecycleChallenge.UpdateKeys
    { TTL := 0
      AgentID := agentIDHex
      Nonce := nonce
      Purpose := purpose
      SuccessorAgentID := successorIDHex
      IssuedAt := now.UTC
      ExpiresAt := now.UTC.Add soulLifecycleChallengeTTL }

def persistSoulLifecycleChallenge (challenge : SoulLifecycleChallenge) : Handler Unit :=
  writeOr [.createChallenge challenge] fun _ =>
    newAppTheoryError "app.internal" "failed to issue lifecycle challenge"

def invalidSoulLifecycleChallengeError : AppTheoryError :=
  newAppTheoryError "app.bad_request" "invalid continuity_nonce"

def validateSoulLifecycleChallenge (challenge : SoulLifecycleChallenge)
    (agentIDHex nonce purpose successorIDHex : String) (now : Time) :
    Except AppTheoryError SoulLifecycleChallenge :=
  if ToLower (TrimSpace challenge.AgentID) ≠ ToLower (TrimSpace agentIDHex) ∨
      TrimSpace challenge.Nonce ≠ TrimSpace nonce ∨
      ToLower (TrimSpace challenge.Purpose) ≠ ToLower (TrimSpace purpose) then
    .error invalidSoulLifecycleChallengeError
  else if ToLower (TrimSpace purpose) = soulLifecycleChallengePurposeDesignateSuccessor ∧
      ToLower (TrimSpace challenge.SuccessorAgentID) ≠ ToLower (TrimSpace successorIDHex) then
    .error invalidSoulLifecycleChallengeError
  else if challenge.ExpiresAt.IsZero ∨ now.Before challenge.ExpiresAt.UTC = false then
    .error (newAppTheoryError "app.bad_request" "continuity_nonce expired")
  else .ok challenge.UpdateKeys

def loadSoulLifecycleChallenge (agentIDHex nonce purpose successorIDHex : String) (now : Time) :
    Handler SoulLifecycleChallenge := do
  let agentIDHex := ToLower (TrimSpace agentIDHex)
  let nonce := TrimSpace nonce
  if agentIDHex = "" ∨ nonce = "" then .fail invalidSoulLifecycleChallengeError
  else match ← Prog.perform (.getChallenge agentIDHex nonce : Op) with
  | .error .notFound => .fail invalidSoulLifecycleChallengeError
  | .error _ => .fail (newAppTheoryError "app.internal" "failed to load lifecycle challenge")
  | .ok challenge =>
      liftExcept (validateSoulLifecycleChallenge challenge agentIDHex nonce purpose successorIDHex now)

/-- The failure of a confirming transaction. -/
def confirmFailure (message : String) : StoreError → AppTheoryError
  | .conditionFailed => invalidSoulLifecycleChallengeError
  | _ => newAppTheoryError "app.internal" message

/-! ## Archive -/

def soulArchiveReferences (agentIDHex : String) : List String := ["agent:" ++ agentIDHex]

/-- The response names the agent, the timestamp and the nonce to sign. -/
structure LifecycleBegin where
  Timestamp : String
  ContinuityNonce : String
  Digests : List Digest

def handleSoulArchiveAgentBegin (s : Server) (agentID : String) : Handler LifecycleBegin := do
  let agentIDHex ← liftExcept (parseSoulAgentIDHex agentID)
  let identity ← loadSoulLifecycleIdentity agentIDHex
  liftExcept (validateSoulLifecycleMutableStatus identity "be archived")
  let now ← now
  let timestamp := canonicalSoulSignedTimestamp now
  let continuityNonce ← newSoulContinuityNonce
  let digest ← liftExcept (computeSoulContinuityEntryDigest s SoulContinuityEntryTypeArchived timestamp
    "Archived" "" (soulArchiveReferences agentIDHex) continuityNonce)
  persistSoulLifecycleChallenge (newSoulLifecycleChallenge agentIDHex continuityNonce
    soulLifecycleChallengePurposeArchiveAgent "" now)
  return ⟨timestamp, continuityNonce, [digest]⟩

structure soulArchiveRequest where
  Reason : String
  Timestamp : String
  Signature : String
  Nonce : String

def required (value field : String) : Except AppTheoryError String :=
  if TrimSpace value = "" then
    .error (newAppTheoryError "app.bad_request" (field ++ " is required"))
  else .ok (TrimSpace value)

/-- An entry of the journal, signed in a request. -/
def continuityEntry (agentIDHex entryType summary recovery : String) (references : List String)
    (sig : String) (timestamp : Time) : SoulAgentContinuity :=
  SoulAgentContinuity.UpdateKeys
    { AgentID := agentIDHex
      «Type» := entryType
      Summary := summary
      Recovery := recovery
      ReferencesJSON := ""
      ReferencesV2 := references
      Signature := sig
      Timestamp := timestamp.UTC }

/-- The identity at the end of its life. -/
def endedIdentity (identity : SoulAgentIdentity) (status reason successorID : String) :
    SoulAgentIdentity :=
  SoulAgentIdentity.UpdateKeys
    { identity with
      Status := status
      LifecycleStatus := status
      LifecycleReason := reason
      SuccessorAgentID := successorID }

def archiveWrites (agentIDHex : String) (identity : SoulAgentIdentity) (challenge : SoulLifecycleChallenge)
    (reason sig : String) (parsedTS now : Time) : List Write :=
  [.deleteChallenge challenge now,
    .updateStatus agentIDHex identity
      (endedIdentity identity SoulAgentStatusArchived reason identity.SuccessorAgentID),
    .createContinuity (continuityEntry agentIDHex SoulContinuityEntryTypeArchived "Archived" ""
      (soulArchiveReferences agentIDHex) sig parsedTS)]

def handleSoulArchiveAgent (s : Server) (agentID : String) (req : soulArchiveRequest) : Handler Unit := do
  let agentIDHex ← liftExcept (parseSoulAgentIDHex agentID)
  let identity ← loadSoulLifecycleIdentity agentIDHex
  liftExcept (validateSoulLifecycleMutableStatus identity "be archived")
  let received ← now
  let (parsedTS, timestampCanonical) ← liftExcept (parseSoulSignedTimestamp req.Timestamp received)
  let sig ← liftExcept (required req.Signature "signature")
  let continuityNonce ← liftExcept (required req.Nonce "continuity_nonce")
  let now ← now
  let challenge ← loadSoulLifecycleChallenge agentIDHex continuityNonce
    soulLifecycleChallengePurposeArchiveAgent "" now
  let digest ← liftExcept (computeSoulContinuityEntryDigest s SoulContinuityEntryTypeArchived
    timestampCanonical "Archived" "" (soulArchiveReferences agentIDHex) continuityNonce)
  if s.verifyEthereumSignatureBytesNonMalleable identity.Wallet digest sig = false then
    .fail (newAppTheoryError "app.bad_request" "invalid continuity signature")
  else
    writeOr (archiveWrites agentIDHex identity challenge (TrimSpace req.Reason) sig parsedTS now)
      (confirmFailure "failed to archive agent")

/-! ## Succession -/

def normalizeSoulSuccessorAgentID (successorAgentID agentIDHex : String) : Except AppTheoryError String :=
  let successorIDHex := ToLower (TrimSpace successorAgentID)
  if successorIDHex = "" then
    .error (newAppTheoryError "app.bad_request" "successor_agent_id is required")
  else if successorIDHex = agentIDHex then
    .error (newAppTheoryError "app.bad_request" "agent cannot succeed itself")
  else .ok successorIDHex

def loadSoulActiveSuccessorIdentity (identity : SoulAgentIdentity) (successorIDHex : String) :
    Handler SoulAgentIdentity := do
  match ← getSoulAgentIdentity successorIDHex with
  | .error _ => .fail (newAppTheoryError "app.not_found" "successor agent not found")
  | .ok successorIdentity =>
      if effectiveStatus successorIdentity ≠ SoulAgentStatusActive then
        .fail (newAppTheoryError "app.conflict" "successor agent is not active")
      else do
        if EqualFold (TrimSpace successorIdentity.Domain) (TrimSpace identity.Domain) = false then
          requireSoulDomainAccess (TrimSpace successorIdentity.Domain)
        if TrimSpace successorIdentity.PredecessorAgentID ≠ "" then
          .fail (newAppTheoryError "app.conflict" "successor already has a predecessor")
        else return successorIdentity

def soulDeclaredReferences (agentIDHex successorIDHex : String) : List String :=
  ["agent:" ++ agentIDHex, "successor:" ++ successorIDHex]

def soulReceivedReferences (agentIDHex successorIDHex : String) : List String :=
  ["agent:" ++ successorIDHex, "predecessor:" ++ agentIDHex]

def declaredDigest (s : Server) (agentIDHex successorIDHex timestamp nonce : String) :
    Except AppTheoryError Digest :=
  computeSoulContinuityEntryDigest s SoulContinuityEntryTypeSuccessionDeclared timestamp
    "Succession declared" "" (soulDeclaredReferences agentIDHex successorIDHex) nonce

def receivedDigest (s : Server) (agentIDHex successorIDHex timestamp nonce : String) :
    Except AppTheoryError Digest :=
  computeSoulContinuityEntryDigest s SoulContinuityEntryTypeSuccessionReceived timestamp
    "Succession received" "" (soulReceivedReferences agentIDHex successorIDHex) nonce

def handleSoulDesignateSuccessorBegin (s : Server) (agentID successorAgentID : String) :
    Handler LifecycleBegin := do
  let agentIDHex ← liftExcept (parseSoulAgentIDHex agentID)
  let identity ← loadSoulLifecycleIdentity agentIDHex
  liftExcept (validateSoulLifecycleMutableStatus identity "designate a successor")
  let successorIDHex ← liftExcept (normalizeSoulSuccessorAgentID successorAgentID agentIDHex)
  let _ ← loadSoulActiveSuccessorIdentity identity successorIDHex
  let continuityNonce ← newSoulContinuityNonce
  let now ← now
  let timestamp := canonicalSoulSignedTimestamp now
  let declared ← liftExcept (declaredDigest s agentIDHex successorIDHex timestamp continuityNonce)
  let received ← liftExcept (receivedDigest s agentIDHex successorIDHex timestamp continuityNonce)
  persistSoulLifecycleChallenge (newSoulLifecycleChallenge agentIDHex continuityNonce
    soulLifecycleChallengePurposeDesignateSuccessor successorIDHex now)
  return ⟨timestamp, continuityNonce, [declared, received]⟩

structure soulDesignateSuccessorRequest where
  SuccessorAgentID : String
  Reason : String
  Timestamp : String
  PredecessorSig : String
  SuccessorSig : String
  Nonce : String

def successionWrites (agentIDHex successorIDHex : String) (identity successorIdentity : SoulAgentIdentity)
    (challenge : SoulLifecycleChallenge) (reason predSig succSig : String) (parsedTS now : Time) :
    List Write :=
  [.deleteChallenge challenge now,
    .updateSuccessor agentIDHex identity
      (endedIdentity identity SoulAgentStatusSucceeded reason successorIDHex),
    .updatePredecessor successorIDHex successorIdentity
      (SoulAgentIdentity.UpdateKeys { successorIdentity with PredecessorAgentID := agentIDHex }),
    .createContinuity (continuityEntry agentIDHex SoulContinuityEntryTypeSuccessionDeclared
      "Succession declared" "" (soulDeclaredReferences agentIDHex successorIDHex) predSig parsedTS),
    .createContinuity (continuityEntry successorIDHex SoulContinuityEntryTypeSuccessionReceived
      "Succession received" "" (soulReceivedReferences agentIDHex successorIDHex) succSig parsedTS)]

def handleSoulDesignateSuccessor (s : Server) (agentID : String) (req : soulDesignateSuccessorRequest) :
    Handler Unit := do
  let agentIDHex ← liftExcept (parseSoulAgentIDHex agentID)
  let identity ← loadSoulLifecycleIdentity agentIDHex
  liftExcept (validateSoulLifecycleMutableStatus identity "designate a successor")
  let successorIDHex ← liftExcept (normalizeSoulSuccessorAgentID req.SuccessorAgentID agentIDHex)
  let received ← now
  let (parsedTS, timestampCanonical) ← liftExcept (parseSoulSignedTimestamp req.Timestamp received)
  let predSig ← liftExcept (required req.PredecessorSig "predecessor_signature")
  let succSig ← liftExcept (required req.SuccessorSig "successor_signature")
  let continuityNonce ← liftExcept (required req.Nonce "continuity_nonce")
  let now ← now
  let challenge ← loadSoulLifecycleChallenge agentIDHex continuityNonce
    soulLifecycleChallengePurposeDesignateSuccessor successorIDHex now
  let successorIdentity ← loadSoulActiveSuccessorIdentity identity successorIDHex
  let declared ← liftExcept
    (declaredDigest s agentIDHex successorIDHex timestampCanonical continuityNonce)
  if s.verifyEthereumSignatureBytesNonMalleable identity.Wallet declared predSig = false then
    .fail (newAppTheoryError "app.bad_request" "invalid predecessor continuity signature")
  else do
    let received ← liftExcept
      (receivedDigest s agentIDHex successorIDHex timestampCanonical continuityNonce)
    if s.verifyEthereumSignatureBytesNonMalleable successorIdentity.Wallet received succSig = false then
      .fail (newAppTheoryError "app.bad_request" "invalid successor continuity signature")
    else
      writeOr (successionWrites agentIDHex successorIDHex identity successorIdentity challenge
        (TrimSpace req.Reason) predSig succSig parsedTS now)
        (confirmFailure "failed to designate successor")

/-! ## Suspension -/

/-- The identity with another status. -/
def withStatus (identity : SoulAgentIdentity) (status reason : String) : SoulAgentIdentity :=
  SoulAgentIdentity.UpdateKeys
    { identity with Status := status, LifecycleStatus := status, LifecycleReason := reason }

def updateStatus (agentIDHex : String) (identity : SoulAgentIdentity) (status reason message : String) :
    Handler Unit :=
  writeOr [.updateStatus agentIDHex identity (withStatus identity status reason)] fun _ =>
    newAppTheoryError "app.internal" message

def loadOperatorIdentity (agentIDHex : String) : Handler SoulAgentIdentity := do
  match ← getSoulAgentIdentity agentIDHex with
  | .error .notFound => .fail (newAppTheoryError "app.not_found" "agent not found")
  | .error _ => .fail (newAppTheoryError "app.internal" "internal error")
  | .ok identity => return identity

/-- The request of an operator. -/
def handleSuspendSoulAgent (agentID reason : String) : Handler Unit := do
  let agentIDHex ← liftExcept (parseSoulAgentIDHex agentID)
  let identity ← loadOperatorIdentity agentIDHex
  if TrimSpace identity.Status ≠ SoulAgentStatusSuspended then
    updateStatus agentIDHex identity SoulAgentStatusSuspended (TrimSpace reason) "failed to suspend agent"
  else return ()

/-- The request of an operator. -/
def handleReinstateSoulAgent (agentID : String) : Handler Unit := do
  let agentIDHex ← liftExcept (parseSoulAgentIDHex agentID)
  let identity ← loadOperatorIdentity agentIDHex
  if TrimSpace identity.Status ≠ SoulAgentStatusSuspended then
    .fail (newAppTheoryError "app.conflict" "agent is not suspended")
  else updateStatus agentIDHex identity SoulAgentStatusActive "" "failed to reinstate agent"

def handleSoulSelfSuspend (agentID reason : String) : Handler Unit := do
  let agentIDHex ← liftExcept (parseSoulAgentIDHex agentID)
  let identity ← requireActiveSoulAgentWithDomainAccess agentIDHex
  updateStatus agentIDHex identity SoulAgentStatusSelfSuspended (TrimSpace reason)
    "failed to self-suspend agent"

def handleSoulSelfReinstate (agentID : String) : Handler Unit := do
  let agentIDHex ← liftExcept (parseSoulAgentIDHex agentID)
  let identity ← loadSoulLifecycleIdentity agentIDHex
  if TrimSpace identity.Status ≠ SoulAgentStatusSelfSuspended then
    .fail (newAppTheoryError "app.conflict" "agent is not self-suspended")
  else updateStatus agentIDHex identity SoulAgentStatusActive "" "failed to reinstate agent"

/-! ## Publication -/

def shouldPersistSoulIdentityActivationOnRegistrationPublish (identity : SoulAgentIdentity)
    (persistAlreadyActive : Bool) : Bool :=
  let status := ToLower (TrimSpace identity.LifecycleStatus)
  let status := if status = "" then ToLower (TrimSpace identity.Status) else status
  status == "" || status == SoulAgentStatusPending ||
    (persistAlreadyActive && status == SoulAgentStatusActive)

/-- The identity with the activation fields of a publish. -/
def activated (identity : SoulAgentIdentity) (activation : Bool) : SoulAgentIdentity :=
  { identity with
    Status := if activation then SoulAgentStatusActive else identity.Status
    LifecycleStatus := if activation then SoulAgentStatusActive else identity.LifecycleStatus }

/-- The last write of `finalizeSoulAgentRegistrationV2Identity`. -/
def finalizeSoulAgentRegistrationV2Identity (agentIDHex : String) (identity : SoulAgentIdentity)
    (version : Int) : Handler Unit :=
  let activation := shouldPersistSoulIdentityActivationOnRegistrationPublish identity true
  let published := SoulAgentIdentity.UpdateKeys
    { activated identity activation with SelfDescriptionVersion := version }
  if identity.SelfDescriptionVersion ≠ version ∨ activation = true then
    writeOr [.updatePublished agentIDHex identity published
      (identity.SelfDescriptionVersion != version) activation] fun _ =>
      newAppTheoryError "app.internal" "failed to update identity version"
  else .ret ()

/-- A publish of a registration. `admits` is the status test of its endpoint: an active agent, or one
    that awaits its first publication. -/
def publishSoulAgentRegistration (admits : SoulAgentIdentity → Except AppTheoryError Unit)
    (agentID : String) : Handler Unit := do
  let agentIDHex ← liftExcept (parseSoulAgentIDHex agentID)
  let identity ← loadSoulLifecycleIdentity agentIDHex
  liftExcept (admits identity)
  let version ← liftExcept (← Prog.perform (.publishVersion agentIDHex identity : Op))
  finalizeSoulAgentRegistrationV2Identity agentIDHex identity version

def ensureSoulAgentRegistrationPublishedIdentityActive (agentIDHex : String)
    (identity : SoulAgentIdentity) : Handler Unit :=
  let activation := shouldPersistSoulIdentityActivationOnRegistrationPublish identity false
  if identity.SelfDescriptionVersion ≤ 0 then .ret ()
  else if activation = true then
    writeOr [.updatePublished agentIDHex identity (activated identity activation).UpdateKeys false
      activation] fun _ => newAppTheoryError "app.internal" "failed to activate identity publication"
  else .ret ()

/-- The repair of an identity whose first publication has been recorded. `admits` is the evidence. -/
def convergePublishedIdentity (admits : SoulAgentIdentity → Except AppTheoryError Unit)
    (agentID : String) : Handler Unit := do
  let agentIDHex ← liftExcept (parseSoulAgentIDHex agentID)
  let identity ← loadSoulLifecycleIdentity agentIDHex
  liftExcept (admits identity)
  ensureSoulAgentRegistrationPublishedIdentityActive agentIDHex identity

/-! ## The journal -/

structure soulAppendContinuityRequest where
  «Type» : String
  Timestamp : String
  Summary : String
  Recovery : String
  References : List String
  Signature : String

structure soulAppendContinuityData where
  entryType : String
  parsedTS : Time
  timestampCanonical : String
  summary : String
  recovery : String
  references : List String
  signature : String
  deriving DecidableEq

def parseSoulAppendContinuityData (req : soulAppendContinuityRequest) (now : Time) :
    Except AppTheoryError soulAppendContinuityData := do
  let entryType := ToLower (TrimSpace req.Type)
  if entryType ∉ continuityEntryTypes then
    throw (newAppTheoryError "app.bad_request" "invalid continuity entry type")
  let (parsedTS, timestampCanonical) ← parseSoulSignedTimestamp (TrimSpace req.Timestamp) now
  let summary ← required req.Summary "summary"
  if len summary > 4096 then throw (newAppTheoryError "app.bad_request" "summary is too long")
  let recovery := TrimSpace req.Recovery
  if len recovery > 8192 then throw (newAppTheoryError "app.bad_request" "recovery is too long")
  let signature ← required req.Signature "signature"
  return ⟨entryType, parsedTS, timestampCanonical, summary, recovery,
    normalizeContinuityReferences req.References, signature⟩

/-- The elements of an array whose opening bracket has been read, and what follows it. -/
def scanElements : Nat → List Char → Option (List JSONText.Value × List Char)
  | 0, _ => none
  | fuel + 1, s => do
      let (value, rest) ← JSONText.parseValue (s.length + 1) 1 s
      match JSONText.skipWhite rest with
      | ']' :: rest => return ([value], rest)
      | ',' :: rest => do
          let (values, rest) ← scanElements fuel (JSONText.skipWhite rest)
          return (value :: values, rest)
      | _ => none

/-- `json.Unmarshal` into a list of texts, where null is an empty one. -/
def unmarshalTexts (raw : String) : Option (List String) := do
  let text := JSONText.skipWhite raw.toList
  let read : Option (List JSONText.Value × List Char) :=
    match text with
    | '[' :: rest =>
        match JSONText.skipWhite rest with
        | ']' :: rest => some ([], rest)
        | rest => scanElements (rest.length + 1) rest
    | _ => (JSONText.scanWord "null".toList text).map fun rest => ([], rest)
  let (values, rest) ← read
  if JSONText.skipWhite rest ≠ [] then none
  else values.mapM fun
    | .string s => some s
    | .null => some ""
    | _ => none

def parseLegacyContinuityReferences (raw : String) : List String :=
  match unmarshalTexts (TrimSpace raw) with
  | some refs => trimmedNonEmpty refs
  | none => []

/-- The digest of a stored entry. -/
def storedEntryDigest (s : Server) (existing : SoulAgentContinuity) : Except AppTheoryError Digest :=
  computeSoulContinuityEntryDigest s existing.Type (canonicalSoulSignedTimestamp existing.Timestamp)
    existing.Summary existing.Recovery
    (if existing.ReferencesV2 = [] then parseLegacyContinuityReferences existing.ReferencesJSON
      else existing.ReferencesV2) ""

def loadMatchingSoulContinuityReplay (s : Server) (entry : SoulAgentContinuity) (requestDigest : Digest) :
    Handler SoulAgentContinuity := do
  match ← Prog.perform (.getContinuity entry.key : Op) with
  | .error _ => .fail (newAppTheoryError "app.internal" "failed to load continuity entry")
  | .ok existing =>
      match storedEntryDigest s existing with
      | .error _ => .fail (newAppTheoryError "app.internal" "failed to validate continuity entry")
      | .ok existingDigest =>
          if existingDigest ≠ requestDigest then
            .fail (newAppTheoryError "app.conflict" "continuity entry already exists")
          else return existing

/-- The entry of the response, and whether it is new. -/
def handleSoulAppendContinuity (s : Server) (agentID : String) (req : soulAppendContinuityRequest) :
    Handler (SoulAgentContinuity × Bool) := do
  let agentIDHex ← liftExcept (parseSoulAgentIDHex agentID)
  let identity ← requireActiveSoulAgentWithDomainAccess agentIDHex
  let now ← now
  let entryData ← liftExcept (parseSoulAppendContinuityData req now)
  let digest ← liftExcept (computeSoulContinuityEntryDigest s entryData.entryType
    entryData.timestampCanonical entryData.summary entryData.recovery entryData.references "")
  if s.verifyEthereumSignatureBytes identity.Wallet digest entryData.signature = false then
    .fail (newAppTheoryError "app.bad_request" "invalid continuity signature")
  else do
    let entry := continuityEntry agentIDHex entryData.entryType entryData.summary entryData.recovery
      entryData.references entryData.signature entryData.parsedTS
    match ← Prog.perform (.write [.createContinuity entry] : Op) with
    | .ok () => return (entry, true)
    | .error .conditionFailed => do
        let existing ← loadMatchingSoulContinuityReplay s entry digest
        return (existing, false)
    | .error _ => .fail (newAppTheoryError "app.internal" "failed to create continuity entry")

end LesserHost.SoulLifecycle
