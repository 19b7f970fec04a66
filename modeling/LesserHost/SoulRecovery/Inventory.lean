import LesserHost.Go.Base64
import LesserHost.Go.JSONText
import LesserHost.Go.Runes
import LesserHost.Go.Text
import LesserHost.SoulComm.Message

set_option autoImplicit false

/-! # The recovery inventory

`listSoulRecoveryAgents` of `internal/controlplane/handlers_soul_recovery.go` and what it calls: the page of
active agents of the managed domains of an instance, and the cursor a page ends with. The table is a
parameter, and so is the evidence of an active agent (its promotion, declarations and artifacts), which the
inventory only loads and shows. A request also counts its queries of the domain index. -/

namespace LesserHost.SoulRecovery

open LesserHost.Go LesserHost.SoulComm

/-! ## Limits and errors -/

def soulRecoveryDefaultLimit : Nat := 20
def soulRecoveryMaxLimit : Nat := 50
def soulRecoveryMaxScanPages : Nat := 20

def soulRecoveryCodeInvalidRequest : String := "soul_recovery.invalid_request"
def soulRecoveryCodeUnauthorized : String := "soul_recovery.unauthorized"
def soulRecoveryCodeBoundaryViolation : String := "soul_recovery.boundary_violation"
def soulRecoveryCodeNotFound : String := "soul_recovery.not_found"
def soulRecoveryCodeIntegrityConflict : String := "soul_recovery.integrity_conflict"
def soulRecoveryCodeInternal : String := "soul_recovery.internal"

structure AppTheoryError where
  Code : String
  Message : String
  StatusCode : Nat
  /-- the field named in the details -/
  field : Option String
deriving DecidableEq

def soulRecoveryError (code message : String) (status : Nat) (field : Option String) : AppTheoryError :=
  ⟨code, message, status, field⟩

def soulRecoveryUnauthorized : AppTheoryError :=
  soulRecoveryError soulRecoveryCodeUnauthorized "unauthorized" 401 none

def soulRecoveryInternal (message : String) : AppTheoryError :=
  soulRecoveryError soulRecoveryCodeInternal message 500 none

def soulRecoveryConflict (message : String) : AppTheoryError :=
  soulRecoveryError soulRecoveryCodeIntegrityConflict message 409 none

def soulRecoveryInvalidCursor : AppTheoryError :=
  soulRecoveryError soulRecoveryCodeInvalidRequest "cursor is invalid" 400 (some "cursor")

/-- `envIntPositiveClampedFromString` -/
def envIntPositiveClampedFromString (raw : String) (fallback max : Nat) : Nat :=
  let limit : Nat :=
    if TrimSpace raw = "" then fallback
    else match Atoi (bytes (TrimSpace raw)) with
    | none => fallback
    | some n => if n ≤ 0 then fallback else n.toNat
  if 0 < max ∧ max < limit then max else limit

def parseSoulRecoveryLimit (raw : String) : Except AppTheoryError Nat :=
  if TrimSpace raw = "" then .ok soulRecoveryDefaultLimit
  else
    let limit := envIntPositiveClampedFromString (TrimSpace raw) 0 soulRecoveryMaxLimit
    if limit = 0 then
      .error (soulRecoveryError soulRecoveryCodeInvalidRequest "limit is invalid" 400 (some "limit"))
    else .ok limit

theorem parseSoulRecoveryLimit_pos {raw : String} {limit : Nat} (h : parseSoulRecoveryLimit raw = .ok limit) :
    0 < limit := by
  unfold parseSoulRecoveryLimit at h
  dsimp only at h
  split_ifs at h with hblank hzero
  · rw [← Except.ok.inj h]
    decide
  · rw [← Except.ok.inj h]
    exact Nat.pos_of_ne_zero hzero

/-! ## Rows -/

/-- An entry of the index of the agents of a domain. -/
structure SoulDomainAgentIndex where
  Domain : String
  LocalID : String
  AgentID : String

structure SoulAgentIdentity where
  AgentID : String
  Domain : String
  LocalID : String
  Status : String
  LifecycleStatus : String
  SelfDescriptionVersion : Int

structure Domain where
  Status : String
  InstanceSlug : String

structure Instance where
  Slug : String

/-- What a paginated query says besides its items. -/
structure PaginatedResult where
  HasMore : Bool
  NextCursor : String

inductive ReadError where
  | notFound
  | failed

/-- The table, and the evidence the recovery loads for an agent. -/
structure Store (Evidence : Type) where
  GetInstance : String → Except ReadError (Option Instance)
  /-- the names of the verified domains of an instance, with its stage domain -/
  managedDomains : Instance → Except ReadError (List String)
  /-- the items of a partition after a cursor, by sort key and up to a limit -/
  AllPaginated : (pk cursor : String) → Nat →
    Except ReadError (List (Option SoulDomainAgentIndex) × Option PaginatedResult)
  getSoulAgentIdentity : String → Except ReadError (Option SoulAgentIdentity)
  loadManagedStageAwareDomain : String → Except ReadError (Option Domain)
  loadEvidence : (instanceSlug agentID : String) → SoulAgentIdentity → Except AppTheoryError Evidence

structure soulRecoveryAgentSummary (Evidence : Type) where
  AgentID : String
  Domain : String
  LocalID : String
  Status : String
  SelfDescriptionVersion : Int
  evidence : Evidence

variable {Evidence : Type}

/-! ## Identities -/

def SoulAgentStatusActive : String := "active"

def domainIsVerifiedOrActive (status : String) : Bool :=
  TrimSpace status = "verified" ∨ TrimSpace status = "active"

/-- `requireSoulAgentInstanceAccess`, with the error `soulRecoveryAccessError` makes of the one it returns. -/
def requireSoulAgentInstanceAccess (db : Store Evidence) (instanceSlug : String)
    (identity : SoulAgentIdentity) : Except AppTheoryError Unit :=
  let outside := soulRecoveryError soulRecoveryCodeBoundaryViolation
    "agent is outside the authenticated instance boundary" 403 none
  if TrimSpace instanceSlug = "" then .error outside
  else if ToLower (TrimSpace identity.Domain) = "" then .error outside
  else match db.loadManagedStageAwareDomain (ToLower (TrimSpace identity.Domain)) with
  | .error .notFound => .error outside
  | .error .failed => .error (soulRecoveryInternal "internal error")
  | .ok none => .error outside
  | .ok (some d) =>
      if domainIsVerifiedOrActive d.Status = false then .error outside
      else if EqualFold (TrimSpace d.InstanceSlug) (TrimSpace instanceSlug) = false then .error outside
      else .ok ()

def effectiveStatus (identity : SoulAgentIdentity) : String :=
  if ToLower (TrimSpace identity.LifecycleStatus) = "" then ToLower (TrimSpace identity.Status)
  else ToLower (TrimSpace identity.LifecycleStatus)

def loadSoulRecoveryIdentityRecord (db : Store Evidence) (instanceSlug agentID : String) :
    Except AppTheoryError (SoulAgentIdentity × String) :=
  match db.getSoulAgentIdentity agentID with
  | .error .notFound => .error (soulRecoveryError soulRecoveryCodeNotFound "agent not found" 404 none)
  | .error .failed | .ok none => .error (soulRecoveryInternal "failed to load agent identity")
  | .ok (some identity) =>
      if EqualFold (TrimSpace identity.AgentID) (TrimSpace agentID) = false then
        .error (soulRecoveryConflict "agent identity binding is invalid")
      else match requireSoulAgentInstanceAccess db instanceSlug identity with
      | .error appErr => .error appErr
      | .ok () => .ok (identity, effectiveStatus identity)

def soulRecoveryInventoryIndexMatchesIdentity (item : SoulDomainAgentIndex)
    (identity : SoulAgentIdentity) : Bool :=
  EqualFold (TrimSpace item.AgentID) (TrimSpace identity.AgentID) &&
    EqualFold (TrimSpace item.Domain) (TrimSpace identity.Domain) &&
    EqualFold (TrimSpace item.LocalID) (TrimSpace identity.LocalID)

/-- `loadSoulRecoveryAgentFromIdentity` and `soulRecoverySummaryFromDetail`. -/
def loadSummary (db : Store Evidence) (instanceSlug agentID : String) (identity : SoulAgentIdentity)
    (status : String) : Except AppTheoryError (soulRecoveryAgentSummary Evidence) :=
  match db.loadEvidence instanceSlug agentID identity with
  | .error appErr => .error appErr
  | .ok evidence => .ok ⟨ToLower (TrimSpace identity.AgentID), ToLower (TrimSpace identity.Domain),
      TrimSpace identity.LocalID, status, identity.SelfDescriptionVersion, evidence⟩

/-! ## Domains -/

def addSoulRosterDomainOwner (domainOwners : List String) (domain : String) : List String :=
  let domain := ToLower (TrimSpace domain)
  if domain = "" then domainOwners
  else if domain ∈ domainOwners then domainOwners
  else domainOwners ++ [domain]

def loadSoulRecoveryDomains (db : Store Evidence) (instanceSlug : String) :
    Except AppTheoryError (List String) :=
  match db.GetInstance instanceSlug with
  | .error .notFound => .error soulRecoveryUnauthorized
  | .error .failed => .error (soulRecoveryInternal "failed to load instance")
  | .ok none => .error soulRecoveryUnauthorized
  | .ok (some inst) =>
      if EqualFold inst.Slug instanceSlug = false then .error soulRecoveryUnauthorized
      else if TrimSpace inst.Slug = "" then .ok []
      else match db.managedDomains inst with
      | .error _ => .error (soulRecoveryInternal "failed to load instance domains")
      | .ok domains => .ok (sortStrings (domains.foldl addSoulRosterDomainOwner []))

/-! ## Cursors -/

structure soulRecoveryInventoryCursor where
  DomainIndex : Int
  Inner : String

/-- `json.Marshal` of a cursor. -/
def marshalCursor (cursor : soulRecoveryInventoryCursor) : String :=
  String.ofList ('\x7b' :: (JSONText.quote "domain_index" ++ ':' :: ((Itoa cursor.DomainIndex).toList ++
    (if cursor.Inner = "" then ['\x7d']
    else ',' :: (JSONText.quote "inner" ++ ':' :: (JSONText.quote cursor.Inner ++ ['\x7d']))))))

/-- The digits in which `base64.URLEncoding` differs from the standard one. -/
def urlDigit (b : UInt8) : UInt8 := if b = 0x2b then 0x2d else if b = 0x2f then 0x5f else b

/-- The standard digit of a digit of `base64.URLEncoding`. -/
def standardDigit (b : UInt8) : UInt8 := if b = 0x2d then 0x2b else if b = 0x5f then 0x2f else b

/-- `base64.RawURLEncoding.DecodeString`. -/
def decodeRawURL (s : Bytes) : Option Bytes :=
  if 0x2b ∈ s ∨ 0x2f ∈ s then none else Base64.rawDecode (s.map standardDigit)

def encodeSoulRecoveryInventoryCursor (cursor : soulRecoveryInventoryCursor) : String :=
  asciiText ((Base64.rawEncode (bytes (marshalCursor cursor))).map urlDigit)

/-- A member of the object, into the cursor read so far. -/
def readMember (cursor : Option soulRecoveryInventoryCursor) (member : String × JSONText.Value) :
    Option soulRecoveryInventoryCursor :=
  match cursor with
  | none => none
  | some cursor =>
      if EqualFold member.1 "domain_index" then
        match member.2 with
        | .number text => (Atoi (bytes (String.ofList text))).map fun n => { cursor with DomainIndex := n }
        | .null => some cursor
        | _ => none
      else if EqualFold member.1 "inner" then
        match member.2 with
        | .string s => some { cursor with Inner := s }
        | .null => some cursor
        | _ => none
      else some cursor

/-- `json.Unmarshal` into a cursor. -/
def unmarshalCursor (body : Bytes) : Option soulRecoveryInventoryCursor :=
  match JSONText.parse (Bytes.runeText body) with
  | some (.object members) => members.foldl readMember (some ⟨0, ""⟩)
  | some .null => some ⟨0, ""⟩
  | _ => none

def decodeSoulRecoveryInventoryCursor (raw : String) : Except AppTheoryError soulRecoveryInventoryCursor :=
  if TrimSpace raw = "" then .ok ⟨0, ""⟩
  else match decodeRawURL (bytes (TrimSpace raw)) with
  | none => .error soulRecoveryInvalidCursor
  | some body =>
      match unmarshalCursor body with
      | none => .error soulRecoveryInvalidCursor
      | some cursor => if cursor.DomainIndex < 0 then .error soulRecoveryInvalidCursor else .ok cursor

/-! ## One page of the index -/

structure soulRecoveryInventoryScan (Evidence : Type) where
  domainIndex : Nat
  inner : String
  pageCount : Nat
  out : List (soulRecoveryAgentSummary Evidence)
  seen : List String

/-- The partition of a domain. -/
def domainPK (domain : String) : String := "SOUL#DOMAIN#" ++ ToLower (TrimSpace domain)

def querySoulRecoveryDomainAgents (db : Store Evidence) (domain cursor : String) (limit : Int) :
    Except AppTheoryError (List (Option SoulDomainAgentIndex) × Bool × String) :=
  let limit := if limit ≤ 0 then soulRecoveryDefaultLimit else limit.toNat
  match db.AllPaginated (domainPK domain) (TrimSpace cursor) limit with
  | .error _ => .error (soulRecoveryInternal "failed to list recovery agents")
  | .ok (items, none) => .ok (items, false, "")
  | .ok (items, some paged) => .ok (items, paged.HasMore, TrimSpace paged.NextCursor)

/-- One round of the loop of `appendSoulRecoveryInventoryItems`. -/
def appendItem (db : Store Evidence) (instanceSlug domain : String) (item : Option SoulDomainAgentIndex)
    (scan : soulRecoveryInventoryScan Evidence) :
    Except AppTheoryError (soulRecoveryInventoryScan Evidence) :=
  match item with
  | none => .error (soulRecoveryConflict "domain index binding is invalid")
  | some item =>
      if EqualFold item.Domain domain = false then
        .error (soulRecoveryConflict "domain index binding is invalid")
      else
        let agentID := ToLower (TrimSpace item.AgentID)
        if agentID = "" then .error (soulRecoveryConflict "domain index agent binding is invalid")
        else match loadSoulRecoveryIdentityRecord db instanceSlug agentID with
        | .error appErr => if appErr.Code = soulRecoveryCodeNotFound then .ok scan else .error appErr
        | .ok (identity, status) =>
            if soulRecoveryInventoryIndexMatchesIdentity item identity = false then
              .error (soulRecoveryConflict "domain index identity binding is invalid")
            else if agentID ∈ scan.seen then .ok scan
            else if status ≠ SoulAgentStatusActive then .ok scan
            else match loadSummary db instanceSlug agentID identity status with
            | .error appErr => .error appErr
            | .ok summary => .ok { scan with out := scan.out ++ [summary], seen := agentID :: scan.seen }

def appendSoulRecoveryInventoryItems (db : Store Evidence) (instanceSlug domain : String) :
    List (Option SoulDomainAgentIndex) → soulRecoveryInventoryScan Evidence →
      Except AppTheoryError (soulRecoveryInventoryScan Evidence)
  | [], scan => .ok scan
  | item :: items, scan =>
      match appendItem db instanceSlug domain item scan with
      | .error appErr => .error appErr
      | .ok scan => appendSoulRecoveryInventoryItems db instanceSlug domain items scan

/-- What follows a page of the index. -/
inductive ScanStep (Evidence : Type) where
  | again (scan : soulRecoveryInventoryScan Evidence)
  | done (scan : soulRecoveryInventoryScan Evidence) (hasMore : Bool) (nextCursor : String)
  | failed (scan : soulRecoveryInventoryScan Evidence) (appErr : AppTheoryError)

def soulRecoveryInventoryScan.cursor (scan : soulRecoveryInventoryScan Evidence) : String :=
  encodeSoulRecoveryInventoryCursor ⟨scan.domainIndex, scan.inner⟩

/-- Where the scan goes on after a page. -/
def soulRecoveryInventoryScan.advance (scan : soulRecoveryInventoryScan Evidence) (pageHasMore : Bool)
    (next : String) : soulRecoveryInventoryScan Evidence :=
  if pageHasMore = true ∧ TrimSpace next ≠ "" then { scan with inner := TrimSpace next }
  else { scan with domainIndex := scan.domainIndex + 1, inner := "" }

def scanSoulRecoveryInventoryPage (db : Store Evidence) (instanceSlug : String) (domains : List String)
    (limit : Nat) (scan : soulRecoveryInventoryScan Evidence) : ScanStep Evidence :=
  match domains[scan.domainIndex]? with
  | none => .done scan false ""
  | some domain =>
      if soulRecoveryMaxScanPages ≤ scan.pageCount then .done scan true scan.cursor
      else
        let scan := { scan with pageCount := scan.pageCount + 1 }
        match querySoulRecoveryDomainAgents db domain scan.inner ((limit : Int) - scan.out.length) with
        | .error appErr => .failed scan appErr
        | .ok (items, pageHasMore, next) =>
            match appendSoulRecoveryInventoryItems db instanceSlug domain items scan with
            | .error appErr => .failed scan appErr
            | .ok appended =>
                let scan := appended.advance pageHasMore next
                if scan.out.length < limit then .again scan
                else if scan.domainIndex < domains.length then .done scan true scan.cursor
                else .done scan false ""

/-! ## One request -/

/-- A row changes nothing, or its agent comes last. -/
theorem appendItem_ok {db : Store Evidence} {instanceSlug domain : String}
    {item : Option SoulDomainAgentIndex} {scan scan' : soulRecoveryInventoryScan Evidence}
    (h : appendItem db instanceSlug domain item scan = .ok scan') :
    scan' = scan ∨ ∃ summary agentID,
      scan' = { scan with out := scan.out ++ [summary], seen := agentID :: scan.seen } := by
  unfold appendItem at h
  cases item with
  | none => cases h
  | some item =>
      dsimp only at h
      by_cases hdomain : EqualFold item.Domain domain = false
      · rw [if_pos hdomain] at h
        cases h
      rw [if_neg hdomain] at h
      by_cases hblank : ToLower (TrimSpace item.AgentID) = ""
      · rw [if_pos hblank] at h
        cases h
      rw [if_neg hblank] at h
      cases hload : loadSoulRecoveryIdentityRecord db instanceSlug (ToLower (TrimSpace item.AgentID)) with
      | error appErr =>
          rw [hload] at h
          dsimp only at h
          split_ifs at h
          exact .inl (Except.ok.inj h).symm
      | ok record =>
          rw [hload] at h
          dsimp only at h
          split_ifs at h
          · exact .inl (Except.ok.inj h).symm
          · exact .inl (Except.ok.inj h).symm
          · split at h
            · cases h
            · exact .inr ⟨_, _, (Except.ok.inj h).symm⟩

theorem appendItem_pageCount {db : Store Evidence} {instanceSlug domain : String}
    {item : Option SoulDomainAgentIndex} {scan scan' : soulRecoveryInventoryScan Evidence}
    (h : appendItem db instanceSlug domain item scan = .ok scan') : scan'.pageCount = scan.pageCount := by
  rcases appendItem_ok h with rfl | ⟨summary, agentID, rfl⟩ <;> rfl

theorem append_pageCount {db : Store Evidence} {instanceSlug domain : String}
    {items : List (Option SoulDomainAgentIndex)} {scan scan' : soulRecoveryInventoryScan Evidence}
    (h : appendSoulRecoveryInventoryItems db instanceSlug domain items scan = .ok scan') :
    scan'.pageCount = scan.pageCount := by
  induction items generalizing scan with
  | nil => rw [← Except.ok.inj h]
  | cons item items ih =>
      rw [appendSoulRecoveryInventoryItems] at h
      split at h
      · cases h
      · next middle hitem => rw [ih h, appendItem_pageCount hitem]

@[simp] theorem advance_pageCount (scan : soulRecoveryInventoryScan Evidence) (more : Bool) (next : String) :
    (scan.advance more next).pageCount = scan.pageCount := by
  unfold soulRecoveryInventoryScan.advance
  split_ifs <;> rfl

@[simp] theorem advance_out (scan : soulRecoveryInventoryScan Evidence) (more : Bool) (next : String) :
    (scan.advance more next).out = scan.out := by
  unfold soulRecoveryInventoryScan.advance
  split_ifs <;> rfl

/-- A page that is followed by another one of the same request has used up one query of the cap. -/
theorem scan_again_pageCount {db : Store Evidence} {instanceSlug : String} {domains : List String}
    {limit : Nat} {scan scan' : soulRecoveryInventoryScan Evidence}
    (h : scanSoulRecoveryInventoryPage db instanceSlug domains limit scan = .again scan') :
    scan.pageCount < soulRecoveryMaxScanPages ∧ scan'.pageCount = scan.pageCount + 1 := by
  unfold scanSoulRecoveryInventoryPage at h
  split at h
  · cases h
  · split_ifs at h with hcap
    dsimp only at h
    split at h
    · cases h
    · split at h
      · cases h
      · next happend =>
        split_ifs at h
        rw [← ScanStep.again.inj h, advance_pageCount, append_pageCount happend]
        exact ⟨by omega, rfl⟩

/-- What a request answers, and the queries it has made. -/
structure Listing (Evidence : Type) where
  agents : List (soulRecoveryAgentSummary Evidence)
  hasMore : Bool
  nextCursor : String

structure Response (Evidence : Type) where
  queries : Nat
  result : Except AppTheoryError (Listing Evidence)

/-- The loop of `listSoulRecoveryAgents`. -/
def scanLoop (db : Store Evidence) (instanceSlug : String) (domains : List String) (limit : Nat)
    (scan : soulRecoveryInventoryScan Evidence) : Response Evidence :=
  match h : scanSoulRecoveryInventoryPage db instanceSlug domains limit scan with
  | .failed scan appErr => ⟨scan.pageCount, .error appErr⟩
  | .done scan hasMore nextCursor => ⟨scan.pageCount, .ok ⟨scan.out, hasMore, nextCursor⟩⟩
  | .again scan => scanLoop db instanceSlug domains limit scan
termination_by soulRecoveryMaxScanPages - scan.pageCount
decreasing_by
  obtain ⟨hcap, hcount⟩ := scan_again_pageCount h
  omega

def listSoulRecoveryAgents (db : Store Evidence) (instanceSlug : String)
    (cursor : soulRecoveryInventoryCursor) (limit : Nat) : Response Evidence :=
  match loadSoulRecoveryDomains db instanceSlug with
  | .error appErr => ⟨0, .error appErr⟩
  | .ok domains =>
      if cursor.DomainIndex < 0 ∨ (domains.length : Int) < cursor.DomainIndex then
        ⟨0, .error soulRecoveryInvalidCursor⟩
      else scanLoop db instanceSlug domains limit ⟨cursor.DomainIndex.toNat, cursor.Inner, 0, [], []⟩

/-- A request with the cursor of a page before. -/
def requestPage (db : Store Evidence) (instanceSlug : String) (limit : Nat) (cursor : String) :
    Response Evidence :=
  match decodeSoulRecoveryInventoryCursor cursor with
  | .error appErr => ⟨0, .error appErr⟩
  | .ok cursor => listSoulRecoveryAgents db instanceSlug cursor limit

end LesserHost.SoulRecovery
