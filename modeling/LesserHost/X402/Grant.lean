import LesserHost.ControlPlane.Store
import LesserHost.Go.Text
import LesserHost.Lib.Interleave

set_option autoImplicit false

/-! # Consuming an invocation grant

`handleSoulX402ConsumeInvocationGrant` and the functions under it in `handlers_soul_x402_grants.go`, on the
rows of one grant. A usage row is created under the condition that its slot is free; the counter of the
grant is written afterwards, and what becomes of that write is not looked at.

Whether the request has an instance key and what becomes of the agent is up to the world, and so are the
clock and the faults of the store. -/

namespace LesserHost.X402

open LesserHost.Go
open LesserHost.ControlPlane (AppTheoryError StoreError newAppTheoryError)

/-! ## Rows -/

def SoulX402InvocationGrantStatusIssued : String := "issued"

structure SoulX402InvocationGrant where
  AgentID : String
  CapabilityVersion : String
  Capability : String
  Tool : String
  Resource : String
  Scope : String
  RequestHash : String
  PaymentEvidenceHash : String
  GrantTokenHash : String
  Status : String
  MaxUsage : Int
  ConsumedUsageCount : Nat
  LatestConsumeSlot : Nat
  LatestConsumeRequest : String
  ExpiresAt : Time
  LastConsumedAt : Time

structure SoulX402InvocationGrantUsage where
  UsageSlot : Nat
  AgentID : String
  ConsumeIdempotencyKeyHash : String
  ConsumeRequestHash : String
  ConsumedAt : Time

/-- `UpdateKeys`. -/
def SoulX402InvocationGrantUsage.UpdateKeys (u : SoulX402InvocationGrantUsage) :
    SoulX402InvocationGrantUsage :=
  { u with
    AgentID := ToLower (TrimSpace u.AgentID)
    ConsumeIdempotencyKeyHash := ToLower (TrimSpace u.ConsumeIdempotencyKeyHash)
    ConsumeRequestHash := ToLower (TrimSpace u.ConsumeRequestHash) }

/-- The rows of a grant. -/
structure Table where
  grant : Option SoulX402InvocationGrant
  usages : List SoulX402InvocationGrantUsage

/-! ## Operations -/

/-- What becomes of the agent of a grant. -/
inductive Access where
  | granted
  | notFound
  | failed
  | inactive
  /-- the instance may not act for the agent -/
  | refused
  deriving DecidableEq

inductive Op where
  /-- the request has an instance key -/
  | requireCommInstanceKey
  | agentAccess (agentID : String)
  | now
  | getGrant
  | listUsages (limit : Int)
  /-- `Create`, if the slot is free -/
  | createUsage (usage : SoulX402InvocationGrantUsage)
  /-- the fields that `Update` names -/
  | updateGrant (usage : SoulX402InvocationGrantUsage) (ConsumedUsageCount : Nat) (now : Time)

abbrev Op.Res : Op → Type
  | .requireCommInstanceKey => Bool
  | .agentAccess _ => Access
  | .now => Time
  | .getGrant => Except StoreError SoulX402InvocationGrant
  | .listUsages _ => Except StoreError (List SoulX402InvocationGrantUsage)
  | .createUsage _ => Except StoreError Unit
  | .updateGrant .. => Except StoreError Unit

inductive Fault where
  | none
  /-- the operation was not carried out -/
  | lost
  /-- the operation was carried out and its answer was lost -/
  | unacknowledged
  deriving DecidableEq

/-- What the world decides at one operation. -/
structure Choice where
  fault : Fault
  key : Bool
  access : Access
  now : Time

/-- The answer under a fault. -/
def Choice.attempt {α : Type} (c : Choice) (t : Table) (r : Except StoreError α × Table) :
    Except StoreError α × Table :=
  match c.fault with
  | .none => r
  | .lost => (.error .other, t)
  | .unacknowledged => (.error .other, r.2)

def x402GrantMaximumUsage : Int := 100

/-- The rows in the order of their slots, up to the limit. -/
def Table.list (t : Table) (limit : Int) : List SoulX402InvocationGrantUsage :=
  let limit := if limit ≤ 0 ∨ x402GrantMaximumUsage < limit then x402GrantMaximumUsage else limit
  (t.usages.mergeSort fun u v => decide (u.UsageSlot ≤ v.UsageSlot)).take limit.toNat

def Table.create (t : Table) (usage : SoulX402InvocationGrantUsage) : Except StoreError Unit × Table :=
  if usage.UsageSlot ∈ t.usages.map (·.UsageSlot) then (.error .conditionFailed, t)
  else (.ok (), { t with usages := t.usages ++ [usage.UpdateKeys] })

def Table.update (t : Table) (usage : SoulX402InvocationGrantUsage) (ConsumedUsageCount : Nat)
    (now : Time) : Except StoreError Unit × Table :=
  match t.grant with
  | none => (.error .conditionFailed, t)
  | some grant => (.ok (), { t with
      grant := some { grant with
        ConsumedUsageCount := ConsumedUsageCount
        LatestConsumeSlot := usage.UsageSlot
        LatestConsumeRequest := usage.ConsumeRequestHash
        LastConsumedAt := now } })

def Table.handle : (o : Op) → Choice → Table → o.Res × Table
  | .requireCommInstanceKey, c, t => (c.key, t)
  | .agentAccess _, c, t => (c.access, t)
  | .now, c, t => (c.now, t)
  | .getGrant, c, t => c.attempt t (t.grant.elim (.error .notFound) .ok, t)
  | .listUsages limit, c, t => c.attempt t (.ok (t.list limit), t)
  | .createUsage usage, c, t => c.attempt t (t.create usage)
  | .updateGrant usage ConsumedUsageCount now, c, t => c.attempt t (t.update usage ConsumedUsageCount now)

def tableEnv : Prog.Env Op Op.Res Table Choice := ⟨Table.handle⟩

abbrev Handler (α : Type) := Prog Op Op.Res AppTheoryError α

/-! ## Checks -/

def x402CodeInvalidRequest : String := "x402.invalid_request"
def x402CodeUnauthorized : String := "x402.unauthorized"
def x402CodeGrantRejected : String := "x402.grant_rejected"
def x402CodeIdempotencyConflict : String := "x402.idempotency_conflict"
def x402CodeInternal : String := "x402.internal"

/-- `newX402Error`, without the status code. -/
def newX402Error (code message : String) : AppTheoryError := newAppTheoryError code message

def SoulX402InvocationGrantCapabilityVocabularyScopedV1 : String := "scoped-invocation/v1"
def SoulX402InvocationGrantCapabilityVocabularyInstanceV1 : String := "instance-capability/v1"
def SoulX402InvocationGrantCapabilityInstanceAgentCreate : String := "instance:agent_create"
def SoulX402InvocationGrantCapabilityInstanceInstallPlan : String := "instance:install_plan"
def x402InstanceToolAgentCreate : String := "agent_create"
def x402InstanceToolInstallPlan : String := "install_plan"
def x402InstanceToolLocalPlan : String := "agent_local_install_plan"

def normalizeX402StringField (field raw : String) (maxLen : Nat) (required : Bool) :
    Except AppTheoryError String :=
  let value := TrimSpace raw
  if value = "" then
    if required then .error (newX402Error x402CodeInvalidRequest (field ++ " is required")) else .ok ""
  else if 0 < maxLen ∧ maxLen < len value then
    .error (newX402Error x402CodeInvalidRequest (field ++ " is invalid"))
  else .ok value

def normalizeX402TokenField (field raw : String) (maxLen : Nat) : Except AppTheoryError String :=
  (normalizeX402StringField field raw maxLen true).map ToLower

def isX402InstanceCapability (capability : String) : Bool :=
  [SoulX402InvocationGrantCapabilityInstanceAgentCreate,
    SoulX402InvocationGrantCapabilityInstanceInstallPlan].contains (ToLower (TrimSpace capability))

def isX402InstanceTool (tool : String) : Bool :=
  [x402InstanceToolAgentCreate, x402InstanceToolLocalPlan, x402InstanceToolInstallPlan].contains
    (ToLower (TrimSpace tool))

def x402InstanceCapabilityMatchesTool (capability tool : String) : Bool :=
  let capability := ToLower (TrimSpace capability)
  let tool := ToLower (TrimSpace tool)
  if capability = SoulX402InvocationGrantCapabilityInstanceAgentCreate then
    tool == x402InstanceToolAgentCreate
  else if capability = SoulX402InvocationGrantCapabilityInstanceInstallPlan then
    tool == x402InstanceToolLocalPlan || tool == x402InstanceToolInstallPlan
  else false

def normalizeX402CapabilityBinding (rawVersion rawCapability tool : String) :
    Except AppTheoryError (String × String) :=
  let version := ToLower (TrimSpace rawVersion)
  if version = "" then .error (newX402Error x402CodeInvalidRequest "capabilityVersion is required")
  else match normalizeX402TokenField "capability" rawCapability 128 with
  | .error e => .error e
  | .ok capability =>
      if version = SoulX402InvocationGrantCapabilityVocabularyScopedV1 then
        if isX402InstanceCapability capability || isX402InstanceTool tool then
          .error (newX402Error x402CodeInvalidRequest "capability is invalid for scoped invocation")
        else .ok (version, capability)
      else if version = SoulX402InvocationGrantCapabilityVocabularyInstanceV1 then
        if !isX402InstanceCapability capability || !x402InstanceCapabilityMatchesTool capability tool then
          .error (newX402Error x402CodeInvalidRequest
            "capability is invalid for instance capability vocabulary")
        else .ok (version, capability)
      else .error (newX402Error x402CodeInvalidRequest "capabilityVersion is invalid")

def normalizeX402GrantAccessScope (raw : String) : Except AppTheoryError String :=
  let scope := ToLower (TrimSpace raw)
  if scope ∈ ["read", "write", "admin"] then .ok scope
  else if scope = "" then .error (newX402Error x402CodeInvalidRequest "scope is required")
  else .error (newX402Error x402CodeInvalidRequest "scope is invalid")

structure validatedSoulX402GrantConsume where
  grantTokenHash : String
  agentIDHex : String
  capabilityVersion : String
  capability : String
  tool : String
  resource : String
  requestHash : String
  idempotencyHash : String
  paymentEvidenceHash : String
  consumeRequestHash : String

def soulX402GrantMatchesConsumeRequest (grant : SoulX402InvocationGrant)
    (req : validatedSoulX402GrantConsume) : Bool :=
  EqualFold (TrimSpace grant.AgentID) req.agentIDHex &&
    EqualFold (TrimSpace grant.CapabilityVersion) req.capabilityVersion &&
    EqualFold (TrimSpace grant.Capability) req.capability &&
    EqualFold (TrimSpace grant.Tool) req.tool &&
    TrimSpace grant.Resource == TrimSpace req.resource &&
    EqualFold (TrimSpace grant.RequestHash) req.requestHash

def validateSoulX402GrantForConsume (grant : SoulX402InvocationGrant) (req : validatedSoulX402GrantConsume)
    (now : Time) : Except AppTheoryError Unit :=
  if TrimSpace grant.GrantTokenHash = "" ∨
      EqualFold (TrimSpace grant.GrantTokenHash) req.grantTokenHash = false then
    .error (newX402Error x402CodeUnauthorized "unauthorized")
  else if TrimSpace grant.Status ≠ SoulX402InvocationGrantStatusIssued then
    .error (newX402Error x402CodeGrantRejected "grant rejected")
  else if (normalizeX402CapabilityBinding grant.CapabilityVersion grant.Capability grant.Tool).isOk = false ∨
      (normalizeX402GrantAccessScope grant.Scope).isOk = false then
    .error (newX402Error x402CodeGrantRejected "grant rejected")
  else if grant.ExpiresAt.IsZero ∨ grant.ExpiresAt.After now = false then
    .error (newX402Error x402CodeGrantRejected "grant expired")
  else if soulX402GrantMatchesConsumeRequest grant req = false then
    .error (newX402Error x402CodeGrantRejected "grant scope mismatch")
  else if grant.MaxUsage < 1 ∨ x402GrantMaximumUsage < grant.MaxUsage then
    .error (newX402Error x402CodeGrantRejected "grant rejected")
  else if TrimSpace grant.PaymentEvidenceHash ≠ req.paymentEvidenceHash then
    .error (newX402Error x402CodeGrantRejected "payment evidence hash mismatch")
  else .ok ()

/-! ## Claiming a slot -/

def liftExcept {α : Type} : Except AppTheoryError α → Handler α
  | .ok a => .ret a
  | .error e => .fail e

def grantUsageExhausted : AppTheoryError := newX402Error x402CodeGrantRejected "grant usage exhausted"

/-- The usage of an earlier request with the same idempotency key. -/
def findReplay (req : validatedSoulX402GrantConsume) :
    List SoulX402InvocationGrantUsage → Except AppTheoryError (Option SoulX402InvocationGrantUsage)
  | [] => .ok none
  | item :: items =>
      if EqualFold (TrimSpace item.ConsumeIdempotencyKeyHash) req.idempotencyHash then
        if EqualFold (TrimSpace item.ConsumeRequestHash) req.consumeRequestHash = false then
          .error (newX402Error x402CodeIdempotencyConflict
            "idempotency key already used for a different consume request")
        else .ok (some item)
      else findReplay req items

/-- The slots that are taken. -/
def occupiedSlots (items : List SoulX402InvocationGrantUsage) : List Nat :=
  (items.map (·.UsageSlot)).dedup

def availableSoulX402InvocationGrantUsageSlots (maxUsage : Int) (occupied : List Nat) : List Nat :=
  (List.range maxUsage.toNat).filter fun slot => slot ∉ occupied

/-- The rows of the grant, and the row of an earlier request. -/
def loadSoulX402InvocationGrantUsageSnapshot (grant : SoulX402InvocationGrant)
    (req : validatedSoulX402GrantConsume) :
    Handler (List SoulX402InvocationGrantUsage × Option SoulX402InvocationGrantUsage) := do
  match ← Prog.perform (.listUsages grant.MaxUsage : Op) with
  | .error _ => .fail (newX402Error x402CodeInternal "internal error")
  | .ok items => do
      let replay ← liftExcept (findReplay req items)
      return (items, replay)

/-- What a claim comes to: the usage, the count and whether it is a replay. -/
structure Claimed where
  usage : SoulX402InvocationGrantUsage
  usedCount : Nat
  replayed : Bool

/-- One attempt. It returns nothing when another request has taken the slot. -/
def tryClaimSoulX402InvocationGrantUsage (grant : SoulX402InvocationGrant)
    (req : validatedSoulX402GrantConsume) (now : Time) : Handler (Option Claimed) := do
  let (items, replay) ← loadSoulX402InvocationGrantUsageSnapshot grant req
  match replay with
  | some usage => return some ⟨usage, items.length, true⟩
  | none =>
      let occupied := occupiedSlots items
      if grant.MaxUsage ≤ occupied.length then .fail grantUsageExhausted
      else match availableSoulX402InvocationGrantUsageSlots grant.MaxUsage occupied with
      | [] => .fail grantUsageExhausted
      | slot :: _ =>
          let usage : SoulX402InvocationGrantUsage :=
            ⟨slot, grant.AgentID, req.idempotencyHash, req.consumeRequestHash, now⟩
          match ← Prog.perform (.createUsage usage : Op) with
          | .ok () => do
              let usedCount := occupied.length + 1
              let _ ← Prog.perform (.updateGrant usage usedCount now : Op)
              return some ⟨usage, usedCount, false⟩
          | .error .conditionFailed => return none
          | .error _ => .fail (newX402Error x402CodeInternal "internal error")

def claimAttempts (grant : SoulX402InvocationGrant) (req : validatedSoulX402GrantConsume) (now : Time) :
    Nat → Handler Claimed
  | 0 => .fail grantUsageExhausted
  | attempts + 1 => do
      match ← tryClaimSoulX402InvocationGrantUsage grant req now with
      | some claimed => return claimed
      | none => claimAttempts grant req now attempts

def claimSoulX402InvocationGrantUsage (grant : SoulX402InvocationGrant)
    (req : validatedSoulX402GrantConsume) (now : Time) : Handler Claimed :=
  claimAttempts grant req now (grant.MaxUsage + 1).toNat

/-! ## The handler -/

def loadSoulX402GrantForConsume (req : validatedSoulX402GrantConsume) : Handler SoulX402InvocationGrant := do
  match ← Prog.perform (.getGrant : Op) with
  | .error .notFound => .fail (newX402Error x402CodeUnauthorized "unauthorized")
  | .error _ => .fail (newX402Error x402CodeInternal "internal error")
  | .ok grant => do
      let now ← Prog.perform (.now : Op)
      liftExcept (validateSoulX402GrantForConsume grant req now)
      return grant

/-- The answer, as far as it says how often the grant has been used. -/
structure soulX402GrantConsumeResponse where
  Replayed : Bool
  GrantUsedCount : Nat
  Usage : SoulX402InvocationGrantUsage
  UsageUsedCount : Nat
  MaxUsage : Int

/-- The larger of the two counts, as `soulX402GrantView` shows it. -/
def soulX402GrantViewUsedCount (grant : SoulX402InvocationGrant) (usedCount : Nat) : Nat :=
  if usedCount < grant.ConsumedUsageCount then grant.ConsumedUsageCount else usedCount

def authorizeSoulX402GrantConsumeInstance (grant : SoulX402InvocationGrant) : Handler Unit := do
  match ← Prog.perform (.agentAccess grant.AgentID : Op) with
  | .granted => return ()
  | .notFound => .fail (newX402Error x402CodeUnauthorized "unauthorized")
  | .failed => .fail (newX402Error x402CodeInternal "internal error")
  | .inactive => .fail (newX402Error x402CodeGrantRejected "grant rejected")
  | .refused => .fail (newX402Error x402CodeUnauthorized "unauthorized")

/-- A request that has been read. -/
def handleSoulX402ConsumeInvocationGrant (req : validatedSoulX402GrantConsume) :
    Handler soulX402GrantConsumeResponse := do
  let key ← Prog.perform (.requireCommInstanceKey : Op)
  if !key then .fail (newX402Error x402CodeUnauthorized "unauthorized")
  else do
  let grant ← loadSoulX402GrantForConsume req
  authorizeSoulX402GrantConsumeInstance grant
  let now ← Prog.perform (.now : Op)
  let claimed ← claimSoulX402InvocationGrantUsage grant req now
  return ⟨claimed.replayed, soulX402GrantViewUsedCount grant claimed.usedCount, claimed.usage,
    claimed.usedCount, grant.MaxUsage⟩

end LesserHost.X402
