import LesserHost.ControlPlane.Store
import LesserHost.Go.JSONText
import LesserHost.Go.Text
import LesserHost.Lib.Interleave

set_option autoImplicit false

/-! # Agents, their challenges and their journals

The rows of `internal/store/models` that the lifecycle of an agent lives in, and the operations of its
handlers on them. The identifier of an identity is the key it is stored under.

Any number of requests run over one table. A write carries the identity as its request has read it,
beside the identity it writes. Any operation may fail, and a write may have taken effect when it does.
Whether the caller may act for a domain is up to the world, and so are the version that a publish
records and the files it uploads before its last write. -/

namespace LesserHost.SoulLifecycle

open LesserHost.Go
open LesserHost.ControlPlane (AppTheoryError StoreError)

/-! ## Identities -/

def SoulAgentStatusPending : String := "pending"
def SoulAgentStatusActive : String := "active"
def SoulAgentStatusSuspended : String := "suspended"
def SoulAgentStatusSelfSuspended : String := "self_suspended"
def SoulAgentStatusArchived : String := "archived"
def SoulAgentStatusSucceeded : String := "succeeded"

structure SoulAgentIdentity where
  Domain : String
  Wallet : String
  SelfDescriptionVersion : Int
  LifecycleStatus : String
  LifecycleReason : String
  SuccessorAgentID : String
  PredecessorAgentID : String
  Status : String
  deriving DecidableEq

/-- `UpdateKeys`. -/
def SoulAgentIdentity.UpdateKeys (a : SoulAgentIdentity) : SoulAgentIdentity :=
  { a with
    Domain := ToLower (TrimSpace a.Domain)
    Wallet := ToLower (TrimSpace a.Wallet)
    LifecycleStatus := ToLower (TrimSpace a.LifecycleStatus)
    LifecycleReason := TrimSpace a.LifecycleReason
    SuccessorAgentID := ToLower (TrimSpace a.SuccessorAgentID)
    PredecessorAgentID := ToLower (TrimSpace a.PredecessorAgentID)
    Status := ToLower (TrimSpace a.Status) }

/-! ## Challenges -/

structure SoulLifecycleChallenge where
  TTL : Int
  AgentID : String
  Nonce : String
  Purpose : String
  SuccessorAgentID : String
  IssuedAt : Time
  ExpiresAt : Time
  deriving DecidableEq

/-- `UpdateKeys`. -/
def SoulLifecycleChallenge.UpdateKeys (c : SoulLifecycleChallenge) : SoulLifecycleChallenge :=
  { AgentID := ToLower (TrimSpace c.AgentID)
    Nonce := TrimSpace c.Nonce
    Purpose := ToLower (TrimSpace c.Purpose)
    SuccessorAgentID := ToLower (TrimSpace c.SuccessorAgentID)
    IssuedAt := c.IssuedAt.UTC
    ExpiresAt := c.ExpiresAt.UTC
    TTL := if c.ExpiresAt.IsZero then c.TTL else c.ExpiresAt.Unix }

/-- `SOUL#AGENT#<agentId>`, `LIFECYCLE_CHALLENGE#<nonce>`. -/
def SoulLifecycleChallenge.key (c : SoulLifecycleChallenge) : String × String := (c.AgentID, c.Nonce)

/-! ## The journal -/

structure SoulAgentContinuity where
  AgentID : String
  «Type» : String
  Summary : String
  Recovery : String
  ReferencesJSON : String
  ReferencesV2 : List String
  Signature : String
  Timestamp : Time
  deriving DecidableEq

def trimmedNonEmpty (references : List String) : List String :=
  (references.map TrimSpace).filter (· ≠ "")

/-- `UpdateKeys`. -/
def SoulAgentContinuity.UpdateKeys (c : SoulAgentContinuity) : SoulAgentContinuity where
  AgentID := ToLower (TrimSpace c.AgentID)
  «Type» := ToLower (TrimSpace c.Type)
  Summary := TrimSpace c.Summary
  Recovery := TrimSpace c.Recovery
  ReferencesJSON := TrimSpace c.ReferencesJSON
  ReferencesV2 := trimmedNonEmpty c.ReferencesV2
  Signature := ToLower (TrimSpace c.Signature)
  Timestamp := c.Timestamp.UTC.TruncateMillisecond

/-- `SOUL#AGENT#<agentId>`, `CONTINUITY#<timestamp>#<type>`. -/
def SoulAgentContinuity.key (c : SoulAgentContinuity) : String × String :=
  (c.AgentID, "CONTINUITY#" ++ c.Timestamp.FormatMillis ++ "#" ++ c.Type)

/-! ## The table -/

structure Table where
  identities : String → Option SoulAgentIdentity
  challenges : String × String → Option SoulLifecycleChallenge
  continuity : String × String → Option SoulAgentContinuity
  now : Time

/-- One item of a write. An identity is written after its `UpdateKeys`. -/
inductive Write where
  /-- `IfExists().Update("Status", "LifecycleStatus", "LifecycleReason", …)` -/
  | updateStatus (agentID : String) (read identity : SoulAgentIdentity)
  /-- the same and `"SuccessorAgentID"` -/
  | updateSuccessor (agentID : String) (read identity : SoulAgentIdentity)
  /-- `IfExists().Update("PredecessorAgentID", …)` -/
  | updatePredecessor (agentID : String) (read identity : SoulAgentIdentity)
  /-- `IfExists().Update(…)` of the version, of status and lifecycle status, or of both -/
  | updatePublished (agentID : String) (read identity : SoulAgentIdentity) (version activation : Bool)
  | createChallenge (challenge : SoulLifecycleChallenge)
  /-- `tx.Delete(challenge, IfExists(), Condition("TTL", ">", now.Unix()))` -/
  | deleteChallenge (challenge : SoulLifecycleChallenge) (now : Time)
  | createContinuity (entry : SoulAgentContinuity)

/-- The condition of an item. -/
def Write.allowed (t : Table) : Write → Bool
  | .updateStatus agentID _ _ | .updateSuccessor agentID _ _ | .updatePredecessor agentID _ _
  | .updatePublished agentID _ _ _ _ => (t.identities agentID).isSome
  | .createChallenge challenge => (t.challenges challenge.key).isNone
  | .deleteChallenge challenge now =>
      (t.challenges challenge.key).any fun row => decide (now.Unix < row.TTL)
  | .createContinuity entry => (t.continuity entry.key).isNone

def Table.updateIdentity (t : Table) (agentID : String)
    (f : SoulAgentIdentity → SoulAgentIdentity) : Table :=
  { t with identities := Function.update t.identities agentID ((t.identities agentID).map f) }

/-- The fields an item sets in its row. -/
def Write.fields : Write → SoulAgentIdentity → SoulAgentIdentity
  | .updateStatus _ _ identity, row =>
      { row with
        Status := identity.Status
        LifecycleStatus := identity.LifecycleStatus
        LifecycleReason := identity.LifecycleReason }
  | .updateSuccessor _ _ identity, row =>
      { row with
        Status := identity.Status
        LifecycleStatus := identity.LifecycleStatus
        LifecycleReason := identity.LifecycleReason
        SuccessorAgentID := identity.SuccessorAgentID }
  | .updatePredecessor _ _ identity, row =>
      { row with PredecessorAgentID := identity.PredecessorAgentID }
  | .updatePublished _ _ identity version activation, row =>
      { row with
        SelfDescriptionVersion :=
          if version then identity.SelfDescriptionVersion else row.SelfDescriptionVersion
        Status := if activation then identity.Status else row.Status
        LifecycleStatus := if activation then identity.LifecycleStatus else row.LifecycleStatus }
  | _, row => row

/-- The agent whose identity an item updates. -/
def Write.agent : Write → Option String
  | .updateStatus agentID _ _ | .updateSuccessor agentID _ _ | .updatePredecessor agentID _ _
  | .updatePublished agentID _ _ _ _ => some agentID
  | _ => none

def Write.apply (t : Table) (w : Write) : Table :=
  match w with
  | .createChallenge challenge =>
      { t with challenges := Function.update t.challenges challenge.key (some challenge) }
  | .deleteChallenge challenge _ =>
      { t with challenges := Function.update t.challenges challenge.key none }
  | .createContinuity entry =>
      { t with continuity := Function.update t.continuity entry.key (some entry) }
  | .updateStatus agentID _ _ | .updateSuccessor agentID _ _ | .updatePredecessor agentID _ _
  | .updatePublished agentID _ _ _ _ => t.updateIdentity agentID w.fields

/-- What an item makes of the row of an agent. -/
def Write.onRow (agentID : String) (w : Write) (row : SoulAgentIdentity) : SoulAgentIdentity :=
  if w.agent = some agentID then w.fields row else row

theorem updateIdentity_row (t : Table) (a agentID : String)
    (f : SoulAgentIdentity → SoulAgentIdentity) :
    (t.updateIdentity a f).identities agentID
      = (t.identities agentID).map fun row => if a = agentID then f row else row := by
  unfold Table.updateIdentity
  by_cases h : a = agentID
  · subst h
    simp
  · simp [h, Function.update_of_ne (Ne.symm h)]

theorem apply_row (w : Write) (t : Table) (agentID : String) :
    (w.apply t).identities agentID = (t.identities agentID).map (w.onRow agentID) := by
  have hkept : t.identities agentID = (t.identities agentID).map fun row => row := by simp
  cases w with
  | createChallenge challenge => exact hkept
  | deleteChallenge challenge now => exact hkept
  | createContinuity entry => exact hkept
  | _ =>
      rw [Write.apply, updateIdentity_row]
      refine congrArg (fun f => Option.map f _) (funext fun row => ?_)
      simp [Write.onRow, Write.agent]

/-- The row after a transaction. -/
theorem foldl_row (ws : List Write) (t : Table) (agentID : String) :
    (ws.foldl Write.apply t).identities agentID
      = (t.identities agentID).map fun row => ws.foldl (fun row w => w.onRow agentID row) row := by
  induction ws generalizing t with
  | nil => simp
  | cons w ws ih =>
      rw [List.foldl_cons, ih, apply_row, Option.map_map]
      rfl

/-- All conditions are checked against the table before, then all is written. -/
def Table.write (t : Table) (ws : List Write) : Except StoreError Unit × Table :=
  if ws.all (Write.allowed t) then (.ok (), ws.foldl Write.apply t) else (.error .conditionFailed, t)

/-! ## Operations -/

inductive Op where
  | now
  /-- `newToken(32)` -/
  | newToken
  /-- `requireSoulDomainAccess` -/
  | requireDomainAccess (domain : String)
  | getIdentity (agentID : String)
  | getChallenge (agentID nonce : String)
  | getContinuity (key : String × String)
  /-- what a publish does before its last write -/
  | publishVersion (agentID : String) (read : SoulAgentIdentity)
  | write (ws : List Write)

abbrev Op.Res : Op → Type
  | .now => Time
  | .newToken => Except StoreError String
  | .requireDomainAccess _ => Except AppTheoryError Unit
  | .getIdentity _ => Except StoreError SoulAgentIdentity
  | .getChallenge _ _ => Except StoreError SoulLifecycleChallenge
  | .getContinuity _ => Except StoreError SoulAgentContinuity
  | .publishVersion _ _ => Except AppTheoryError Int
  | .write _ => Except StoreError Unit

inductive Fault where
  | none
  /-- the operation was not carried out -/
  | lost
  /-- the operation was carried out and its answer was lost -/
  | unacknowledged
  deriving DecidableEq

/-- What the world decides at one operation. -/
structure Choice where
  fault : Fault
  /-- the nanoseconds since the last reading of the clock -/
  elapsed : Nat
  token : String
  access : Except AppTheoryError Unit
  version : Except AppTheoryError Int

/-- The answer under a fault. -/
def Choice.attempt {α : Type} (c : Choice) (t : Table) (r : Except StoreError α × Table) :
    Except StoreError α × Table :=
  match c.fault with
  | .none => r
  | .lost => (.error .other, t)
  | .unacknowledged => (.error .other, r.2)

/-- A row, if there is one. -/
def found {α : Type} (row : Option α) : Except StoreError α := row.elim (.error .notFound) .ok

theorem found_of_attempt {α : Type} {c : Choice} {t : Table} {row : Option α} {x : α}
    (h : (c.attempt t (found row, t)).1 = .ok x) : row = some x := by
  unfold Choice.attempt at h
  cases row with
  | none => cases hfault : c.fault <;> simp [found, hfault] at h
  | some y => cases hfault : c.fault <;> simp_all [found]

def Table.handle : (o : Op) → Choice → Table → o.Res × Table
  | .now, c, t => (t.now.Add c.elapsed, { t with now := t.now.Add c.elapsed })
  | .newToken, c, t => c.attempt t (.ok c.token, t)
  | .requireDomainAccess _, c, t => (c.access, t)
  | .getIdentity agentID, c, t => c.attempt t (found (t.identities agentID), t)
  | .getChallenge agentID nonce, c, t => c.attempt t (found (t.challenges (agentID, nonce)), t)
  | .getContinuity key, c, t => c.attempt t (found (t.continuity key), t)
  | .publishVersion _ _, c, t => (c.version, t)
  | .write ws, c, t => c.attempt t (t.write ws)

def tableEnv : Prog.Env Op Op.Res Table Choice := ⟨Table.handle⟩

theorem tableEnv_handle (o : Op) (c : Choice) (t : Table) : tableEnv.handle o c t = t.handle o c := rfl

/-- The items that an operation writes. -/
def carried : Op → Choice → Table → List Write
  | .write ws, c, t => if c.fault ≠ .lost ∧ ws.all (Write.allowed t) then ws else []
  | _, _, _ => []

theorem handle_write (ws : List Write) (c : Choice) (t : Table) :
    (t.handle (.write ws) c).2 = (carried (.write ws) c t).foldl Write.apply t := by
  simp only [Table.handle, Choice.attempt, Table.write, carried]
  cases c.fault <;> split_ifs <;> simp_all

theorem handle_other {o : Op} (h : ∀ ws, o ≠ .write ws) (c : Choice) (t : Table) :
    carried o c t = [] ∧ (t.handle o c).2 = { t with now := (t.handle o c).2.now } := by
  cases o with
  | write ws => exact absurd rfl (h ws)
  | now => exact ⟨rfl, rfl⟩
  | requireDomainAccess domain => exact ⟨rfl, rfl⟩
  | publishVersion agentID read => exact ⟨rfl, rfl⟩
  | _ =>
      simp only [Table.handle, Choice.attempt]
      cases c.fault <;> exact ⟨rfl, rfl⟩

/-- What an operation leaves in the table. -/
theorem handle_rows (o : Op) (c : Choice) (t : Table) :
    (t.handle o c).2
      = { (carried o c t).foldl Write.apply t with now := (t.handle o c).2.now } := by
  by_cases h : ∃ ws, o = .write ws
  · obtain ⟨ws, rfl⟩ := h
    rw [handle_write]
  · obtain ⟨hnone, hkept⟩ := handle_other (fun ws ho => h ⟨ws, ho⟩) c t
    rw [hnone]
    exact hkept

/-- What is written satisfied its condition. -/
theorem allowed_of_carried {o : Op} {c : Choice} {t : Table} {w : Write} (h : w ∈ carried o c t) :
    w.allowed t = true := by
  cases o with
  | write ws =>
      rw [carried] at h
      split at h
      · next hall => exact List.all_eq_true.1 hall.2 w h
      · cases h
  | _ => cases h

theorem carried_eq {o : Op} {c : Choice} {t : Table} (h : carried o c t ≠ []) :
    o = .write (carried o c t) := by
  cases o with
  | write ws =>
      rw [carried] at h ⊢
      split at h
      · next hall => rw [if_pos hall]
      · exact absurd rfl h
  | _ => exact absurd rfl h

abbrev Handler (α : Type) := Prog Op Op.Res AppTheoryError α

end LesserHost.SoulLifecycle
