import LesserHost.HostedGenesis.CheckpointRef

set_option autoImplicit false

/-! # The turn ledger

`turn_ledger.go`: the durable record that a hosted genesis turn was accepted. `ApplyTurnLedger`
either replays the entry an idempotency key points at, or appends one entry. SHA-256 and the clock
are parameters. -/

namespace LesserHost.HostedGenesis

open LesserHost.Go

/-! ## Data -/

inductive LedgerSentinel where
  | invalidTurnLedger
  | idempotencyConflict
  | duplicateTurnID
  deriving DecidableEq

abbrev LedgerError := Error LedgerSentinel

def ErrInvalidTurnLedger : LedgerError :=
  ⟨.invalidTurnLedger, "hosted genesis turn ledger is invalid"⟩
def ErrIdempotencyConflict : LedgerError :=
  ⟨.idempotencyConflict, "hosted genesis idempotency key conflict"⟩
def ErrDuplicateTurnID : LedgerError :=
  ⟨.duplicateTurnID, "hosted genesis duplicate turn id"⟩

structure TurnLedgerEntry where
  TurnID : String
  IdempotencyKey : String
  RequestHash : String
  InputCheckpointRef : String
  AssistantCheckpointRef : String
  BillingLedgerRef : String
  ChargedCredits : Int
  MessageCount : Int
  AcceptedAt : Time
  deriving DecidableEq

structure TurnLedgerDecision where
  Entries : List TurnLedgerEntry
  Turn : TurnLedgerEntry
  Replayed : Bool
  ShouldDebit : Bool
  LatestTurnID : String
  MessageCount : Int
  deriving DecidableEq

/-! ## Entries -/

/-- `sha256:` and 64 hexadecimal digits. -/
def isSHA256Digest (value : String) : Bool :=
  let value := TrimSpace value
  HasPrefix value "sha256:" && len value == len "sha256:" + 64 &&
    (TrimPrefix value "sha256:").toList.all isLowerHexChar

/-- The digest, or its 64 digits alone. -/
def isSHA256HexOrDigest (value : String) : Bool :=
  let value := ToLower (TrimSpace value)
  isSHA256Digest value || (len value == 64 && value.toList.all isLowerHexChar)

namespace TurnLedgerEntry

def Normalize (sha256 : Sha256) (e : TurnLedgerEntry) : TurnLedgerEntry :=
  { e with
    TurnID := TrimSpace e.TurnID
    IdempotencyKey := TrimSpace e.IdempotencyKey
    RequestHash := ToLower (TrimSpace e.RequestHash)
    InputCheckpointRef := NormalizeCheckpointRef sha256 e.InputCheckpointRef
    AssistantCheckpointRef := NormalizeCheckpointRef sha256 e.AssistantCheckpointRef
    BillingLedgerRef := TrimSpace e.BillingLedgerRef
    AcceptedAt := e.AcceptedAt.utcIfSet }

def Validate (sha256 : Sha256) (e : TurnLedgerEntry) : Except LedgerError Unit :=
  let e := e.Normalize sha256
  if e.TurnID = "" ∨ e.MessageCount ≤ 0 ∨ e.AcceptedAt.IsZero = true ∨ e.ChargedCredits < 0 then
    .error ErrInvalidTurnLedger
  else if e.IdempotencyKey ≠ "" ∧ isSHA256HexOrDigest e.RequestHash = false then
    .error ErrInvalidTurnLedger
  else
    .ok ()

end TurnLedgerEntry

/-! ## Ledgers -/

/-- The loop of `normalizeAndValidateLedger`: turn ids and keys seen so far, and the output. -/
def normalizeLoop (sha256 : Sha256) (seenTurns : List String)
    (seenIdempotency : List (String × String)) (out : List TurnLedgerEntry) :
    List TurnLedgerEntry → Except LedgerError (List TurnLedgerEntry)
  | [] => .ok out
  | entry :: rest =>
      let entry := entry.Normalize sha256
      match entry.Validate sha256 with
      | .error err => .error err
      | .ok () =>
          if entry.TurnID ∈ seenTurns then .error ErrDuplicateTurnID
          else if entry.IdempotencyKey ≠ "" then
            match seenIdempotency.lookup entry.IdempotencyKey with
            | some existingHash =>
                if existingHash ≠ entry.RequestHash then .error ErrIdempotencyConflict
                else .error ErrInvalidTurnLedger
            | none =>
                normalizeLoop sha256 (entry.TurnID :: seenTurns)
                  ((entry.IdempotencyKey, entry.RequestHash) :: seenIdempotency) (out ++ [entry]) rest
          else
            normalizeLoop sha256 (entry.TurnID :: seenTurns) seenIdempotency (out ++ [entry]) rest

def normalizeAndValidateLedger (sha256 : Sha256) (entries : List TurnLedgerEntry) :
    Except LedgerError (List TurnLedgerEntry) :=
  if entries.length = 0 then .ok [] else normalizeLoop sha256 [] [] [] entries

def ValidateTurnLedger (sha256 : Sha256) (entries : List TurnLedgerEntry) : Except LedgerError Unit :=
  match normalizeAndValidateLedger sha256 entries with
  | .error err => .error err
  | .ok _ => .ok ()

/-- The loop of `ApplyTurnLedger`: entry by entry, the key is looked at before the turn id. -/
def findReplay (incoming : TurnLedgerEntry) :
    List TurnLedgerEntry → Except LedgerError (Option TurnLedgerEntry)
  | [] => .ok none
  | entry :: rest =>
      if incoming.IdempotencyKey ≠ "" ∧ entry.IdempotencyKey = incoming.IdempotencyKey then
        if entry.RequestHash ≠ incoming.RequestHash then
          .error (ErrIdempotencyConflict.wrap "idempotency key already used for a different request")
        else
          .ok (some entry)
      else if entry.TurnID = incoming.TurnID then
        .error ErrDuplicateTurnID
      else
        findReplay incoming rest

/-- A turn without a message count or an acceptance time gets the next count and the clock's time. -/
def withDefaults (now : Time) (entries : List TurnLedgerEntry) (incoming : TurnLedgerEntry) :
    TurnLedgerEntry :=
  { incoming with
    MessageCount := if incoming.MessageCount ≤ 0 then entries.length + 1 else incoming.MessageCount
    AcceptedAt := if incoming.AcceptedAt.IsZero then now.UTC else incoming.AcceptedAt }

def ApplyTurnLedger (sha256 : Sha256) (now : Time) (existing : List TurnLedgerEntry)
    (incoming : TurnLedgerEntry) : Except LedgerError TurnLedgerDecision := do
  let entries ← normalizeAndValidateLedger sha256 existing
  let incoming := withDefaults now entries (incoming.Normalize sha256)
  incoming.Validate sha256
  match ← findReplay incoming entries with
  | some entry =>
      return {
        Entries := entries
        Turn := entry
        Replayed := true
        ShouldDebit := false
        LatestTurnID := entry.TurnID
        MessageCount := entry.MessageCount }
  | none =>
      return {
        Entries := entries ++ [incoming]
        Turn := incoming
        Replayed := false
        ShouldDebit := true
        LatestTurnID := incoming.TurnID
        MessageCount := incoming.MessageCount }

/-! ## Normalised entries -/

namespace TurnLedgerEntry

variable {sha256 : Sha256} {e : TurnLedgerEntry}

/-- Lower-casing and trimming, rewriting references and moving the clock to UTC all settle at once. -/
@[simp] theorem Normalize_idem (e : TurnLedgerEntry) :
    (e.Normalize sha256).Normalize sha256 = e.Normalize sha256 := by
  simp only [Normalize, TrimSpace_idem, TrimSpace_ToLower_TrimSpace, ToLower_idem,
    NormalizeCheckpointRef_idem, Time.utcIfSet_idem]

/-- What `Validate` asks of an entry. -/
structure Valid (e : TurnLedgerEntry) : Prop where
  turnID : e.TurnID ≠ ""
  messageCount : 0 < e.MessageCount
  acceptedAt : e.AcceptedAt.IsZero = false
  chargedCredits : 0 ≤ e.ChargedCredits
  requestHash : e.IdempotencyKey ≠ "" → isSHA256HexOrDigest e.RequestHash = true

theorem Validate_ok : e.Validate sha256 = .ok () ↔ (e.Normalize sha256).Valid := by
  unfold Validate
  generalize e.Normalize sha256 = n
  constructor
  · intro h
    dsimp only at h
    split_ifs at h with h1 h2
    · rw [not_or, not_or, not_or] at h1
      obtain ⟨hid, hcount, htime, hcredits⟩ := h1
      refine ⟨hid, by omega, by simpa using htime, by omega, ?_⟩
      intro hkey
      by_contra hhash
      exact h2 ⟨hkey, by simpa using hhash⟩
  · intro h
    have h1 : ¬ (n.TurnID = "" ∨ n.MessageCount ≤ 0 ∨ n.AcceptedAt.IsZero = true ∨
        n.ChargedCredits < 0) := by
      rintro (hid | hcount | htime | hcredits)
      · exact h.turnID hid
      · have := h.messageCount
        omega
      · rw [h.acceptedAt] at htime
        cases htime
      · have := h.chargedCredits
        omega
    have h2 : ¬ (n.IdempotencyKey ≠ "" ∧ isSHA256HexOrDigest n.RequestHash = false) := by
      rintro ⟨hkey, hhash⟩
      rw [h.requestHash hkey] at hhash
      cases hhash
    simp only [if_neg h1, if_neg h2]

/-- A normalised and valid entry. -/
structure Settled (sha256 : Sha256) (e : TurnLedgerEntry) : Prop where
  normal : e.Normalize sha256 = e
  valid : e.Valid

theorem Settled.validate (h : e.Settled sha256) : e.Validate sha256 = .ok () := by
  rw [Validate_ok, h.normal]
  exact h.valid

theorem Settled.of_validate (h : e.Validate sha256 = .ok ()) :
    (e.Normalize sha256).Settled sha256 :=
  ⟨Normalize_idem e, Validate_ok.1 h⟩

end TurnLedgerEntry

end LesserHost.HostedGenesis
