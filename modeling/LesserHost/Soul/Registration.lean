import LesserHost.Go.JSON
import LesserHost.Go.Text

set_option autoImplicit false

/-! # Registration files

The parts of a version 2 soul registration file that a declaration carries, their validators and the
JSON they are stored as (`registration_v2.go`). A validator returns the text of its error. -/

namespace LesserHost.Soul

open LesserHost.Go

/-- `validateRFC3339`. The layout with nanoseconds accepts no text that the other one refuses. -/
def validateRFC3339 (raw : String) : Except String Unit :=
  let raw := TrimSpace raw
  if raw = "" then .error "is required"
  else if ParseRFC3339 raw then .ok ()
  else .error "must be an RFC3339 timestamp"

/-- `^0x[0-9a-fA-F]+$`. -/
def regexHexSig (sig : String) : Bool :=
  match sig.toList with
  | '0' :: 'x' :: digits => !digits.isEmpty && digits.all fun c =>
      c.isDigit || ('a' ≤ c && c ≤ 'f') || ('A' ≤ c && c ≤ 'F')
  | _ => false

structure SelfDescriptionV2 where
  Purpose : String
  Constraints : String
  Commitments : String
  Limitations : String
  AuthoredBy : String
  MintingModel : String
  deriving DecidableEq

/-- `Constraints` is a map from names to values of any type: its entries in the order of the names,
    each value as the JSON text it prints. -/
structure CapabilityV2 where
  Capability : String
  Scope : String
  Constraints : List (String × Bytes)
  ClaimLevel : String
  LastValidated : String
  ValidationRef : String
  DegradesTo : String
  deriving DecidableEq

structure BoundaryV2 where
  ID : String
  Category : String
  Statement : String
  Rationale : String
  AddedAt : String
  AddedInVersion : String
  Signature : String
  deriving DecidableEq

/-! ## Validation -/

def SelfDescriptionV2.Validate (s : SelfDescriptionV2) : Except String Unit :=
  if TrimSpace s.Purpose = "" ∨ len (TrimSpace s.Purpose) < 10 then .error "purpose is required"
  else if ToLower (TrimSpace s.AuthoredBy) ∈ ["agent", "principal"] then .ok ()
  else .error "authoredBy must be \"agent\" or \"principal\""

def CapabilityV2.Validate (c : CapabilityV2) : Except String Unit :=
  if TrimSpace c.Capability = "" then .error "capability is required"
  else if TrimSpace c.Scope = "" then .error "scope is required"
  else if ToLower (TrimSpace c.ClaimLevel) ∉
      ["self-declared", "challenge-passed", "peer-endorsed", "deprecated"] then
    .error "claimLevel is invalid"
  else if TrimSpace c.LastValidated ≠ "" then
    (validateRFC3339 c.LastValidated).mapError fun e => "lastValidated: " ++ e
  else .ok ()

def registrationAuthorityWalletPrincipal : String := "wallet_principal"
def registrationAuthorityInstanceTrust : String := "instance_trust"

def BoundaryV2.ValidateForAuthority (b : BoundaryV2) (authorityModel : String) :
    Except String Unit := do
  if TrimSpace b.ID = "" then .error "id is required"
  else if ToLower (TrimSpace b.Category) ∉
      ["refusal", "scope_limit", "ethical_commitment", "circuit_breaker"] then
    .error "category is invalid"
  else if TrimSpace b.Statement = "" then .error "statement is required"
  else
    (validateRFC3339 b.AddedAt).mapError fun e => "addedAt: " ++ e
    if TrimSpace b.AddedInVersion = "" then .error "addedInVersion is required"
    else
      let sig := TrimSpace b.Signature
      if authorityModel = registrationAuthorityInstanceTrust then
        if sig ≠ "" then .error "signature must be omitted for authorityModel=instance_trust"
        else .ok ()
      else if regexHexSig sig then .ok ()
      else .error "signature must be hex (0x...)"

def BoundaryV2.Validate (b : BoundaryV2) : Except String Unit :=
  b.ValidateForAuthority registrationAuthorityWalletPrincipal

/-! ## JSON -/

def SelfDescriptionV2.Marshal (s : SelfDescriptionV2) : Bytes :=
  JSON.object ([("purpose", JSON.string s.Purpose)] ++ JSON.omitEmpty "constraints" s.Constraints
    ++ JSON.omitEmpty "commitments" s.Commitments ++ JSON.omitEmpty "limitations" s.Limitations
    ++ [("authoredBy", JSON.string s.AuthoredBy)] ++ JSON.omitEmpty "mintingModel" s.MintingModel)

def CapabilityV2.Marshal (c : CapabilityV2) : Bytes :=
  JSON.object ([("capability", JSON.string c.Capability), ("scope", JSON.string c.Scope)]
    ++ (if c.Constraints = [] then [] else [("constraints", JSON.object c.Constraints)])
    ++ [("claimLevel", JSON.string c.ClaimLevel)] ++ JSON.omitEmpty "lastValidated" c.LastValidated
    ++ JSON.omitEmpty "validationRef" c.ValidationRef ++ JSON.omitEmpty "degradesTo" c.DegradesTo)

def BoundaryV2.Marshal (b : BoundaryV2) : Bytes :=
  JSON.object ([("id", JSON.string b.ID), ("category", JSON.string b.Category),
    ("statement", JSON.string b.Statement)] ++ JSON.omitEmpty "rationale" b.Rationale
    ++ [("addedAt", JSON.string b.AddedAt), ("addedInVersion", JSON.string b.AddedInVersion),
    ("signature", JSON.string b.Signature)])

end LesserHost.Soul
