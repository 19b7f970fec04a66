import LesserHost.Soul.Registration

set_option autoImplicit false

/-! # Produced declarations

`declarations.go`: the codes a declaration is refused with, and the normal form of produced
capabilities. -/

namespace LesserHost.HostedGenesis

open LesserHost.Go LesserHost.Soul

/-! ## Validation codes -/

inductive DeclarationValidationCode where
  | Invalid
  | SelfDescription
  | Capabilities
  | CapabilitiesBad
  | CapabilitiesTooMany
  | CapabilityIdentifier
  | CapabilityScope
  | CapabilityClaimLevel
  | CapabilityLastValidated
  | CapabilityValidationRef
  | CapabilityDegradesTo
  | Boundaries
  | BoundariesBad
  | Transparency
  | FiveBodyIdentity
  | FiveBodyPhilosophy
  | FiveBodyDiscipline
  | FiveBodyBoundaries
  | FiveBodySoul
  | SoulRefusals
  | SoulRefusalsBad
  | AdversarialReview
  deriving DecidableEq

namespace DeclarationValidationCode

/-- The string the code is. -/
def text : DeclarationValidationCode → String
  | Invalid => "declarations.invalid"
  | SelfDescription => "self_description.invalid"
  | Capabilities => "capabilities.required"
  | CapabilitiesBad => "capabilities.invalid"
  | CapabilitiesTooMany => "capabilities.too_many"
  | CapabilityIdentifier => "capabilities.capability.invalid"
  | CapabilityScope => "capabilities.scope.invalid"
  | CapabilityClaimLevel => "capabilities.claim_level.invalid"
  | CapabilityLastValidated => "capabilities.last_validated.invalid"
  | CapabilityValidationRef => "capabilities.validation_ref.invalid"
  | CapabilityDegradesTo => "capabilities.degrades_to.invalid"
  | Boundaries => "boundaries.required"
  | BoundariesBad => "boundaries.invalid"
  | Transparency => "transparency.required"
  | FiveBodyIdentity => "five_body.identity.required"
  | FiveBodyPhilosophy => "five_body.philosophy.required"
  | FiveBodyDiscipline => "five_body.discipline.required"
  | FiveBodyBoundaries => "five_body.boundaries.required"
  | FiveBodySoul => "five_body.soul.required"
  | SoulRefusals => "soul.refusals.required"
  | SoulRefusalsBad => "soul.refusals.invalid"
  | AdversarialReview => "adversarial_review.required"

def all : List DeclarationValidationCode :=
  [Invalid, SelfDescription, Capabilities, CapabilitiesBad, CapabilitiesTooMany,
    CapabilityIdentifier, CapabilityScope, CapabilityClaimLevel, CapabilityLastValidated,
    CapabilityValidationRef, CapabilityDegradesTo, Boundaries, BoundariesBad, Transparency,
    FiveBodyIdentity, FiveBodyPhilosophy, FiveBodyDiscipline, FiveBodyBoundaries, FiveBodySoul,
    SoulRefusals, SoulRefusalsBad, AdversarialReview]

end DeclarationValidationCode

/-- Does the string name a code? -/
def isDeclarationValidationCode (code : String) : Bool :=
  DeclarationValidationCode.all.any fun c => c.text == code

/-! ## Capability identifiers -/

def hostedFirstDefaultPlaceholderCapability : String := "simulacrum.hosted-first-default"
def producedCapabilityDefaultClaimLevel : String := "self-declared"

def MaxProducedCapabilities : Nat := 25
def MaxProducedCapabilityIdentifierLength : Nat := 64
def MaxProducedCapabilityScopeLength : Nat := 480
def MaxProducedCapabilityMetadataLength : Nat := 256
def MaxProducedCapabilityLastValidatedLength : Nat := 64

def isASCIILowerOrDigit (ch : Char) : Bool := ('a' ≤ ch && ch ≤ 'z') || ('0' ≤ ch && ch ≤ '9')

def isCanonicalProducedCapabilityIdentifier (name : String) : Bool :=
  if name = "" ∨ MaxProducedCapabilityIdentifierLength < len name then false
  else match name.toList with
    | [] => false
    | first :: rest => isASCIILowerOrDigit first && rest.all fun ch =>
        isASCIILowerOrDigit ch || ch == '.' || ch == '_' || ch == '-'

/-- The loop of `NormalizeProducedCapabilityIdentifier`: the output so far, and whether a separator
    waits to be written. -/
def identifierLoop (out : List Char) (pendingSeparator : Bool) : List Char → String
  | [] =>
      if pendingSeparator ∨ out = [] ∨ MaxProducedCapabilityIdentifierLength < out.length then ""
      else String.ofList out
  | ch :: rest =>
      if isASCIILowerOrDigit ch then
        identifierLoop (if pendingSeparator ∧ out ≠ [] then out ++ ['_', ch] else out ++ [ch]) false
          rest
      else if ch ∈ [' ', '.', '_', '/', '-'] then identifierLoop out true rest
      else ""

def NormalizeProducedCapabilityIdentifier (raw : String) : String :=
  let name := ToLower (TrimSpace raw)
  if name = "" ∨ MaxProducedCapabilityIdentifierLength < len name then ""
  else if isCanonicalProducedCapabilityIdentifier name then name
  else identifierLoop [] false name.toList

def normalizeCapabilityName (raw : String) : String :=
  let name := ToLower (TrimSpace raw)
  if name = "" ∨ 64 < len name ∨ ContainsAny name " \t\r\n" = true then "" else name

def IsPlaceholderCapability (name : String) : Bool :=
  normalizeCapabilityName name == hostedFirstDefaultPlaceholderCapability

/-! ## Capabilities -/

/-- The first field that fails its check. -/
def validateProducedCapabilityFields (capability : CapabilityV2) (strict : Bool) :
    Option DeclarationValidationCode :=
  if capability.Capability = "" then some .CapabilityIdentifier
  else if capability.Scope = "" then some .CapabilityScope
  else if capability.ClaimLevel = "" then some .CapabilityClaimLevel
  else if strict ∧ MaxProducedCapabilityScopeLength < RuneCountInString capability.Scope then
    some .CapabilityScope
  else if strict ∧ capability.ClaimLevel ≠ producedCapabilityDefaultClaimLevel then
    some .CapabilityClaimLevel
  else if strict ∧ MaxProducedCapabilityLastValidatedLength < len capability.LastValidated then
    some .CapabilityLastValidated
  else if strict ∧
      MaxProducedCapabilityMetadataLength < RuneCountInString capability.ValidationRef then
    some .CapabilityValidationRef
  else if strict ∧ MaxProducedCapabilityMetadataLength < RuneCountInString capability.DegradesTo then
    some .CapabilityDegradesTo
  else if capability.LastValidated ≠ "" ∧ ParseRFC3339 capability.LastValidated = false then
    some .CapabilityLastValidated
  else none

def normalizeProducedCapability (capability : CapabilityV2) (strict : Bool) :
    CapabilityV2 × Option DeclarationValidationCode :=
  let claimLevel := ToLower (TrimSpace capability.ClaimLevel)
  let capability := { capability with
    Capability :=
      if strict then NormalizeProducedCapabilityIdentifier capability.Capability
      else normalizeCapabilityName capability.Capability
    Scope := TrimSpace capability.Scope
    ClaimLevel :=
      if claimLevel = "" ∧ strict = false then producedCapabilityDefaultClaimLevel else claimLevel
    LastValidated := TrimSpace capability.LastValidated
    ValidationRef := TrimSpace capability.ValidationRef
    DegradesTo := TrimSpace capability.DegradesTo }
  (capability, validateProducedCapabilityFields capability strict)

/-- The loop of `normalizeProducedCapabilities`: the output so far, whose identifiers are the ones
    seen. -/
def capabilitiesLoop (rejectInvalid : Bool) (out : List CapabilityV2) :
    List CapabilityV2 → Except DeclarationValidationCode (List CapabilityV2)
  | [] => .ok out
  | capability :: rest =>
      if IsPlaceholderCapability capability.Capability then capabilitiesLoop rejectInvalid out rest
      else match normalizeProducedCapability capability rejectInvalid with
        | (_, some code) =>
            if rejectInvalid then .error code else capabilitiesLoop rejectInvalid out rest
        | (capability, none) =>
            match capability.Validate with
            | .error _ =>
                if rejectInvalid then .error .CapabilitiesBad
                else capabilitiesLoop rejectInvalid out rest
            | .ok () =>
                if capability.Capability ∈ out.map CapabilityV2.Capability then
                  capabilitiesLoop rejectInvalid out rest
                else capabilitiesLoop rejectInvalid (out ++ [capability]) rest

def normalizeProducedCapabilities (capabilities : List CapabilityV2) (rejectInvalid : Bool) :
    Except DeclarationValidationCode (List CapabilityV2) :=
  if rejectInvalid ∧ MaxProducedCapabilities < capabilities.length then
    .error .CapabilitiesTooMany
  else capabilitiesLoop rejectInvalid [] capabilities

def ValidateAndNormalizeProducedCapabilities (capabilities : List CapabilityV2) :
    Except DeclarationValidationCode (List CapabilityV2) :=
  normalizeProducedCapabilities capabilities true

example : NormalizeProducedCapabilityIdentifier " Code  Review/v2" = "code_review_v2" ∧
    NormalizeProducedCapabilityIdentifier "a..b" = "a..b" := by decide +kernel

end LesserHost.HostedGenesis
