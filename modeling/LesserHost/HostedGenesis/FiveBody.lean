import LesserHost.HostedGenesis.Declarations

set_option autoImplicit false

/-! # Five-body declarations

`fivebody.go`: the five bodies of a declaration, their normal form, the gates they have to pass, and
the review that is built deterministically from them. -/

namespace LesserHost.HostedGenesis

open LesserHost.Go

def DeclarationSchemaVersionV2 : String := "soul-five-body-schema.v2"
def GuidanceVersionV2 : String := "soul-five-body-guidance.v2"
def AdversarialReviewVersionV1 : String := "hosted-genesis-adversarial-review.v1"
def AdversarialReviewerV1 : String := "hosted-genesis-deterministic-review.v1"

def fiveBodySummaryMaxRunes : Nat := 2400
def fiveBodyEvidenceMaxItems : Nat := 8
def fiveBodyRefusalsMinItems : Nat := 3
def fiveBodyRefusalsMaxItems : Nat := 8
def fiveBodyRefusalFieldMaxRunes : Nat := 480
def fiveBodyReviewReportMaxRunes : Nat := 1200
def fiveBodyReviewFindingsMaxItem : Nat := 12

/-! ## Data -/

/-- The five phases of construction. -/
inductive DeclarationSection where
  | identity
  | philosophy
  | discipline
  | boundaries
  | soul
  deriving DecidableEq

def DeclarationSection.text : DeclarationSection → String
  | .identity => "identity"
  | .philosophy => "philosophy"
  | .discipline => "discipline"
  | .boundaries => "boundaries"
  | .soul => "soul"

def declarationSectionOrder : List DeclarationSection :=
  [.identity, .philosophy, .discipline, .boundaries, .soul]

structure FiveBodySection where
  Summary : String
  Notes : List String
  deriving DecidableEq

structure FiveBodyRefusalRule where
  Bypass : String
  Invariant : String
  ClosestSafePath : String
  deriving DecidableEq

structure FiveBodySoulBody where
  Summary : String
  Notes : List String
  Refusals : List FiveBodyRefusalRule
  deriving DecidableEq

structure FiveBodyDeclaration where
  Identity : FiveBodySection
  Philosophy : FiveBodySection
  Discipline : FiveBodySection
  Boundaries : FiveBodySection
  Soul : FiveBodySoulBody
  deriving DecidableEq

structure AdversarialReviewFinding where
  Finding : String
  Refutation : String
  Report : String

structure AdversarialReview where
  Version : String
  Reviewer : String
  Result : String
  Findings : List AdversarialReviewFinding
  Report : String

def FiveBodySection.empty : FiveBodySection := ⟨"", []⟩

def FiveBodyDeclaration.empty : FiveBodyDeclaration :=
  ⟨.empty, .empty, .empty, .empty, ⟨"", [], []⟩⟩

/-! ## Normal form -/

def trimRunes (raw : String) (max : Nat) : String :=
  if max = 0 then raw
  else if raw.toList.length ≤ max then raw
  else String.ofList (raw.toList.take max)

/-- The first eight notes that are not empty. -/
def normalizeFiveBodyNotes (notes : List String) : List String :=
  ((notes.map fun note => trimRunes (TrimSpace note) fiveBodyRefusalFieldMaxRunes).filter
    fun note => note ≠ "").take fiveBodyEvidenceMaxItems

def normalizeFiveBodySection (s : FiveBodySection) : FiveBodySection where
  Summary := trimRunes (TrimSpace s.Summary) fiveBodySummaryMaxRunes
  Notes := normalizeFiveBodyNotes s.Notes

def normalizeRefusal (refusal : FiveBodyRefusalRule) : FiveBodyRefusalRule where
  Bypass := trimRunes (TrimSpace refusal.Bypass) fiveBodyRefusalFieldMaxRunes
  Invariant := trimRunes (TrimSpace refusal.Invariant) fiveBodyRefusalFieldMaxRunes
  ClosestSafePath := trimRunes (TrimSpace refusal.ClosestSafePath) fiveBodyRefusalFieldMaxRunes

/-- The first eight refusals with a field that is not empty. -/
def normalizeRefusals (refusals : List FiveBodyRefusalRule) : List FiveBodyRefusalRule :=
  ((refusals.map normalizeRefusal).filter fun r =>
    ¬ (r.Bypass = "" ∧ r.Invariant = "" ∧ r.ClosestSafePath = "")).take fiveBodyRefusalsMaxItems

def normalizeSoulBody (soul : FiveBodySoulBody) : FiveBodySoulBody where
  Summary := trimRunes (TrimSpace soul.Summary) fiveBodySummaryMaxRunes
  Notes := normalizeFiveBodyNotes soul.Notes
  Refusals := normalizeRefusals soul.Refusals

def NormalizeFiveBodyDeclaration (d : FiveBodyDeclaration) : FiveBodyDeclaration where
  Identity := normalizeFiveBodySection d.Identity
  Philosophy := normalizeFiveBodySection d.Philosophy
  Discipline := normalizeFiveBodySection d.Discipline
  Boundaries := normalizeFiveBodySection d.Boundaries
  Soul := normalizeSoulBody d.Soul

/-! ## Gates -/

def genericRefusals : List String :=
  ["n/a", "na", "none", "unknown", "unsafe", "harmful", "bad things", "anything unsafe", "policy",
    "policy violation", "policy violations", "follow policy", "be safe", "safe path", "refuse",
    "refuse unsafe requests", "i refuse unsafe requests"]

def genericTokens : List String :=
  ["unsafe", "bad", "harmful", "policy", "rules", "rule", "violation", "violations", "things",
    "requests", "safe", "safety"]

def refusalPunctuation : String := ".,;:!?()[]\x7b\x7d\"'"

/-- The field says something: eight runes, two words, and not every word a generic one. -/
def isConcreteRefusalField (raw : String) : Bool :=
  let value := ToLower (TrimSpace raw)
  if value = "" ∨ RuneCountInString value < 8 then false
  else if value ∈ genericRefusals then false
  else
    let words := Fields value
    if words.length < 2 then false
    else (words.countP fun word => decide (Trim word refusalPunctuation ∈ genericTokens))
      < words.length

def ValidateFiveBodyRefusals (refusals : List FiveBodyRefusalRule) :
    Except DeclarationValidationCode Unit :=
  let refusals := normalizeRefusals refusals
  if refusals.length < fiveBodyRefusalsMinItems then .error .SoulRefusals
  else if refusals.any fun r => !isConcreteRefusalField r.Bypass ||
      !isConcreteRefusalField r.Invariant || !isConcreteRefusalField r.ClosestSafePath then
    .error .SoulRefusalsBad
  else .ok ()

def validateDeclarationSection (section_ : DeclarationSection) (bodies : FiveBodyDeclaration) :
    Except DeclarationValidationCode Unit :=
  match section_ with
  | .identity =>
      if TrimSpace bodies.Identity.Summary = "" then .error .FiveBodyIdentity else .ok ()
  | .philosophy =>
      if TrimSpace bodies.Philosophy.Summary = "" then .error .FiveBodyPhilosophy else .ok ()
  | .discipline =>
      if TrimSpace bodies.Discipline.Summary = "" then .error .FiveBodyDiscipline else .ok ()
  | .boundaries =>
      if TrimSpace bodies.Boundaries.Summary = "" then .error .FiveBodyBoundaries else .ok ()
  | .soul =>
      if TrimSpace bodies.Soul.Summary = "" then .error .FiveBodySoul
      else ValidateFiveBodyRefusals bodies.Soul.Refusals

def ValidateFiveBodyDeclaration (d : FiveBodyDeclaration) : Except DeclarationValidationCode Unit :=
  declarationSectionOrder.forM fun section_ =>
    validateDeclarationSection section_ (NormalizeFiveBodyDeclaration d)

/-! ## The deterministic review -/

def ValidateAdversarialReview (review : AdversarialReview) :
    Except DeclarationValidationCode Unit :=
  if TrimSpace review.Version ≠ AdversarialReviewVersionV1 ∨
      TrimSpace review.Reviewer ≠ AdversarialReviewerV1 ∨
      ToLower (TrimSpace review.Result) ≠ "pass" then
    .error .AdversarialReview
  else if review.Findings.length = 0 ∨ fiveBodyReviewFindingsMaxItem < review.Findings.length ∨
      TrimSpace review.Report = "" ∨
      fiveBodyReviewReportMaxRunes < RuneCountInString review.Report then
    .error .AdversarialReview
  else if review.Findings.any fun f =>
      TrimSpace f.Finding == "" || TrimSpace f.Refutation == "" || TrimSpace f.Report == "" then
    .error .AdversarialReview
  else .ok ()

/-- The review that passes. -/
def passedReview : AdversarialReview where
  Version := AdversarialReviewVersionV1
  Reviewer := AdversarialReviewerV1
  Result := "pass"
  Findings :=
    [{ Finding := "five_body_presence"
       Refutation :=
        "identity, philosophy, discipline, boundaries, and soul bodies are present and non-empty"
       Report := "No missing first-class body remains after deterministic presence validation." },
     { Finding := "refusal_floor"
       Refutation :=
        "soul.refusals contains at least three concrete bypass/invariant/closestSafePath rules"
       Report := "No generic refusal placeholder remains after deterministic refusal validation." },
     { Finding := "cadence_inscription"
       Refutation := "the cadence is carried as a named identity/soul/discipline inscription, " ++
        "not as repeated instructions"
       Report := "No extra cadence teaching is required in produced declaration evidence." }]
  Report := "Deterministic adversarial review passed: find -> refute -> report found no unresolved " ++
    "v2 declaration gate issue. Live model adversarial canary remains operator-owned deploy proof."

def BuildAdversarialReviewV2 (d : FiveBodyDeclaration) :
    Except DeclarationValidationCode AdversarialReview := do
  ValidateFiveBodyDeclaration (NormalizeFiveBodyDeclaration d)
  ValidateAdversarialReview passedReview
  return passedReview

/-! ## JSON -/

/-- `summary` and, unless empty, `notes`. -/
def sectionFields (summary : String) (notes : List String) : List (String × Bytes) :=
  [("summary", JSON.string summary)] ++ JSON.omitNone "notes" notes

def FiveBodySection.Marshal (s : FiveBodySection) : Bytes :=
  JSON.object (sectionFields s.Summary s.Notes)

def FiveBodyRefusalRule.Marshal (r : FiveBodyRefusalRule) : Bytes :=
  JSON.object [("bypass", JSON.string r.Bypass), ("invariant", JSON.string r.Invariant),
    ("closestSafePath", JSON.string r.ClosestSafePath)]

/-- No refusals are the nil slice, which prints as `null`. -/
def FiveBodySoulBody.Marshal (s : FiveBodySoulBody) : Bytes :=
  JSON.object (sectionFields s.Summary s.Notes ++ [("refusals",
    if s.Refusals = [] then bytes "null"
    else JSON.array (s.Refusals.map FiveBodyRefusalRule.Marshal))])

def FiveBodyDeclaration.Marshal (d : FiveBodyDeclaration) : Bytes :=
  JSON.object [("identity", d.Identity.Marshal), ("philosophy", d.Philosophy.Marshal),
    ("discipline", d.Discipline.Marshal), ("boundaries", d.Boundaries.Marshal),
    ("soul", d.Soul.Marshal)]

def AdversarialReviewFinding.Marshal (f : AdversarialReviewFinding) : Bytes :=
  JSON.object [("finding", JSON.string f.Finding), ("refutation", JSON.string f.Refutation),
    ("report", JSON.string f.Report)]

def AdversarialReview.Marshal (r : AdversarialReview) : Bytes :=
  JSON.object [("version", JSON.string r.Version), ("reviewer", JSON.string r.Reviewer),
    ("result", JSON.string r.Result),
    ("findings", JSON.array (r.Findings.map AdversarialReviewFinding.Marshal)),
    ("report", JSON.string r.Report)]

end LesserHost.HostedGenesis
