import LesserHost.HostedGenesis.FiveBody
import LesserHost.HostedGenesis.TurnLedger
import Mathlib.Data.List.Sort

set_option autoImplicit false

/-! # Declaration candidates

`candidate.go`: the typed declaration under construction, the canonical bytes it stands for, the
review its owner reads, and the validator every candidate has to pass.

SHA-256, `strconv.Quote` and the JSON decoder are parameters, collected in a `Library`. A section or a
phase is an enumeration, so the branches of the source that meet a string naming none of them cannot be
taken; a section that is not set is `none`. -/

namespace LesserHost.HostedGenesis

open LesserHost.Go LesserHost.Soul

def DeclarationCandidateVersionV1 : String := "hosted-genesis-declaration-candidate.v1"
def DeclarationReviewRendererV1 : String := "hosted-genesis-owner-review.v1"
def MaxDeclarationToolRecords : Nat := 64
def MaxDeclarationProviderAttempts : Nat := 64
def MaxDeclarationOwnerReviewRunes : Nat := 65536

def declarationOwnerReviewCanonicalLength : String := "Canonical JSON byte length: "
def declarationOwnerReviewCanonicalBegin : String := "-----BEGIN HOSTED GENESIS CANONICAL JSON-----"
def declarationOwnerReviewCanonicalEnd : String := "-----END HOSTED GENESIS CANONICAL JSON-----"

/-! ## Data -/

inductive CandidateError where
  | validation (code : DeclarationValidationCode)
  | reviewTooLarge
  | message (text : String)
  deriving DecidableEq

def CandidateError.text : CandidateError → String
  | .validation code => code.text
  | .reviewTooLarge => "declaration owner review exceeds the documented API limit"
  | .message text => text

inductive DeclarationCandidatePhase where
  | section
  | review
  | affirmed
  | finalized
  deriving DecidableEq

structure DeclarationTransparency where
  ModelProviderUncertainty : String
  OperationalNotes : String
  SelfDeclaredNotice : String
  deriving DecidableEq

structure DeclarationToolRecord where
  ToolCallHash : String
  InputHash : String
  ToolName : String
  Section : DeclarationSection
  SourceTurnID : String
  Revision : Int
  SectionHash : String
  CandidateHash : String
  deriving DecidableEq

/-- Evidence for one provider attempt. `Section` is `none` for a string that names no section. -/
structure DeclarationProviderAttempt where
  Sequence : Int
  Provider : String
  Model : String
  Phase : String
  Section : Option DeclarationSection
  SourceTurnID : String
  CandidateRevision : Int
  CandidateHash : String
  SDKAttemptOrdinal : Int
  SDKRetryBudget : Int
  HTTPStatus : Int
  ProviderRequestID : String
  ToolName : String
  ToolCallHash : String
  ValidationCodes : List String
  ValidationPaths : List String
  Accepted : Bool
  OutputBytes : Int
  OutputSHA256 : String
  InputTokens : Int
  OutputTokens : Int
  TotalTokens : Int
  ToolCalls : Int
  StopReason : String
  FailureClass : String
  DurationMS : Int
  ObservedAt : Time

structure DeclarationReviewCheckpoint where
  RendererVersion : String
  SchemaVersion : String
  GuidanceVersion : String
  SourceTurnID : String
  CandidateHash : String
  ReviewHash : String
  CandidateRevision : Int
  ReviewText : Bytes
  ReviewedAt : Time

structure DeclarationAffirmationCheckpoint where
  CandidateRevision : Int
  CandidateHash : String
  ReviewHash : String
  SourceTurnID : String
  AffirmedAt : Time

/-- `Capabilities` is `none` for a nil slice. `SectionHashes` gives the empty string where the map has
    no entry. -/
structure DeclarationCandidate where
  Version : String
  InstanceSlug : String
  RegistrationID : String
  AgentID : String
  ConversationID : String
  SourceTurnID : String
  SchemaVersion : String
  GuidanceVersion : String
  Model : String
  Phase : DeclarationCandidatePhase
  CurrentSection : Option DeclarationSection
  CompletedSections : List DeclarationSection
  FiveBodies : FiveBodyDeclaration
  SelfDescription : SelfDescriptionV2
  Capabilities : Option (List CapabilityV2)
  Transparency : DeclarationTransparency
  Revision : Int
  SectionHashes : DeclarationSection → String
  CandidateHash : String
  CanonicalJSON : Bytes
  ToolRecords : List DeclarationToolRecord
  ProviderAttempts : List DeclarationProviderAttempt
  Review : Option DeclarationReviewCheckpoint
  Affirmation : Option DeclarationAffirmationCheckpoint
  EstablishedAt : Time
  UpdatedAt : Time

structure DeclarationSectionPayload where
  CandidateRevision : Option Int
  CandidateHash : String
  Section : FiveBodySection

structure DeclarationSoulPayload where
  CandidateRevision : Option Int
  CandidateHash : String
  Section : FiveBodySoulBody
  SelfDescription : SelfDescriptionV2
  Capabilities : List CapabilityV2
  Transparency : DeclarationTransparency

/-- What the candidate uses of other packages. A decoder reads one JSON value of the payload type,
    with no unknown field, from the front of the bytes, and leaves the rest. -/
structure Library where
  Sum256 : Bytes → Bytes
  Quote : String → String
  Valid : Bytes → Bool
  DecodeSection : Bytes → Option (DeclarationSectionPayload × Bytes)
  DecodeSoul : Bytes → Option (DeclarationSoulPayload × Bytes)

variable (lib : Library)

/-! ## Hashes and canonical bytes -/

def hashBytes (body : Bytes) : String := "sha256:" ++ String.ofList (hexEncode (lib.Sum256 body))

def hashText (value : String) : String := hashBytes lib (bytes value)

def declarationSectionIndex (s : DeclarationSection) : Nat := declarationSectionOrder.idxOf s

def DeclarationTransparency.Marshal (t : DeclarationTransparency) : Bytes :=
  JSON.object [("modelProviderUncertainty", JSON.string t.ModelProviderUncertainty),
    ("operationalNotes", JSON.string t.OperationalNotes),
    ("selfDeclaredNotice", JSON.string t.SelfDeclaredNotice)]

def marshalCapabilities (capabilities : List CapabilityV2) : Bytes :=
  JSON.array (capabilities.map CapabilityV2.Marshal)

/-- The rows published for the refusals, from the refusals and the time of establishment alone. -/
def FiveBodyBoundariesDeterministic (refusals : List FiveBodyRefusalRule) (establishedAt : Time) :
    List BoundaryV2 :=
  (normalizeRefusals refusals).mapIdx fun i refusal =>
    { ID := "mint-refusal-" ++ padDecimal 2 (i + 1) ++ "-"
        ++ String.ofList (hexEncode ((lib.Sum256 refusal.Marshal).take 6))
      Category := "refusal"
      Statement := "I will not allow bypass " ++ lib.Quote refusal.Bypass ++ " because it violates "
        ++ lib.Quote refusal.Invariant ++ "; closest safe path: " ++ refusal.ClosestSafePath ++ "."
      Rationale := "Five-body soul refusal: invariant=" ++ refusal.Invariant
      AddedAt := establishedAt.UTC.FormatRFC3339
      AddedInVersion := "1"
      Signature := "0x00" }

structure CanonicalProducedDeclarations where
  SchemaVersion : String
  GuidanceVersion : String
  FiveBodies : FiveBodyDeclaration
  SelfDescription : SelfDescriptionV2
  Capabilities : List CapabilityV2
  Boundaries : List BoundaryV2
  Transparency : DeclarationTransparency
  AdversarialReview : Option AdversarialReview

def CanonicalProducedDeclarations.Marshal (doc : CanonicalProducedDeclarations) : Bytes :=
  JSON.object ([("schemaVersion", JSON.string doc.SchemaVersion),
    ("guidanceVersion", JSON.string doc.GuidanceVersion), ("fiveBodies", doc.FiveBodies.Marshal),
    ("selfDescription", doc.SelfDescription.Marshal),
    ("capabilities", marshalCapabilities doc.Capabilities),
    ("boundaries", JSON.array (doc.Boundaries.map BoundaryV2.Marshal)),
    ("transparency", doc.Transparency.Marshal)]
    ++ match doc.AdversarialReview with
      | none => []
      | some review => [("adversarialReview", review.Marshal)])

namespace DeclarationCandidate

/-- The JSON document of the candidate; it carries a review once every section is complete. -/
def canonicalJSON (c : DeclarationCandidate) : Except CandidateError Bytes := do
  let review ←
    if c.CompletedSections.length = declarationSectionOrder.length then
      ((BuildAdversarialReviewV2 c.FiveBodies).mapError CandidateError.validation).map some
    else .ok none
  return CanonicalProducedDeclarations.Marshal {
    SchemaVersion := c.SchemaVersion
    GuidanceVersion := c.GuidanceVersion
    FiveBodies := c.FiveBodies
    SelfDescription := c.SelfDescription
    Capabilities := c.Capabilities.getD []
    Boundaries := FiveBodyBoundariesDeterministic lib c.FiveBodies.Soul.Refusals c.EstablishedAt
    Transparency := c.Transparency
    AdversarialReview := review }

def refreshCanonical (c : DeclarationCandidate) : Except CandidateError DeclarationCandidate := do
  let body ← c.canonicalJSON lib
  return { c with CanonicalJSON := body, CandidateHash := hashBytes lib body }

def sectionBytes (c : DeclarationCandidate) : DeclarationSection → Bytes
  | .identity => c.FiveBodies.Identity.Marshal
  | .philosophy => c.FiveBodies.Philosophy.Marshal
  | .discipline => c.FiveBodies.Discipline.Marshal
  | .boundaries => c.FiveBodies.Boundaries.Marshal
  | .soul => JSON.object [("section", c.FiveBodies.Soul.Marshal),
      ("selfDescription", c.SelfDescription.Marshal),
      ("capabilities", match c.Capabilities with
        | none => bytes "null"
        | some capabilities => marshalCapabilities capabilities),
      ("transparency", c.Transparency.Marshal)]

def markCompleted (c : DeclarationCandidate) (s : DeclarationSection) : DeclarationCandidate :=
  let completed := if s ∈ c.CompletedSections then c.CompletedSections else c.CompletedSections ++ [s]
  { c with CompletedSections := completed.insertionSort fun a b =>
      declarationSectionIndex a ≤ declarationSectionIndex b }

def nextIncompleteSection (c : DeclarationCandidate) : Option DeclarationSection :=
  declarationSectionOrder.find? fun s => decide (s ∉ c.CompletedSections)

end DeclarationCandidate

/-! ## The owner's review -/

def ValidateDeclarationCandidateComplete (c : DeclarationCandidate) : Except CandidateError Unit :=
  if c.CompletedSections.length ≠ declarationSectionOrder.length then .error (.validation .Invalid)
  else match c.Capabilities with
  | none => .error (.validation .Capabilities)
  | some capabilities => do
      (ValidateFiveBodyDeclaration c.FiveBodies).mapError CandidateError.validation
      c.SelfDescription.Validate.mapError fun _ => .validation .SelfDescription
      let _ ← (ValidateAndNormalizeProducedCapabilities capabilities).mapError
        CandidateError.validation
      if TrimSpace c.Transparency.SelfDeclaredNotice = "" then .error (.validation .Transparency)
      else
        let boundaries :=
          FiveBodyBoundariesDeterministic lib c.FiveBodies.Soul.Refusals c.EstablishedAt
        if boundaries.length < 3 then .error (.validation .Boundaries)
        else if boundaries.any fun b => !b.Validate.toBool then .error (.validation .BoundariesBad)
        else .ok ()

/-- The text in front of the begin marker. -/
def ownerReviewHeader (c : DeclarationCandidate) : Bytes :=
  bytes "Hosted Genesis owner review\n\n" ++
  bytes ("Review the exact canonical JSON below. Structural affirmation binds this review text, " ++
    "these canonical bytes, and the candidate revision.\n\n") ++
  bytes ("Candidate revision: " ++ Itoa c.Revision ++ "\nCandidate hash: " ++ c.CandidateHash ++ "\n") ++
  bytes (declarationOwnerReviewCanonicalLength ++ Itoa c.CanonicalJSON.length)

def ownerReviewText (c : DeclarationCandidate) : Bytes :=
  ownerReviewHeader c ++ bytes ("\n" ++ declarationOwnerReviewCanonicalBegin ++ "\n") ++
    c.CanonicalJSON ++ bytes ("\n" ++ declarationOwnerReviewCanonicalEnd ++ "\n")

def RenderDeclarationOwnerReview (c : DeclarationCandidate) (sourceTurnID : String)
    (reviewedAt : Time) : Except CandidateError DeclarationReviewCheckpoint := do
  ValidateDeclarationCandidateComplete lib c
  let text := ownerReviewText c
  if MaxDeclarationOwnerReviewRunes < Bytes.RuneCount text then .error .reviewTooLarge
  else
    return {
      RendererVersion := DeclarationReviewRendererV1
      SchemaVersion := c.SchemaVersion
      GuidanceVersion := c.GuidanceVersion
      SourceTurnID := TrimSpace sourceTurnID
      CandidateHash := c.CandidateHash
      ReviewHash := hashBytes lib text
      CandidateRevision := c.Revision
      ReviewText := text
      ReviewedAt := reviewedAt.UTC }

/-- Read the canonical bytes back out of a review: the block between the markers, whose length the
    header declares. -/
def RecoverDeclarationOwnerReviewCanonicalJSON (reviewText : Bytes) : Except CandidateError Bytes :=
  if Bytes.HasPrefix reviewText (bytes "Hosted Genesis owner review\n\n") = false ∨
      MaxDeclarationOwnerReviewRunes < Bytes.RuneCount reviewText then
    .error (.message "declaration owner review envelope is invalid")
  else
  let beginToken := bytes ("\n" ++ declarationOwnerReviewCanonicalBegin ++ "\n")
  match Bytes.Index beginToken reviewText with
  | none => .error (.message "declaration owner review canonical block is missing")
  | some beginIndex =>
  let header := reviewText.take beginIndex
  let lengthLabel := bytes declarationOwnerReviewCanonicalLength
  match Bytes.LastIndex lengthLabel header with
  | none => .error (.message "declaration owner review canonical length is missing")
  | some lengthIndex =>
  let lengthText := header.drop (lengthIndex + lengthLabel.length)
  if 0x0a ∈ lengthText ∨ lengthText = [] then
    .error (.message "declaration owner review canonical length is invalid")
  else match Atoi lengthText with
  | none => .error (.message "declaration owner review canonical length is invalid")
  | some canonicalLength =>
  if canonicalLength ≤ 0 ∨ (reviewText.length : Int) < canonicalLength then
    .error (.message "declaration owner review canonical length is invalid")
  else
  let canonicalStart := beginIndex + beginToken.length
  let canonicalEnd := canonicalStart + canonicalLength.toNat
  if reviewText.length < canonicalEnd then
    .error (.message "declaration owner review canonical payload is truncated")
  else
  let canonicalJSON := (reviewText.take canonicalEnd).drop canonicalStart
  if reviewText.drop canonicalEnd ≠ bytes ("\n" ++ declarationOwnerReviewCanonicalEnd ++ "\n") ∨
      lib.Valid canonicalJSON = false then
    .error (.message "declaration owner review canonical payload is invalid")
  else .ok canonicalJSON

/-! ## Tools -/

def DeclarationToolIdentityPut : String := "declaration_identity_put"
def DeclarationToolPhilosophyPut : String := "declaration_philosophy_put"
def DeclarationToolDisciplinePut : String := "declaration_discipline_put"
def DeclarationToolBoundariesPut : String := "declaration_boundaries_put"
def DeclarationToolSoulPut : String := "declaration_soul_put"

def DeclarationToolForSection : DeclarationSection → String
  | .identity => DeclarationToolIdentityPut
  | .philosophy => DeclarationToolPhilosophyPut
  | .discipline => DeclarationToolDisciplinePut
  | .boundaries => DeclarationToolBoundariesPut
  | .soul => DeclarationToolSoulPut

def DeclarationSectionForTool (toolName : String) : Option DeclarationSection :=
  declarationSectionOrder.find? fun s => TrimSpace toolName == DeclarationToolForSection s

/-! ## Validation -/

/-- Fail with a message unless the condition holds. -/
def check (ok : Bool) (text : String) : Except CandidateError Unit :=
  if ok then .ok () else .error (.message text)

/-- An empty value, or printable trimmed text of at most `limit` bytes. -/
def safeCandidateMetadata (value : String) (limit : Nat) : Bool :=
  if value = "" then true
  else if value ≠ TrimSpace value ∨ limit < len value then false
  else value.toList.all fun char => !(char.toNat < 0x20 || char.toNat == 0x7f)

def isSHA256HexDigest (value : String) : Bool :=
  let value := ToLower (TrimSpace value)
  len value == 64 && value.toList.all isLowerHexChar

def allowedFailureClasses : List String :=
  ["provider_timeout", "provider_canceled", "provider_api_failure", "invalid_provider_output",
    "parse_validation_failure", "provider_evidence_persistence_failure",
    "assistant_turn_persistence_failure"]

def NormalizeFailureClass (value : String) : String :=
  let class_ := ToLower (TrimSpace value)
  if class_ ∈ allowedFailureClasses then class_ else "provider_api_failure"

namespace DeclarationCandidate

def bindingsComplete (c : DeclarationCandidate) : Bool :=
  c.InstanceSlug != "" && c.RegistrationID != "" && c.AgentID != "" && c.ConversationID != "" &&
    c.SourceTurnID != "" && c.Model != "" && !c.EstablishedAt.IsZero && !c.UpdatedAt.IsZero

def validateCore (c : DeclarationCandidate) : Except CandidateError Unit := do
  check (c.Version == DeclarationCandidateVersionV1 && c.SchemaVersion == DeclarationSchemaVersionV2 &&
    c.GuidanceVersion == GuidanceVersionV2) "declaration candidate version is invalid"
  check c.bindingsComplete "declaration candidate binding is incomplete"
  check (0 ≤ c.Revision && c.ToolRecords.length ≤ MaxDeclarationToolRecords &&
    c.ProviderAttempts.length ≤ MaxDeclarationProviderAttempts)
    "declaration candidate revision is invalid"
  check c.Capabilities.isSome "declaration candidate capabilities array is required"

/-- The loop over the completed sections: the place of the next one and the ones before it. -/
def completedLoop (c : DeclarationCandidate) (index : Nat) (completed : List DeclarationSection) :
    List DeclarationSection → Except CandidateError Unit
  | [] => .ok ()
  | s :: rest => do
      check (!completed.contains s) "declaration candidate completed sections are invalid"
      check (c.CompletedSections.length == declarationSectionOrder.length ||
        declarationSectionOrder[index]? == some s)
        "declaration candidate completed sections are out of order"
      check (c.SectionHashes s == hashBytes lib (c.sectionBytes s))
        "declaration candidate section hash mismatch"
      completedLoop c (index + 1) (s :: completed) rest

def validateCompletedSections (c : DeclarationCandidate) : Except CandidateError Unit :=
  c.completedLoop lib 0 [] c.CompletedSections

def validateSectionPhase (c : DeclarationCandidate) : Except CandidateError Unit := do
  check (c.CurrentSection.isSome && c.Review.isNone && c.Affirmation.isNone)
    "declaration candidate section phase is invalid"
  check (c.CompletedSections.length == declarationSectionOrder.length ||
    c.nextIncompleteSection.isSome && c.nextIncompleteSection == c.CurrentSection)
    "declaration candidate current section is invalid"

def validateReviewPhase (c : DeclarationCandidate) : Except CandidateError Unit :=
  check (c.CurrentSection.isNone && c.CompletedSections.length == declarationSectionOrder.length &&
    c.Review.isSome && c.Affirmation.isNone) "declaration candidate review phase is invalid"

def validateAffirmedPhase (c : DeclarationCandidate) : Except CandidateError Unit :=
  check (c.CurrentSection.isNone && c.CompletedSections.length == declarationSectionOrder.length &&
    c.Review.isSome && c.Affirmation.isSome) "declaration candidate affirmed phase is invalid"

def validatePhase (c : DeclarationCandidate) : Except CandidateError Unit :=
  match c.Phase with
  | .section => c.validateSectionPhase
  | .review => c.validateReviewPhase
  | .affirmed | .finalized => c.validateAffirmedPhase

/-- The loop over the tool records: the call hashes seen so far. -/
def recordsLoop (c : DeclarationCandidate) (seenCalls : List String) :
    List DeclarationToolRecord → Except CandidateError Unit
  | [] => .ok ()
  | record :: rest => do
      check (record.ToolCallHash != "" && record.InputHash != "" && record.SourceTurnID != "" &&
        0 < record.Revision && record.Revision ≤ c.Revision && record.SectionHash != "" &&
        record.CandidateHash != "" && !seenCalls.contains record.ToolCallHash)
        "declaration candidate tool record is invalid"
      check (DeclarationSectionForTool record.ToolName == some record.Section)
        "declaration candidate tool binding is invalid"
      recordsLoop c (record.ToolCallHash :: seenCalls) rest

def validateToolRecords (c : DeclarationCandidate) : Except CandidateError Unit :=
  c.recordsLoop [] c.ToolRecords

end DeclarationCandidate

def declarationProviderAttemptBindingValid (a : DeclarationProviderAttempt)
    (expectedSequence : Int) : Bool :=
  a.Sequence == expectedSequence && a.Provider != "" && a.Model != "" &&
    a.Phase == "declaration_phase" && a.SourceTurnID != "" && 0 ≤ a.CandidateRevision &&
    isSHA256Digest a.CandidateHash && 0 < a.SDKAttemptOrdinal && 0 ≤ a.SDKRetryBudget &&
    a.SDKRetryBudget ≤ 8

def declarationProviderAttemptMetricsValid (a : DeclarationProviderAttempt) : Bool :=
  (a.HTTPStatus == 0 || (100 ≤ a.HTTPStatus && a.HTTPStatus ≤ 599)) && 0 ≤ a.DurationMS &&
    !a.ObservedAt.IsZero && 0 ≤ a.OutputBytes && 0 ≤ a.InputTokens && 0 ≤ a.OutputTokens &&
    0 ≤ a.TotalTokens && 0 ≤ a.ToolCalls

def validateDeclarationProviderToolEvidence (a : DeclarationProviderAttempt) :
    Except CandidateError Unit :=
  if a.ToolName = "" then .ok ()
  else do
    check ((DeclarationSectionForTool a.ToolName).isSome &&
      DeclarationSectionForTool a.ToolName == a.Section && isSHA256Digest a.ToolCallHash &&
      a.ValidationCodes.length == a.ValidationPaths.length && a.ValidationCodes.length ≤ 16)
      "declaration provider tool evidence is invalid"
    check ((a.ValidationCodes.zip a.ValidationPaths).all fun p =>
      isDeclarationValidationCode p.1 && safeCandidateMetadata p.2 256)
      "declaration provider validation evidence is invalid"

def validateDeclarationProviderAttempt (a : DeclarationProviderAttempt) (expectedSequence : Int) :
    Except CandidateError Unit := do
  check (declarationProviderAttemptBindingValid a expectedSequence &&
    declarationProviderAttemptMetricsValid a) "declaration provider attempt is invalid"
  check (a.Section.isSome && safeCandidateMetadata a.ProviderRequestID 160 &&
    safeCandidateMetadata a.StopReason 80) "declaration provider attempt metadata is unsafe"
  check (a.OutputSHA256 == "" || isSHA256HexDigest a.OutputSHA256)
    "declaration provider output hash is invalid"
  validateDeclarationProviderToolEvidence a
  check (a.FailureClass == "" || NormalizeFailureClass a.FailureClass == a.FailureClass)
    "declaration provider failure class is invalid"

/-- The loop over the provider attempts: the sequence number of the next one. -/
def attemptsLoop (sequence : Int) : List DeclarationProviderAttempt → Except CandidateError Unit
  | [] => .ok ()
  | a :: rest => do
      validateDeclarationProviderAttempt a sequence
      attemptsLoop (sequence + 1) rest

namespace DeclarationCandidate

def validateProviderAttempts (c : DeclarationCandidate) : Except CandidateError Unit :=
  attemptsLoop 1 c.ProviderAttempts

def validateReviewBinding (c : DeclarationCandidate) : Except CandidateError Unit :=
  match c.Review with
  | none => .ok ()
  | some review => do
      check (review.RendererVersion == DeclarationReviewRendererV1 &&
        review.SchemaVersion == c.SchemaVersion && review.GuidanceVersion == c.GuidanceVersion &&
        review.SourceTurnID != "" && !review.ReviewedAt.IsZero &&
        review.CandidateRevision == c.Revision && review.CandidateHash == c.CandidateHash &&
        review.ReviewHash == hashBytes lib review.ReviewText)
        "declaration review binding mismatch"
      match RecoverDeclarationOwnerReviewCanonicalJSON lib review.ReviewText with
      | .error _ => .error (.message "declaration review canonical payload mismatch")
      | .ok reviewCanonicalJSON => do
          check (reviewCanonicalJSON == c.CanonicalJSON)
            "declaration review canonical payload mismatch"
          match RenderDeclarationOwnerReview lib c review.SourceTurnID review.ReviewedAt with
          | .error _ => .error (.message "declaration review rendering mismatch")
          | .ok rendered =>
              check (rendered.ReviewText == review.ReviewText &&
                rendered.ReviewHash == review.ReviewHash) "declaration review rendering mismatch"

def validateAffirmationBinding (c : DeclarationCandidate) : Except CandidateError Unit :=
  match c.Affirmation with
  | none => .ok ()
  | some a => check (match c.Review with
      | none => false
      | some review => a.SourceTurnID != "" && !a.AffirmedAt.IsZero &&
          a.CandidateRevision == c.Revision && a.CandidateHash == c.CandidateHash &&
          a.ReviewHash == review.ReviewHash) "declaration affirmation binding mismatch"

def validateCanonicalBindings (c : DeclarationCandidate) : Except CandidateError Unit := do
  let body ← c.canonicalJSON lib
  check (hashBytes lib body == c.CandidateHash && body == c.CanonicalJSON)
    "declaration candidate canonical hash mismatch"
  c.validateReviewBinding lib
  c.validateAffirmationBinding

def Validate (c : DeclarationCandidate) : Except CandidateError Unit := do
  c.validateCore
  c.validateCompletedSections lib
  c.validatePhase
  c.validateToolRecords
  c.validateProviderAttempts
  c.validateCanonicalBindings lib

end DeclarationCandidate

end LesserHost.HostedGenesis
