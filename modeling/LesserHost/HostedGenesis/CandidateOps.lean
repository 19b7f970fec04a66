import LesserHost.HostedGenesis.Candidate

set_option autoImplicit false

/-! # What happens to a candidate

`candidate.go` and `provider_continuation.go`: a candidate is made, a provider's tool puts a section, an
attempt of a provider is recorded, the owner edits or affirms, and the candidate is finalized. Each
operation returns the candidate that takes the old one's place, or refuses; nothing is changed in
place. -/

namespace LesserHost.HostedGenesis

open LesserHost.Go LesserHost.Soul

variable (lib : Library)

/-! ## A new candidate -/

structure DeclarationCandidateBinding where
  InstanceSlug : String
  RegistrationID : String
  AgentID : String
  ConversationID : String
  SourceTurnID : String
  Model : String

def NewDeclarationCandidate (binding : DeclarationCandidateBinding) (establishedAt : Time) :
    Except CandidateError DeclarationCandidate := do
  if establishedAt.IsZero then .error (.message "declaration candidate requires established_at")
  else
    let c : DeclarationCandidate := {
      Version := DeclarationCandidateVersionV1
      InstanceSlug := ToLower (TrimSpace binding.InstanceSlug)
      RegistrationID := TrimSpace binding.RegistrationID
      AgentID := ToLower (TrimSpace binding.AgentID)
      ConversationID := TrimSpace binding.ConversationID
      SourceTurnID := TrimSpace binding.SourceTurnID
      SchemaVersion := DeclarationSchemaVersionV2
      GuidanceVersion := GuidanceVersionV2
      Model := TrimSpace binding.Model
      Phase := .section
      CurrentSection := some .identity
      CompletedSections := []
      FiveBodies := .empty
      SelfDescription := ⟨"", "", "", "", "", ""⟩
      Capabilities := some []
      Transparency := ⟨"", "", ""⟩
      Revision := 0
      SectionHashes := fun _ => ""
      CandidateHash := ""
      CanonicalJSON := []
      ToolRecords := []
      ProviderAttempts := []
      Review := none
      Affirmation := none
      EstablishedAt := establishedAt.UTC
      UpdatedAt := establishedAt.UTC }
    let c ← c.refreshCanonical lib
    c.Validate lib
    return c

/-! ## Issues -/

structure DeclarationValidationIssue where
  Section : Option DeclarationSection
  Path : String
  Code : DeclarationValidationCode
  deriving DecidableEq

def issue (s : DeclarationSection) (path : String) (code : DeclarationValidationCode) :
    DeclarationValidationIssue := ⟨some s, path, code⟩

def issueForCode (s : DeclarationSection) (code : DeclarationValidationCode) :
    DeclarationValidationIssue :=
  issue s (match code with
    | .SoulRefusals | .SoulRefusalsBad => "fiveBodies.soul.refusals"
    | .SelfDescription => "selfDescription"
    | .Capabilities | .CapabilitiesBad | .CapabilitiesTooMany | .CapabilityIdentifier
    | .CapabilityScope | .CapabilityClaimLevel | .CapabilityLastValidated | .CapabilityValidationRef
    | .CapabilityDegradesTo => "capabilities"
    | .Transparency => "transparency"
    | _ => "fiveBodies." ++ s.text ++ ".summary") code

def declarationSectionForValidationCode (fallback : DeclarationSection) :
    DeclarationValidationCode → DeclarationSection
  | .FiveBodyIdentity => .identity
  | .FiveBodyPhilosophy => .philosophy
  | .FiveBodyDiscipline => .discipline
  | .FiveBodyBoundaries => .boundaries
  | .FiveBodySoul | .SoulRefusals | .SoulRefusalsBad | .SelfDescription | .Capabilities
  | .CapabilitiesBad | .CapabilitiesTooMany | .CapabilityIdentifier | .CapabilityScope
  | .CapabilityClaimLevel | .CapabilityLastValidated | .CapabilityValidationRef
  | .CapabilityDegradesTo | .Transparency | .Boundaries | .BoundariesBad => .soul
  | .Invalid | .AdversarialReview => fallback

def DeclarationValidationCodeFromError : CandidateError → DeclarationValidationCode
  | .validation code => code
  | _ => .Invalid

/-! ## Tool payloads -/

structure DeclarationToolRequest where
  ToolName : String
  ToolCallID : String
  ExpectedRevision : Int
  ExpectedHash : String
  SourceTurnID : String
  Payload : Bytes

structure DeclarationToolResult where
  Accepted : Bool
  Idempotent : Bool
  Section : Option DeclarationSection
  Revision : Int
  SectionHash : String
  CandidateHash : String
  Errors : List DeclarationValidationIssue
  deriving DecidableEq

def DeclarationCandidate.resultFor (c : DeclarationCandidate) (s : Option DeclarationSection)
    (issues : List DeclarationValidationIssue) : DeclarationToolResult where
  Accepted := false
  Idempotent := false
  Section := s
  Revision := c.Revision
  SectionHash := ""
  CandidateHash := c.CandidateHash
  Errors := issues

/-- One value, and nothing but white space after it. -/
def decodeDeclarationToolPayload {α : Type} (decode : Bytes → Option (α × Bytes)) (raw : Bytes) :
    Option α :=
  match decode raw with
  | none => none
  | some (payload, rest) =>
      if rest.all fun b => b == 0x20 || b == 0x09 || b == 0x0a || b == 0x0d then some payload
      else none

def declarationPayloadBindingIssue (s : DeclarationSection) (revision : Option Int)
    (candidateHash : String) (request : DeclarationToolRequest) : Option DeclarationValidationIssue :=
  if revision ≠ some request.ExpectedRevision then some (issue s "candidate.revision" .Invalid)
  else if TrimSpace candidateHash ≠ TrimSpace request.ExpectedHash then
    some (issue s "candidate.hash" .Invalid)
  else none

def declarationSectionPayloadBoundsIssue (s : DeclarationSection) (payload : FiveBodySection) :
    Option DeclarationValidationIssue :=
  let path := "fiveBodies." ++ s.text
  if fiveBodySummaryMaxRunes < RuneCountInString (TrimSpace payload.Summary) then
    some (issue s (path ++ ".summary") .Invalid)
  else if fiveBodyEvidenceMaxItems < payload.Notes.length then some (issue s (path ++ ".notes") .Invalid)
  else if payload.Notes.any fun note =>
      fiveBodyRefusalFieldMaxRunes < RuneCountInString (TrimSpace note) then
    some (issue s (path ++ ".notes") .Invalid)
  else none

def declarationSoulPayloadBoundsIssue (payload : FiveBodySoulBody) :
    Option DeclarationValidationIssue :=
  match declarationSectionPayloadBoundsIssue .soul ⟨payload.Summary, payload.Notes⟩ with
  | some i => some i
  | none =>
      if fiveBodyRefusalsMaxItems < payload.Refusals.length then
        some (issue .soul "fiveBodies.soul.refusals" .SoulRefusalsBad)
      else if payload.Refusals.any fun refusal =>
          fiveBodyRefusalFieldMaxRunes < RuneCountInString (TrimSpace refusal.Bypass) ||
          fiveBodyRefusalFieldMaxRunes < RuneCountInString (TrimSpace refusal.Invariant) ||
          fiveBodyRefusalFieldMaxRunes < RuneCountInString (TrimSpace refusal.ClosestSafePath) then
        some (issue .soul "fiveBodies.soul.refusals" .SoulRefusalsBad)
      else none

def firstNonEmptyCandidate (values : List String) : String :=
  ((values.map TrimSpace).find? fun v => v ≠ "").getD ""

def normalizeCandidateSelfDescription (d : SelfDescriptionV2) (bodies : FiveBodyDeclaration)
    (model : String) : SelfDescriptionV2 where
  Purpose := firstNonEmptyCandidate [d.Purpose, bodies.Identity.Summary]
  Constraints := firstNonEmptyCandidate [d.Constraints, bodies.Boundaries.Summary]
  Commitments := firstNonEmptyCandidate [d.Commitments, bodies.Philosophy.Summary]
  Limitations := firstNonEmptyCandidate [d.Limitations, bodies.Soul.Summary]
  AuthoredBy := "agent"
  MintingModel := TrimSpace model

def normalizeCandidateTransparency (t : DeclarationTransparency) : DeclarationTransparency where
  ModelProviderUncertainty := trimRunes (TrimSpace t.ModelProviderUncertainty) 1200
  OperationalNotes := trimRunes (TrimSpace t.OperationalNotes) 1200
  SelfDeclaredNotice := trimRunes (TrimSpace t.SelfDeclaredNotice) 1200

/-- The normal form of the capabilities, `none` if they have none, and the issues. -/
def validateCandidateSoulSatellites (s : DeclarationSection) (capabilities : List CapabilityV2)
    (description : SelfDescriptionV2) (transparency : DeclarationTransparency) :
    Option (List CapabilityV2) × List DeclarationValidationIssue :=
  let described := match description.Validate with
    | .error _ => [issueForCode s .SelfDescription]
    | .ok () => []
  let noticed := if TrimSpace transparency.SelfDeclaredNotice = "" then [issueForCode s .Transparency]
    else []
  match ValidateAndNormalizeProducedCapabilities capabilities with
  | .error code => (none, described ++ [issueForCode s code] ++ noticed)
  | .ok normalized => (some normalized, described ++ noticed)

/-- The soul has its own payload, which `applyDeclarationSoulPayload` puts. -/
def setCandidateSection (c : DeclarationCandidate) (s : DeclarationSection) (value : FiveBodySection) :
    DeclarationCandidate :=
  match s with
  | .identity => { c with FiveBodies := { c.FiveBodies with Identity := value } }
  | .philosophy => { c with FiveBodies := { c.FiveBodies with Philosophy := value } }
  | .discipline => { c with FiveBodies := { c.FiveBodies with Discipline := value } }
  | .boundaries => { c with FiveBodies := { c.FiveBodies with Boundaries := value } }
  | .soul => c

/-- Issues as a failure. -/
def orIssues (c : DeclarationCandidate) (issues : List DeclarationValidationIssue) :
    Except (List DeclarationValidationIssue) DeclarationCandidate :=
  if issues = [] then .ok c else .error issues

def applyDeclarationSoulPayload (updated : DeclarationCandidate) (request : DeclarationToolRequest) :
    Except (List DeclarationValidationIssue) DeclarationCandidate :=
  match decodeDeclarationToolPayload lib.DecodeSoul request.Payload with
  | none => .error [issue .soul "fiveBodies.soul" .Invalid]
  | some payload =>
  match declarationPayloadBindingIssue .soul payload.CandidateRevision payload.CandidateHash request with
  | some i => .error [i]
  | none =>
  match declarationSoulPayloadBoundsIssue payload.Section with
  | some i => .error [i]
  | none =>
      let bodies := { updated.FiveBodies with Soul := normalizeSoulBody payload.Section }
      let description :=
        normalizeCandidateSelfDescription payload.SelfDescription bodies updated.Model
      let transparency := normalizeCandidateTransparency payload.Transparency
      let (capabilities, issues) := validateCandidateSoulSatellites .soul payload.Capabilities
        description transparency
      let issues := match validateDeclarationSection .soul bodies with
        | .error code => issues ++ [issueForCode .soul code]
        | .ok () => issues
      orIssues { updated with
        FiveBodies := bodies
        SelfDescription := description
        Transparency := transparency
        Capabilities := capabilities } issues

def applyDeclarationToolPayload (updated : DeclarationCandidate) (s : DeclarationSection)
    (request : DeclarationToolRequest) :
    Except (List DeclarationValidationIssue) DeclarationCandidate :=
  if s = .soul then applyDeclarationSoulPayload lib updated request
  else
  match decodeDeclarationToolPayload lib.DecodeSection request.Payload with
  | none => .error [issue s ("fiveBodies." ++ s.text) .Invalid]
  | some payload =>
  match declarationPayloadBindingIssue s payload.CandidateRevision payload.CandidateHash request with
  | some i => .error [i]
  | none =>
  match declarationSectionPayloadBoundsIssue s payload.Section with
  | some i => .error [i]
  | none =>
      let updated := setCandidateSection updated s (normalizeFiveBodySection payload.Section)
      match validateDeclarationSection s updated.FiveBodies with
      | .error code => .error [issueForCode s code]
      | .ok () => .ok updated

/-! ## Putting a section -/

structure DeclarationToolPreflight where
  section_ : DeclarationSection
  callHash : String
  inputHash : String
  sourceTurnID : String
  replay : Option DeclarationToolResult

def declarationToolRejection (c : DeclarationCandidate) (s : DeclarationSection) (path : String) :
    DeclarationToolResult := c.resultFor (some s) [issue s path .Invalid]

/-- What is on record for the call, if the call is the same in everything that counts. -/
def declarationToolReplay (c : DeclarationCandidate) (request : DeclarationToolRequest)
    (p : DeclarationToolPreflight) : Except DeclarationToolResult (Option DeclarationToolResult) :=
  match c.ToolRecords.find? fun record => record.ToolCallHash == p.callHash with
  | none => .ok none
  | some record =>
      if record.InputHash ≠ p.inputHash ∨ record.ToolName ≠ request.ToolName ∨
          record.Section ≠ p.section_ ∨ record.SourceTurnID ≠ p.sourceTurnID then
        .error (declarationToolRejection c p.section_ "tool.call_id")
      else
        .ok (some {
          Accepted := true
          Idempotent := true
          Section := some record.Section
          Revision := record.Revision
          SectionHash := record.SectionHash
          CandidateHash := record.CandidateHash
          Errors := [] })

def preflightDeclarationTool (c : DeclarationCandidate) (request : DeclarationToolRequest) :
    Except DeclarationToolResult DeclarationToolPreflight :=
  match DeclarationSectionForTool request.ToolName with
  | none => .error (c.resultFor none [⟨none, "tool.name", .Invalid⟩])
  | some s =>
      let p : DeclarationToolPreflight := {
        section_ := s
        callHash := hashText lib (TrimSpace request.ToolCallID)
        inputHash := hashBytes lib request.Payload
        sourceTurnID := TrimSpace request.SourceTurnID
        replay := none }
      if TrimSpace request.ToolCallID = "" ∨ p.sourceTurnID = "" then
        .error (declarationToolRejection c s "tool.call_id")
      else if p.sourceTurnID ≠ c.SourceTurnID then
        .error (declarationToolRejection c s "candidate.source_turn_id")
      else
      match declarationToolReplay c request p with
      | .error rejection => .error rejection
      | .ok (some result) => .ok { p with replay := some result }
      | .ok none =>
          if MaxDeclarationToolRecords ≤ c.ToolRecords.length then
            .error (declarationToolRejection c s "tool.call_id")
          else if c.Phase ≠ .section ∨ c.CurrentSection ≠ some s then
            .error (declarationToolRejection c s "candidate.current_section")
          else if c.Revision ≠ request.ExpectedRevision then
            .error (declarationToolRejection c s "candidate.revision")
          else if TrimSpace c.CandidateHash ≠ TrimSpace request.ExpectedHash then
            .error (declarationToolRejection c s "candidate.hash")
          else .ok p

/-- The next section to put, or the review once there is none. -/
def DeclarationCandidate.advance (c : DeclarationCandidate) : DeclarationCandidate :=
  match c.nextIncompleteSection with
  | some next => { c with CurrentSection := some next, Phase := .section }
  | none => { c with CurrentSection := none, Phase := .review }

/-- Count the revision up, drop review and affirmation, and mark the section as complete. -/
def DeclarationCandidate.completeSection (c : DeclarationCandidate) (s : DeclarationSection)
    (now : Time) : DeclarationCandidate :=
  let updated := { c with
    Revision := int64 (c.Revision + 1)
    Review := none
    Affirmation := none
    UpdatedAt := now.UTC }.markCompleted s
  { updated with
    SectionHashes := Function.update updated.SectionHashes s
      (hashBytes lib (updated.sectionBytes s)) }.advance

/-- Render the review of a candidate that has come to its review; a review that cannot be rendered
    for lack of a section or of room is an issue of the tool. -/
def DeclarationCandidate.withReview (c : DeclarationCandidate) (s : DeclarationSection)
    (sourceTurnID : String) (now : Time) :
    Except CandidateError (Except (List DeclarationValidationIssue) DeclarationCandidate) :=
  if c.Phase ≠ .review then .ok (.ok c)
  else match ValidateDeclarationCandidateComplete lib c with
  | .error err =>
      let code := DeclarationValidationCodeFromError err
      .ok (.error [issueForCode (declarationSectionForValidationCode s code) code])
  | .ok () =>
      match RenderDeclarationOwnerReview lib c sourceTurnID now with
      | .error .reviewTooLarge => .ok (.error [issue s "candidate.review_text" .Invalid])
      | .error err => .error err
      | .ok review => .ok (.ok { c with Review := some review })

/-- The record of a call that has put its section into `updated`. -/
def DeclarationToolPreflight.record (p : DeclarationToolPreflight) (request : DeclarationToolRequest)
    (updated : DeclarationCandidate) : DeclarationToolRecord where
  ToolCallHash := p.callHash
  InputHash := p.inputHash
  ToolName := request.ToolName
  Section := p.section_
  SourceTurnID := p.sourceTurnID
  Revision := updated.Revision
  SectionHash := updated.SectionHashes p.section_
  CandidateHash := updated.CandidateHash

def ApplyDeclarationTool (c : DeclarationCandidate) (request : DeclarationToolRequest) (now : Time) :
    Except CandidateError (Option DeclarationCandidate × DeclarationToolResult) :=
  match preflightDeclarationTool lib c request with
  | .error rejection => .ok (none, rejection)
  | .ok p =>
  match p.replay with
  | some result => .ok (some c, result)
  | none =>
  match applyDeclarationToolPayload lib { c with SourceTurnID := p.sourceTurnID } p.section_ request with
  | .error issues => .ok (none, c.resultFor (some p.section_) issues)
  | .ok updated => do
      let updated ← (updated.completeSection lib p.section_ now).refreshCanonical lib
      match ← updated.withReview lib p.section_ request.SourceTurnID now with
      | .error issues => return (none, c.resultFor (some p.section_) issues)
      | .ok updated =>
          let record := p.record request updated
          let updated := { updated with ToolRecords := updated.ToolRecords ++ [record] }
          updated.Validate lib
          return (some updated, {
            Accepted := true
            Idempotent := false
            Section := some p.section_
            Revision := updated.Revision
            SectionHash := record.SectionHash
            CandidateHash := updated.CandidateHash
            Errors := [] })

/-! ## Provider attempts -/

structure DeclarationProviderAttemptUpdate where
  Provider : String
  Model : String
  Phase : String
  Section : Option DeclarationSection
  SourceTurnID : String
  CandidateRevision : Int
  CandidateHash : String
  SDKAttemptOrdinal : Int
  SDKRetryBudget : Int
  HTTPStatus : Int
  ProviderRequestID : String
  ToolName : String
  ToolCallHash : String
  ValidationCodes : List String
  ValidationPaths : List String
  Accepted : Bool
  OutputBytes : Int
  OutputSHA256 : String
  InputTokens : Int
  OutputTokens : Int
  TotalTokens : Int
  ToolCalls : Int
  StopReason : String
  FailureClass : String
  DurationMS : Int

section ProviderContinuation

variable (c : DeclarationCandidate) (update : DeclarationProviderAttemptUpdate)

def providerContinuationPhaseBound : Bool :=
  if update.Section = some .soul ∨ c.Revision ≠ int64 (update.CandidateRevision + 1) then false
  else match c.Phase with
    | .section => c.CurrentSection.isSome && c.CurrentSection != update.Section
    | .review => c.CurrentSection.isNone && c.Review.isSome
    | _ => false

def providerContinuationAttemptBound (a : DeclarationProviderAttempt) (toolName : String) : Bool :=
  a.SourceTurnID == update.SourceTurnID && a.Section == update.Section &&
    a.CandidateRevision == update.CandidateRevision && a.CandidateHash == update.CandidateHash &&
    a.Provider == ToLower (TrimSpace update.Provider) && a.Model == TrimSpace update.Model &&
    a.Phase == update.Phase && a.Accepted && a.ToolName == toolName && a.ToolCallHash != ""

def providerContinuationToolBound (record : DeclarationToolRecord) (a : DeclarationProviderAttempt) :
    Bool :=
  record.ToolCallHash == a.ToolCallHash && record.ToolName == a.ToolName &&
    some record.Section == a.Section && record.SourceTurnID == a.SourceTurnID &&
    record.Revision == c.Revision && record.CandidateHash == c.CandidateHash &&
    record.SectionHash == (a.Section.map c.SectionHashes).getD ""

/-- The candidate shows the accepted tool call the update goes on from. -/
def declarationProviderContinuationBound : Bool :=
  providerContinuationPhaseBound c update &&
    match update.Section with
    | none => false
    | some s => c.ProviderAttempts.any fun a =>
        providerContinuationAttemptBound update a (DeclarationToolForSection s) &&
          c.ToolRecords.any fun record => providerContinuationToolBound c record a

end ProviderContinuation

/-- The last place where the predicate holds. -/
def lastIdx? {α : Type} (p : α → Bool) : List α → Option Nat
  | [] => none
  | a :: rest =>
      match lastIdx? p rest with
      | some i => some (i + 1)
      | none => if p a then some 0 else none

def validateDeclarationProviderAttemptUpdate (c : DeclarationCandidate)
    (update : DeclarationProviderAttemptUpdate) (provider model : String) (now : Time) :
    Except CandidateError Unit := do
  check (!now.IsZero && TrimSpace update.SourceTurnID != "" && 0 ≤ update.CandidateRevision &&
    TrimSpace update.CandidateHash != "") "declaration provider attempt binding is invalid"
  check (update.Section.isSome && provider != "" && model != "" && update.Phase == "declaration_phase")
    "declaration provider attempt metadata is invalid"
  check (EqualFold c.Model (provider ++ ":" ++ model))
    "declaration provider attempt model binding mismatch"

def declarationProviderAttemptOrdinalIsStale (attempts : List DeclarationProviderAttempt)
    (update : DeclarationProviderAttemptUpdate) : Bool :=
  attempts.any fun prior => prior.SourceTurnID == update.SourceTurnID &&
    prior.Section == update.Section && prior.CandidateRevision == update.CandidateRevision &&
    prior.CandidateHash == update.CandidateHash && update.SDKAttemptOrdinal ≤ prior.SDKAttemptOrdinal

def existingDeclarationProviderAttemptIndex (attempts : List DeclarationProviderAttempt)
    (update : DeclarationProviderAttemptUpdate) : Except CandidateError Nat :=
  match lastIdx? (fun a : DeclarationProviderAttempt =>
      a.SourceTurnID == TrimSpace update.SourceTurnID && a.Section == update.Section &&
      a.CandidateRevision == update.CandidateRevision &&
      a.CandidateHash == TrimSpace update.CandidateHash) attempts with
  | some index => .ok index
  | none => .error (.message "declaration provider attempt observation has no SDK attempt")

/-- The attempts, with a new one if the update starts one, and the place of the one it is about. -/
def declarationProviderAttemptIndex (c : DeclarationCandidate)
    (update : DeclarationProviderAttemptUpdate) (provider model : String) (now : Time) :
    Except CandidateError (List DeclarationProviderAttempt × Nat) := do
  if update.SDKAttemptOrdinal ≤ 0 then
    return (c.ProviderAttempts, ← existingDeclarationProviderAttemptIndex c.ProviderAttempts update)
  else
    let directBinding := update.CandidateRevision == c.Revision &&
      update.CandidateHash == c.CandidateHash && decide (c.Phase = .section) &&
      c.CurrentSection == update.Section
    check (update.SourceTurnID == c.SourceTurnID &&
      (directBinding || declarationProviderContinuationBound c update))
      "declaration provider attempt candidate binding mismatch"
    check (!declarationProviderAttemptOrdinalIsStale c.ProviderAttempts update)
      "declaration provider attempt ordinal is stale"
    check (c.ProviderAttempts.length < MaxDeclarationProviderAttempts)
      "declaration provider attempt limit exceeded"
    let attempt : DeclarationProviderAttempt := {
      Sequence := c.ProviderAttempts.length + 1
      Provider := provider
      Model := model
      Phase := update.Phase
      Section := update.Section
      SourceTurnID := TrimSpace update.SourceTurnID
      CandidateRevision := update.CandidateRevision
      CandidateHash := TrimSpace update.CandidateHash
      SDKAttemptOrdinal := update.SDKAttemptOrdinal
      SDKRetryBudget := update.SDKRetryBudget
      HTTPStatus := 0
      ProviderRequestID := ""
      ToolName := ""
      ToolCallHash := ""
      ValidationCodes := []
      ValidationPaths := []
      Accepted := false
      OutputBytes := 0
      OutputSHA256 := ""
      InputTokens := 0
      OutputTokens := 0
      TotalTokens := 0
      ToolCalls := 0
      StopReason := ""
      FailureClass := ""
      DurationMS := 0
      ObservedAt := now.UTC }
    return (c.ProviderAttempts ++ [attempt], c.ProviderAttempts.length)

/-- The trimmed new value, unless it is empty. -/
def orOld (new old : String) : String := if TrimSpace new = "" then old else TrimSpace new

def applyDeclarationProviderAttemptMetadata (a : DeclarationProviderAttempt)
    (update : DeclarationProviderAttemptUpdate) (now : Time) : DeclarationProviderAttempt :=
  let observed := { a with
    HTTPStatus := if update.HTTPStatus = 0 then a.HTTPStatus else update.HTTPStatus
    ProviderRequestID := orOld update.ProviderRequestID a.ProviderRequestID
    OutputBytes := max a.OutputBytes update.OutputBytes
    OutputSHA256 := orOld update.OutputSHA256 a.OutputSHA256
    InputTokens := max a.InputTokens update.InputTokens
    OutputTokens := max a.OutputTokens update.OutputTokens
    TotalTokens := max a.TotalTokens update.TotalTokens
    ToolCalls := max a.ToolCalls update.ToolCalls
    StopReason := orOld update.StopReason a.StopReason
    FailureClass := if TrimSpace update.FailureClass = "" then a.FailureClass
      else NormalizeFailureClass update.FailureClass
    DurationMS := max a.DurationMS update.DurationMS
    ObservedAt := now.UTC }
  if TrimSpace update.ToolName = "" then observed
  else { observed with
    ToolName := TrimSpace update.ToolName
    ToolCallHash := TrimSpace update.ToolCallHash
    ValidationCodes := update.ValidationCodes
    ValidationPaths := update.ValidationPaths
    Accepted := update.Accepted }

def ApplyDeclarationProviderAttempt (c : DeclarationCandidate)
    (update : DeclarationProviderAttemptUpdate) (now : Time) :
    Except CandidateError DeclarationCandidate := do
  let provider := ToLower (TrimSpace update.Provider)
  let model := TrimSpace update.Model
  validateDeclarationProviderAttemptUpdate c update provider model now
  let (attempts, index) ← declarationProviderAttemptIndex c update provider model now
  let updated := { c with
    ProviderAttempts := attempts.modify index fun a =>
      applyDeclarationProviderAttemptMetadata a update now
    UpdatedAt := now.UTC }
  updated.Validate lib
  return updated

/-! ## The owner's actions -/

/-- `Section` is `none` for a string that names no section. -/
structure DeclarationCandidateAction where
  Action : String
  Section : Option DeclarationSection
  CandidateRevision : Int
  CandidateHash : String
  ReviewHash : String

def declarationReviewMatchesAction (c : DeclarationCandidate) (action : DeclarationCandidateAction) :
    Bool :=
  decide (c.Phase = .review) && match c.Review with
    | none => false
    | some review => review.CandidateRevision == action.CandidateRevision &&
        review.CandidateHash == TrimSpace action.CandidateHash &&
        review.ReviewHash == TrimSpace action.ReviewHash

def applyDeclarationCandidateEdit (c : DeclarationCandidate) (action : DeclarationCandidateAction)
    (sourceTurnID : String) (now : Time) : Except CandidateError DeclarationCandidate := do
  check (declarationReviewMatchesAction c action)
    "declaration edit does not match the reviewed candidate"
  check action.Section.isSome "declaration candidate edit section is invalid"
  { c with
    Revision := int64 (c.Revision + 1)
    Phase := .section
    CurrentSection := action.Section
    Review := none
    Affirmation := none
    SourceTurnID := TrimSpace sourceTurnID
    UpdatedAt := now.UTC }.refreshCanonical lib

def applyDeclarationCandidateAffirmation (c : DeclarationCandidate)
    (action : DeclarationCandidateAction) (sourceTurnID : String) (now : Time) :
    Except CandidateError DeclarationCandidate := do
  check (declarationReviewMatchesAction c action)
    "declaration affirmation does not match the reviewed candidate"
  return { c with
    Affirmation := some {
      CandidateRevision := c.Revision
      CandidateHash := c.CandidateHash
      ReviewHash := (c.Review.map DeclarationReviewCheckpoint.ReviewHash).getD ""
      SourceTurnID := TrimSpace sourceTurnID
      AffirmedAt := now.UTC }
    Phase := .affirmed
    SourceTurnID := TrimSpace sourceTurnID
    UpdatedAt := now.UTC }

def ApplyDeclarationCandidateAction (c : DeclarationCandidate) (action : DeclarationCandidateAction)
    (sourceTurnID : String) (now : Time) : Except CandidateError DeclarationCandidate := do
  check (c.Revision == action.CandidateRevision && c.CandidateHash == TrimSpace action.CandidateHash)
    "declaration candidate action binding mismatch"
  let updated ←
    if ToLower (TrimSpace action.Action) = "edit" then
      applyDeclarationCandidateEdit lib c action sourceTurnID now
    else if ToLower (TrimSpace action.Action) = "affirm" then
      applyDeclarationCandidateAffirmation c action sourceTurnID now
    else .error (.message "declaration candidate action is invalid")
  updated.Validate lib
  return updated

def FinalizeDeclarationCandidate (c : DeclarationCandidate) (sourceTurnID : String) (now : Time) :
    Except CandidateError DeclarationCandidate := do
  check (decide (c.Phase = .affirmed) && c.Review.isSome && c.Affirmation.isSome)
    "declaration candidate is not affirmed"
  check (TrimSpace sourceTurnID != "" &&
    (c.Affirmation.map DeclarationAffirmationCheckpoint.SourceTurnID).getD "" == TrimSpace sourceTurnID)
    "declaration finalization turn does not match affirmation"
  ValidateDeclarationCandidateComplete lib c
  let updated := { c with Phase := .finalized, UpdatedAt := now.UTC }
  updated.Validate lib
  check (updated.CanonicalJSON == c.CanonicalJSON && updated.CandidateHash == c.CandidateHash)
    "declaration finalization changed canonical bytes"
  return updated

end LesserHost.HostedGenesis
