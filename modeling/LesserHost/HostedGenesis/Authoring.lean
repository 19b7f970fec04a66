import LesserHost.HostedGenesis.CandidateProgress

set_option autoImplicit false

/-! # Authoring a declaration

From a new candidate to its review: the call for the current section passes its preflight, a candidate
with all sections has a document, and the rows published for its refusals are in order. A sample run
shows the whole way. -/

namespace LesserHost.HostedGenesis

open LesserHost.Go LesserHost.Soul DeclarationCandidate

variable {lib : Library} {c : DeclarationCandidate}

/-! ## Documents -/

theorem passedReview_valid : ValidateAdversarialReview passedReview = .ok () := by
  have hversion : TrimSpace passedReview.Version = AdversarialReviewVersionV1 := by decide
  have hreviewer : TrimSpace passedReview.Reviewer = AdversarialReviewerV1 := by decide
  have hresult : ToLower (TrimSpace passedReview.Result) = "pass" := by decide
  have hreport : TrimSpace passedReview.Report ≠ "" :=
    TrimSpace_ne_empty (head?_append head?_ofList) (by decide)
  have hroom : RuneCountInString passedReview.Report ≤ fiveBodyReviewReportMaxRunes :=
    (length_toList_le _).trans (by decide +kernel)
  have hfindings : ∀ f ∈ passedReview.Findings,
      TrimSpace f.Finding ≠ "" ∧ TrimSpace f.Refutation ≠ "" ∧ TrimSpace f.Report ≠ "" := by
    have hliteral : ∀ (a : Char) (rest : List Char), isSpace a = false →
        TrimSpace (String.ofList (a :: rest)) ≠ "" :=
      fun a rest ha => TrimSpace_ne_empty head?_ofList ha
    intro f hf
    simp only [passedReview, List.mem_cons, List.not_mem_nil, or_false] at hf
    rcases hf with rfl | rfl | rfl
    · exact ⟨hliteral _ _ (by decide), hliteral _ _ (by decide), hliteral _ _ (by decide)⟩
    · exact ⟨hliteral _ _ (by decide), hliteral _ _ (by decide), hliteral _ _ (by decide)⟩
    · exact ⟨hliteral _ _ (by decide), TrimSpace_ne_empty (head?_append head?_ofList) (by decide),
        hliteral _ _ (by decide)⟩
  have hcount : ¬ (passedReview.Findings.length = 0 ∨
      fiveBodyReviewFindingsMaxItem < passedReview.Findings.length ∨
      TrimSpace passedReview.Report = "" ∨
      fiveBodyReviewReportMaxRunes < RuneCountInString passedReview.Report) := by
    refine not_or.2 ⟨by decide, not_or.2 ⟨by decide, not_or.2 ⟨hreport, Nat.not_lt.2 hroom⟩⟩⟩
  have hany : ¬ (passedReview.Findings.any fun f =>
      TrimSpace f.Finding == "" || TrimSpace f.Refutation == "" || TrimSpace f.Report == "") = true := by
    rw [List.any_eq_true]
    rintro ⟨f, hf, h⟩
    simp only [Bool.or_eq_true, beq_iff_eq] at h
    obtain ⟨h₁, h₂, h₃⟩ := hfindings f hf
    rcases h with (h | h) | h
    · exact h₁ h
    · exact h₂ h
    · exact h₃ h
  unfold ValidateAdversarialReview
  rw [hversion, hreviewer, hresult, if_neg (by decide), if_neg hcount, if_neg hany]

/-- The document of a candidate, with a review once it is complete. -/
def DeclarationCandidate.document (c : DeclarationCandidate) (lib : Library)
    (review : Option AdversarialReview) : CanonicalProducedDeclarations where
  SchemaVersion := c.SchemaVersion
  GuidanceVersion := c.GuidanceVersion
  FiveBodies := c.FiveBodies
  SelfDescription := c.SelfDescription
  Capabilities := c.Capabilities.getD []
  Boundaries := FiveBodyBoundariesDeterministic lib c.FiveBodies.Soul.Refusals c.EstablishedAt
  Transparency := c.Transparency
  AdversarialReview := review

theorem canonicalJSON_incomplete (h : c.CompletedSections.length ≠ declarationSectionOrder.length) :
    c.canonicalJSON lib = .ok (c.document lib none).Marshal := by
  unfold DeclarationCandidate.canonicalJSON
  dsimp only
  rw [if_neg h]
  rfl

theorem canonicalJSON_complete (h : c.CompletedSections.length = declarationSectionOrder.length)
    (hbodies : ValidateFiveBodyDeclaration (NormalizeFiveBodyDeclaration c.FiveBodies) = .ok ()) :
    c.canonicalJSON lib = .ok (c.document lib (some passedReview)).Marshal := by
  have hreview : BuildAdversarialReviewV2 c.FiveBodies = .ok passedReview := by
    unfold BuildAdversarialReviewV2
    rw [hbodies, passedReview_valid]
    rfl
  unfold DeclarationCandidate.canonicalJSON
  dsimp only
  rw [if_pos h, hreview]
  rfl

/-- The rows published for refusals are in order, if the time they were added at can be read. -/
theorem boundaries_valid (refusals : List FiveBodyRefusalRule) {establishedAt : Time}
    (h : validateRFC3339 establishedAt.UTC.FormatRFC3339 = .ok ()) :
    ((FiveBodyBoundariesDeterministic lib refusals establishedAt).any fun b => !b.Validate.toBool)
      = false := by
  rw [List.any_eq_false]
  intro b hb
  obtain ⟨i, hi, rfl⟩ := List.mem_mapIdx.1 hb
  have hid : ∀ s t : String, TrimSpace ("mint-refusal-" ++ s ++ "-" ++ t) ≠ "" := fun s t =>
    TrimSpace_ne_empty (head?_append (head?_append (head?_append head?_ofList))) (by decide)
  have hstatement : ∀ s t u v : String, TrimSpace ("I will not allow bypass " ++ s
      ++ " because it violates " ++ t ++ "; closest safe path: " ++ u ++ v) ≠ "" := fun s t u v =>
    TrimSpace_ne_empty (head?_append (head?_append (head?_append (head?_append (head?_append
      (head?_append head?_ofList))))))  (by decide)
  have hcategory : ToLower (TrimSpace "refusal")
      ∈ ["refusal", "scope_limit", "ethical_commitment", "circuit_breaker"] := by decide
  have hversion : TrimSpace "1" ≠ "" := by decide
  have hmodel : registrationAuthorityWalletPrincipal ≠ registrationAuthorityInstanceTrust := by decide
  have hsignature : regexHexSig (TrimSpace "0x00") = true := by decide
  unfold BoundaryV2.Validate BoundaryV2.ValidateForAuthority
  dsimp only
  rw [if_neg (hid _ _), if_neg (not_not.2 hcategory), if_neg (hstatement _ _ _ _), h, if_neg hversion,
    if_neg hmodel, if_pos hsignature]
  decide

/-! ## The way to the review -/

/-- The binding of a new candidate names everything. -/
structure DeclarationCandidateBinding.Complete (b : DeclarationCandidateBinding) : Prop where
  instanceSlug : ToLower (TrimSpace b.InstanceSlug) ≠ ""
  registrationID : TrimSpace b.RegistrationID ≠ ""
  agentID : ToLower (TrimSpace b.AgentID) ≠ ""
  conversationID : TrimSpace b.ConversationID ≠ ""
  sourceTurnID : TrimSpace b.SourceTurnID ≠ ""
  model : TrimSpace b.Model ≠ ""

/-- A new candidate. -/
def DeclarationCandidateBinding.candidate (b : DeclarationCandidateBinding) (lib : Library)
    (establishedAt : Time) : DeclarationCandidate :=
  let c : DeclarationCandidate := {
    Version := DeclarationCandidateVersionV1
    InstanceSlug := ToLower (TrimSpace b.InstanceSlug)
    RegistrationID := TrimSpace b.RegistrationID
    AgentID := ToLower (TrimSpace b.AgentID)
    ConversationID := TrimSpace b.ConversationID
    SourceTurnID := TrimSpace b.SourceTurnID
    SchemaVersion := DeclarationSchemaVersionV2
    GuidanceVersion := GuidanceVersionV2
    Model := TrimSpace b.Model
    Phase := .section
    CurrentSection := some .identity
    CompletedSections := []
    FiveBodies := .empty
    SelfDescription := ⟨"", "", "", "", "", ""⟩
    Capabilities := some []
    Transparency := ⟨"", "", ""⟩
    Revision := 0
    SectionHashes := fun _ => ""
    CandidateHash := ""
    CanonicalJSON := []
    ToolRecords := []
    ProviderAttempts := []
    Review := none
    Affirmation := none
    EstablishedAt := establishedAt.UTC
    UpdatedAt := establishedAt.UTC }
  { c with
    CanonicalJSON := (c.document lib none).Marshal
    CandidateHash := hashBytes lib (c.document lib none).Marshal }

theorem DeclarationCandidateBinding.candidate_valid {b : DeclarationCandidateBinding}
    (hb : b.Complete) {establishedAt : Time} (ht : establishedAt.IsZero = false) :
    (b.candidate lib establishedAt).Valid lib where
  version := rfl
  schema := rfl
  guidance := rfl
  bindings := bindingsComplete_iff.2 ⟨⟨hb.instanceSlug, hb.registrationID, hb.agentID,
    hb.conversationID, hb.model, ht⟩, hb.sourceTurnID, ht⟩
  revision := le_refl _
  recordRoom := Nat.zero_le _
  attemptRoom := Nat.zero_le _
  capabilities := rfl
  sectionsNodup := List.nodup_nil
  sectionsOrder := Or.inr fun i s hi => by cases hi
  sectionHashes := fun s hs => by cases hs
  phase := ⟨rfl, rfl, rfl, Or.inr ⟨rfl, rfl⟩⟩
  records := fun r hr => by cases hr
  recordsNodup := List.nodup_nil
  attempts := rfl
  canonical := canonicalJSON_incomplete (by
    show (0 : Nat) ≠ 5
    decide)
  hash := rfl
  review := fun r hr => by cases hr
  affirmation := fun a ha => by cases ha

/-- **A complete binding gives a candidate.** -/
theorem new_accepted {b : DeclarationCandidateBinding} (hb : b.Complete) {establishedAt : Time}
    (ht : establishedAt.IsZero = false) :
    NewDeclarationCandidate lib b establishedAt = .ok (b.candidate lib establishedAt) := by
  unfold NewDeclarationCandidate
  rw [if_neg (Bool.eq_false_iff.1 ht), bind_ok]
  refine ⟨b.candidate lib establishedAt, refreshCanonical_ok.2 ⟨_, canonicalJSON_incomplete ?_, rfl⟩, ?_⟩
  · show (0 : Nat) ≠ 5
    decide
  · rw [seq_ok, pure_ok]
    exact ⟨Validate_ok.2 (DeclarationCandidateBinding.candidate_valid hb ht), rfl⟩

/-- **The call for the current section passes its preflight**, if the id is new and the call names
    the candidate as it is. -/
theorem preflight_accepted {request : DeclarationToolRequest} {s : DeclarationSection}
    (htool : DeclarationSectionForTool request.ToolName = some s)
    (hid : TrimSpace request.ToolCallID ≠ "") (hturn : TrimSpace request.SourceTurnID = c.SourceTurnID)
    (hne : c.SourceTurnID ≠ "")
    (hfresh : ∀ r ∈ c.ToolRecords, r.ToolCallHash ≠ hashText lib (TrimSpace request.ToolCallID))
    (hroom : c.ToolRecords.length < MaxDeclarationToolRecords) (hphase : c.Phase = .section)
    (hcurrent : c.CurrentSection = some s) (hrevision : request.ExpectedRevision = c.Revision)
    (hhash : TrimSpace request.ExpectedHash = TrimSpace c.CandidateHash) :
    preflightDeclarationTool lib c request = .ok {
      section_ := s
      callHash := hashText lib (TrimSpace request.ToolCallID)
      inputHash := hashBytes lib request.Payload
      sourceTurnID := TrimSpace request.SourceTurnID
      replay := none } := by
  have hfind : (c.ToolRecords.find? fun record =>
      record.ToolCallHash == hashText lib (TrimSpace request.ToolCallID)) = none := by
    rw [List.find?_eq_none]
    intro r hr
    rw [beq_iff_eq]
    exact hfresh r hr
  unfold preflightDeclarationTool declarationToolReplay
  rw [htool]
  dsimp only
  rw [if_neg (not_or.2 ⟨hid, hturn ▸ hne⟩), if_neg (not_not.2 hturn), hfind]
  dsimp only
  rw [if_neg (Nat.not_le.2 hroom), if_neg (not_or.2 ⟨not_not.2 hphase, not_not.2 hcurrent⟩),
    if_neg (not_not.2 hrevision.symm), if_neg (not_not.2 hhash.symm)]

/-- **A payload for the soul is put** when it names the call's candidate and passes every gate. -/
theorem soulPayload_accepted {request : DeclarationToolRequest} {revision : Option Int} {hash : String}
    {soul : FiveBodySoulBody} {selfDescription description : SelfDescriptionV2}
    {declared capabilities : List CapabilityV2} {stated transparency : DeclarationTransparency}
    {bodies : FiveBodyDeclaration}
    (hdecode : decodeDeclarationToolPayload lib.DecodeSoul request.Payload
      = some ⟨revision, hash, soul, selfDescription, declared, stated⟩)
    (hbinding : declarationPayloadBindingIssue .soul revision hash request = none)
    (hbounds : declarationSoulPayloadBoundsIssue soul = none)
    (hbodies : { c.FiveBodies with Soul := normalizeSoulBody soul } = bodies)
    (hdescription : normalizeCandidateSelfDescription selfDescription bodies c.Model = description)
    (htransparency : normalizeCandidateTransparency stated = transparency)
    (hsatellites : validateCandidateSoulSatellites .soul declared description transparency
      = (some capabilities, []))
    (hvalid : validateDeclarationSection .soul bodies = .ok ()) :
    applyDeclarationToolPayload lib c .soul request = .ok { c with
      FiveBodies := bodies
      SelfDescription := description
      Transparency := transparency
      Capabilities := some capabilities } := by
  unfold applyDeclarationToolPayload applyDeclarationSoulPayload
  rw [if_pos rfl, hdecode]
  dsimp only
  rw [hbinding, hbounds]
  dsimp only
  rw [hbodies, hdescription, htransparency, hsatellites, hvalid]
  exact orIssues_ok.2 ⟨rfl, rfl⟩

/-! ## A sample run

Every field says the same, so that one text is looked at. The payloads are JSON texts, and the decoders
of the sample read the revision and the hash out of them. -/

def sampleText : String := "keep promises"
def sampleTime : Time := ⟨1, .utc⟩
def sampleTurnID : String := "turn-1"

theorem sampleTime_set : sampleTime.IsZero = false := by decide

def sampleBinding : DeclarationCandidateBinding where
  InstanceSlug := "slug"
  RegistrationID := "registration"
  AgentID := "agent"
  ConversationID := "conversation"
  SourceTurnID := sampleTurnID
  Model := "model"

def sampleSection : FiveBodySection := ⟨sampleText, []⟩

def sampleRefusal : FiveBodyRefusalRule := ⟨sampleText, sampleText, sampleText⟩

def sampleSoul : FiveBodySoulBody := ⟨sampleText, [], [sampleRefusal, sampleRefusal, sampleRefusal]⟩

/-- What a payload says about its section. -/
def samplePayloadBody : DeclarationSection → Bytes
  | .soul => bytes "\"section\":" ++ sampleSoul.Marshal ++ bytes (",\"selfDescription\":\x7b" ++
      "\"purpose\":\"keep promises\",\"authoredBy\":\"agent\"\x7d,\"capabilities\":[]," ++
      "\"transparency\":\x7b\"selfDeclaredNotice\":\"keep promises\"\x7d\x7d")
  | _ => bytes "\"section\":" ++ sampleSection.Marshal ++ bytes "\x7d"

def samplePayload (revision : Int) (candidateHash : String) (s : DeclarationSection) : Bytes :=
  bytes "\x7b\"candidateRevision\":" ++ (bytes (Itoa revision) ++ (bytes ",\"candidateHash\":\"" ++
    (bytes candidateHash ++ (bytes "\"," ++ samplePayloadBody s))))

def dropPrefix (pre b : Bytes) : Option Bytes :=
  if Bytes.HasPrefix b pre then some (b.drop pre.length) else none

/-- The revision and the hash of a payload, and the rest. -/
def sampleRead (b : Bytes) : Option (Int × String × Bytes) := do
  let b ← dropPrefix (bytes "\x7b\"candidateRevision\":") b
  let revision := b.takeWhile isDigit
  let b ← dropPrefix (bytes ",\"candidateHash\":\"") (b.dropWhile isDigit)
  let candidateHash := b.takeWhile (· != 0x22)
  let b ← dropPrefix (bytes "\",") (b.dropWhile (· != 0x22))
  return (digitsValue revision, asciiText candidateHash, b)

def sampleLibrary : Library where
  Sum256 := id
  Quote s := "\"" ++ s ++ "\""
  Valid _ := true
  DecodeSection b :=
    match sampleRead b with
    | some (revision, candidateHash, rest) =>
        if rest = samplePayloadBody .identity then some (⟨some revision, candidateHash, sampleSection⟩, [])
        else none
    | none => none
  DecodeSoul b :=
    match sampleRead b with
    | some (revision, candidateHash, rest) =>
        if rest = samplePayloadBody .soul then
          some ({
            CandidateRevision := some revision
            CandidateHash := candidateHash
            Section := sampleSoul
            SelfDescription := ⟨sampleText, "", "", "", "agent", ""⟩
            Capabilities := []
            Transparency := ⟨"", "", sampleText⟩ }, [])
        else none
    | none => none

theorem sampleLibrary_injective : Function.Injective sampleLibrary.Sum256 := Function.injective_id

def sampleRequest (c : DeclarationCandidate) (s : DeclarationSection) : DeclarationToolRequest where
  ToolName := DeclarationToolForSection s
  ToolCallID := s.text
  ExpectedRevision := c.Revision
  ExpectedHash := c.CandidateHash
  SourceTurnID := sampleTurnID
  Payload := samplePayload c.Revision c.CandidateHash s

theorem dropPrefix_append (pre rest : Bytes) : dropPrefix pre (pre ++ rest) = some rest := by
  have hpre : Bytes.HasPrefix (pre ++ rest) pre = true :=
    List.isPrefixOf_iff_prefix.2 (List.prefix_append _ _)
  rw [dropPrefix, if_pos hpre, List.drop_left]

theorem takeWhile_until {p : UInt8 → Bool} {s : Bytes} {b : UInt8} (rest : Bytes) (hs : ∀ a ∈ s, p a = true)
    (hb : p b = false) : (s ++ b :: rest).takeWhile p = s ∧ (s ++ b :: rest).dropWhile p = b :: rest := by
  refine ⟨?_, ?_⟩
  · rw [List.takeWhile_append_of_pos hs, List.takeWhile_cons, hb]
    simp
  · rw [List.dropWhile_append_of_pos hs, List.dropWhile_cons, hb]
    rfl

/-- A hash is ASCII text without quotes. -/
theorem hashBytes_ascii (body : Bytes) : ∀ char ∈ (hashBytes lib body).toList,
    char.toNat < 128 ∧ char.toNat ≠ 0x22 := by
  intro char hchar
  simp only [hashBytes, String.toList_append, String.toList_ofList, List.mem_append] at hchar
  rcases hchar with hlabel | hhex
  · have hall : ("sha256:".toList.all fun c => decide (c.toNat < 128) && c.toNat != 0x22) = true := by
      decide
    simpa using List.all_eq_true.1 hall char hlabel
  · have hhex := hexEncode_hex _ char hhex
    simp only [isLowerHexChar, Bool.or_eq_true, Bool.and_eq_true, decide_eq_true_eq] at hhex
    have hval : char.toNat = char.val.toNat := rfl
    rcases hhex with ⟨hlow, hhigh⟩ | ⟨hlow, hhigh⟩
    · have hmin : 48 ≤ char.val.toNat := hlow
      have hmax : char.val.toNat ≤ 57 := hhigh
      omega
    · have hmin : 97 ≤ char.val.toNat := hlow
      have hmax : char.val.toNat ≤ 102 := hhigh
      omega

theorem sampleRead_payload {n : Nat} (body : Bytes) (s : DeclarationSection) :
    sampleRead (samplePayload n (hashBytes lib body) s)
      = some ((n : Int), hashBytes lib body, samplePayloadBody s) := by
  obtain ⟨afterRevision, hafterRevision⟩ : ∃ rest, bytes ",\"candidateHash\":\"" = 0x2c :: rest :=
    ⟨_, rfl⟩
  obtain ⟨afterHash, hafterHash⟩ : ∃ rest, bytes "\"," = 0x22 :: rest := ⟨_, rfl⟩
  have hrevision := takeWhile_until (p := isDigit) (s := bytes (Itoa n)) (b := 0x2c)
    (afterRevision ++ (bytes (hashBytes lib body) ++ (bytes "\"," ++ samplePayloadBody s)))
    (fun a ha => mem_bytes_Itoa ha) (by decide)
  have hquote : ∀ a ∈ bytes (hashBytes lib body), (a != 0x22) = true := by
    intro a ha
    rw [bne_iff_ne]
    rintro rfl
    obtain ⟨char, hchar, hcode⟩ := mem_bytes_ascii ha (by decide)
    exact (hashBytes_ascii body char hchar).2 hcode
  have hhash := takeWhile_until (p := (· != 0x22)) (s := bytes (hashBytes lib body)) (b := 0x22)
    (afterHash ++ samplePayloadBody s) hquote (by decide)
  rw [← List.cons_append, ← hafterRevision] at hrevision
  rw [← List.cons_append, ← hafterHash] at hhash
  unfold sampleRead samplePayload
  rw [dropPrefix_append]
  simp only [Option.bind_eq_bind, Option.bind_some]
  rw [hrevision.1, hrevision.2, dropPrefix_append]
  simp only [Option.bind_some]
  rw [hhash.1, hhash.2, dropPrefix_append]
  simp only [Option.bind_some]
  rw [digitsValue_Itoa, asciiText_bytes fun char hchar => (hashBytes_ascii body char hchar).1]
  rfl

/-- The payload decodes to what it says, for the four sections and for the soul. -/
theorem sample_decodes {n : Nat} (body : Bytes) {s : DeclarationSection} (hs : s ≠ .soul) :
    decodeDeclarationToolPayload sampleLibrary.DecodeSection (samplePayload n (hashBytes lib body) s)
      = some ⟨some (n : Int), hashBytes lib body, sampleSection⟩ := by
  have hbody : samplePayloadBody s = samplePayloadBody .identity := by
    cases s with
    | soul => exact absurd rfl hs
    | _ => rfl
  unfold decodeDeclarationToolPayload sampleLibrary
  dsimp only
  rw [sampleRead_payload]
  dsimp only
  rw [if_pos hbody]
  rfl

theorem sample_decodes_soul {n : Nat} (body : Bytes) :
    decodeDeclarationToolPayload sampleLibrary.DecodeSoul (samplePayload n (hashBytes lib body) .soul)
      = some {
        CandidateRevision := some (n : Int)
        CandidateHash := hashBytes lib body
        Section := sampleSoul
        SelfDescription := ⟨sampleText, "", "", "", "agent", ""⟩
        Capabilities := []
        Transparency := ⟨"", "", sampleText⟩ } := by
  unfold decodeDeclarationToolPayload sampleLibrary
  dsimp only
  rw [sampleRead_payload]
  dsimp only
  rw [if_pos rfl]
  rfl

/-! The text passes every gate. -/

theorem sampleText_trimmed : TrimSpace sampleText = sampleText := by decide

theorem sampleText_ne_empty : TrimSpace sampleText ≠ "" := by
  rw [sampleText_trimmed]
  decide

theorem sampleText_concrete : isConcreteRefusalField sampleText = true := by decide

theorem sampleSection_normal : normalizeFiveBodySection sampleSection = sampleSection := by
  decide

theorem sampleSoul_normal : normalizeSoulBody sampleSoul = sampleSoul := by decide

theorem sampleRefusals_valid : ValidateFiveBodyRefusals sampleSoul.Refusals = .ok () := by
  have hnormal : normalizeRefusals sampleSoul.Refusals = sampleSoul.Refusals :=
    congrArg FiveBodySoulBody.Refusals sampleSoul_normal
  unfold ValidateFiveBodyRefusals
  rw [hnormal]
  simp [sampleSoul, sampleRefusal, sampleText_concrete, fiveBodyRefusalsMinItems]

/-- The bodies once the given sections have been put. -/
def sampleBodies (completed : List DeclarationSection) : FiveBodyDeclaration where
  Identity := if .identity ∈ completed then sampleSection else .empty
  Philosophy := if .philosophy ∈ completed then sampleSection else .empty
  Discipline := if .discipline ∈ completed then sampleSection else .empty
  Boundaries := if .boundaries ∈ completed then sampleSection else .empty
  Soul := if .soul ∈ completed then sampleSoul else ⟨"", [], []⟩

theorem sampleBodies_all : sampleBodies declarationSectionOrder
    = ⟨sampleSection, sampleSection, sampleSection, sampleSection, sampleSoul⟩ := by rfl

theorem sampleBodies_normal : NormalizeFiveBodyDeclaration (sampleBodies declarationSectionOrder)
    = sampleBodies declarationSectionOrder := by
  rw [sampleBodies_all, NormalizeFiveBodyDeclaration, sampleSection_normal, sampleSoul_normal]

theorem sampleBodies_valid :
    ValidateFiveBodyDeclaration (sampleBodies declarationSectionOrder) = .ok () := by
  have hsection : TrimSpace sampleSection.Summary ≠ "" := sampleText_ne_empty
  have hsoul : TrimSpace sampleSoul.Summary ≠ "" := sampleText_ne_empty
  unfold ValidateFiveBodyDeclaration
  rw [sampleBodies_normal, sampleBodies_all]
  simp only [declarationSectionOrder, List.forM_eq_forM, List.forM_cons, List.forM_nil,
    validateDeclarationSection, if_neg hsection, if_neg hsoul, sampleRefusals_valid]
  rfl

/-- The candidate after the first `k` sections have been put. -/
structure SampleAt (k : Nat) (c : DeclarationCandidate) : Prop where
  valid : c.Valid sampleLibrary
  phase : c.Phase = .section
  revision : c.Revision = k
  turn : c.SourceTurnID = sampleTurnID
  completed : c.CompletedSections = declarationSectionOrder.take k
  current : c.CurrentSection = declarationSectionOrder[k]?
  records : c.ToolRecords.map (·.ToolCallHash)
    = (declarationSectionOrder.take k).map fun s => hashText sampleLibrary s.text
  bodies : c.FiveBodies = sampleBodies (declarationSectionOrder.take k)
  established : c.EstablishedAt = sampleTime
  model : c.Model = "model"

theorem sampleBinding_complete : sampleBinding.Complete :=
  ⟨by decide, by decide, by decide, by decide, by decide,
    by decide⟩

theorem sampleTurnID_trimmed : TrimSpace sampleTurnID = sampleTurnID := by decide

theorem sampleAt_new : SampleAt 0 (sampleBinding.candidate sampleLibrary sampleTime) where
  valid := DeclarationCandidateBinding.candidate_valid sampleBinding_complete (by decide)
  phase := rfl
  revision := rfl
  turn := sampleTurnID_trimmed
  completed := rfl
  current := rfl
  records := rfl
  bodies := rfl
  established := rfl
  model := by
    show TrimSpace "model" = "model"
    decide

theorem DeclarationSectionForTool_tool (s : DeclarationSection) :
    DeclarationSectionForTool (DeclarationToolForSection s) = some s := by
  cases s <;> decide

theorem sectionText_trimmed (s : DeclarationSection) : TrimSpace s.text = s.text := by
  cases s <;> decide

theorem sectionText_injective : Function.Injective DeclarationSection.text := by
  intro s t h
  revert h
  cases s <;> cases t <;> decide

theorem sampleAt_preflight {k : Nat} {s : DeclarationSection} (hc : SampleAt k c)
    (hs : declarationSectionOrder[k]? = some s) :
    ∃ p, preflightDeclarationTool sampleLibrary c (sampleRequest c s) = .ok p ∧ p.section_ = s ∧
      p.replay = none ∧ p.callHash = hashText sampleLibrary s.text := by
  have hk : k < 5 := (List.getElem?_eq_some_iff.1 hs).1
  have hid : TrimSpace (sampleRequest c s).ToolCallID = s.text := sectionText_trimmed s
  have hturn : TrimSpace (sampleRequest c s).SourceTurnID = c.SourceTurnID :=
    sampleTurnID_trimmed.trans hc.turn.symm
  have hfresh : ∀ r ∈ c.ToolRecords,
      r.ToolCallHash ≠ hashText sampleLibrary (TrimSpace (sampleRequest c s).ToolCallID) := by
    intro r hr h
    rw [hid] at h
    have hmem : r.ToolCallHash ∈ c.ToolRecords.map (·.ToolCallHash) := List.mem_map_of_mem hr
    rw [hc.records] at hmem
    obtain ⟨t, ht, htext⟩ := List.mem_map.1 hmem
    have hbytes := hashBytes_injective sampleLibrary_injective (htext.trans h)
    obtain rfl := sectionText_injective (bytes_injective hbytes)
    -- a section is not among the ones before it
    interval_cases k <;>
      · obtain rfl := Option.some.inj hs
        revert ht
        decide
  have hlength : c.ToolRecords.length < MaxDeclarationToolRecords := by
    have h := congrArg List.length hc.records
    rw [List.length_map, List.length_map, List.length_take] at h
    unfold MaxDeclarationToolRecords
    omega
  have hne : TrimSpace (sampleRequest c s).ToolCallID ≠ "" := by
    rw [hid]
    cases s <;> decide
  have hturn_ne : c.SourceTurnID ≠ "" := by
    rw [hc.turn]
    decide
  refine ⟨_, preflight_accepted (DeclarationSectionForTool_tool s) hne hturn hturn_ne hfresh hlength
    hc.phase (hc.current.trans hs) rfl rfl, rfl, rfl, congrArg (hashText sampleLibrary) hid⟩

theorem sampleAt_payload {k : Nat} {s : DeclarationSection} (hc : SampleAt k c) (hsoul : s ≠ .soul) :
    applyDeclarationToolPayload sampleLibrary c s (sampleRequest c s)
      = .ok (setCandidateSection c s sampleSection) := by
  have hbounds : declarationSectionPayloadBoundsIssue s sampleSection = none := by
    unfold declarationSectionPayloadBoundsIssue
    dsimp only
    rw [if_neg (by decide), if_neg (by decide), if_neg (by decide)]
  have hvalid : validateDeclarationSection s (setCandidateSection c s sampleSection).FiveBodies
      = .ok () := by
    have hsummary : TrimSpace sampleSection.Summary ≠ "" := sampleText_ne_empty
    unfold validateDeclarationSection
    cases s with
    | soul => exact absurd rfl hsoul
    | _ =>
        dsimp only [setCandidateSection]
        exact if_neg hsummary
  have hpayload : (sampleRequest c s).Payload
      = samplePayload (k : Nat) (hashBytes sampleLibrary c.CanonicalJSON) s := by
    unfold sampleRequest
    rw [hc.revision, hc.valid.hash]
  have hbinding : declarationPayloadBindingIssue s (some (k : Int))
      (hashBytes sampleLibrary c.CanonicalJSON) (sampleRequest c s) = none := by
    unfold declarationPayloadBindingIssue sampleRequest
    dsimp only
    rw [hc.revision, hc.valid.hash, if_neg (not_not.2 rfl), if_neg (not_not.2 rfl)]
  unfold applyDeclarationToolPayload
  rw [if_neg hsoul, hpayload, sample_decodes _ hsoul]
  dsimp only
  rw [hbinding, hbounds]
  dsimp only
  rw [sampleSection_normal, hvalid]

theorem sampleBodies_put {k : Nat} {s : DeclarationSection} (hs : declarationSectionOrder[k]? = some s)
    (hsoul : s ≠ .soul) (hc : c.FiveBodies = sampleBodies (declarationSectionOrder.take k)) :
    (setCandidateSection c s sampleSection).FiveBodies
      = sampleBodies (declarationSectionOrder.take (k + 1)) := by
  have hk : k < 5 := (List.getElem?_eq_some_iff.1 hs).1
  interval_cases k <;> obtain rfl := Option.some.inj hs
  · rw [setCandidateSection, hc]
    rfl
  · rw [setCandidateSection, hc]
    rfl
  · rw [setCandidateSection, hc]
    rfl
  · rw [setCandidateSection, hc]
    rfl
  · exact absurd rfl hsoul

/-- The first four calls. -/
theorem sampleAt_step {k : Nat} {s : DeclarationSection} (hc : SampleAt k c) (hk : k < 4)
    (hs : declarationSectionOrder[k]? = some s) :
    ∃ d result, ApplyDeclarationTool sampleLibrary c (sampleRequest c s) sampleTime
      = .ok (some d, result) ∧ result.Idempotent = false ∧ SampleAt (k + 1) d := by
  obtain ⟨p, hp, rfl, hnone, hcall⟩ := sampleAt_preflight hc hs
  have hsoul : p.section_ ≠ .soul := by
    intro h
    rw [h] at hs
    interval_cases k <;> cases hs
  obtain ⟨hcompleted, hnext⟩ := completedWith_take hs
  rw [← hc.completed] at hcompleted
  obtain ⟨bodies, hbodies⟩ := setCandidateSection_eq (c := c) p.section_ sampleSection
  have hcount : int64 (c.Revision + 1) = (k + 1 : Nat) := by
    rw [hc.revision]
    refine (int64_eq ?_ ?_).trans ?_ <;> omega
  have hrevision : c.Revision < int64 (c.Revision + 1) := by
    rw [hcount, hc.revision]
    omega
  have hu := sampleAt_payload hc hsoul
  rw [hbodies] at hu
  have hnextSome : (nextAfter (completedWith c.CompletedSections p.section_)).isSome := by
    rw [hcompleted, hnext]
    interval_cases k <;> rfl
  have hlength : (completedWith c.CompletedSections p.section_).length
      ≠ declarationSectionOrder.length := by
    rw [hcompleted]
    interval_cases k <;> decide
  obtain ⟨review, happly⟩ := tool_accepted hc.valid hp hnone hrevision hu sampleTime_set
    (canonicalJSON_incomplete (by
      rw [completeSection_eq]
      exact hlength)) (fun h => by
      unfold withSection at h
      rw [completeSection_eq] at h
      dsimp only at h
      rw [hnextSome] at h
      cases h)
  refine ⟨_, _, happly, rfl, ?_⟩
  have hvalid := stepCandidate_valid hc.valid (.tool (sampleRequest c p.section_) sampleTime)
  simp only [stepCandidate, DeclarationOp.next, happly, Option.getD_some] at hvalid
  unfold withSection at hvalid ⊢
  rw [completeSection_eq] at hvalid ⊢
  exact {
    valid := hvalid
    phase := if_pos hnextSome
    revision := hcount
    turn := hc.turn
    completed := hcompleted
    current := (congrArg nextAfter hcompleted).trans hnext
    records := by
      dsimp only
      rw [List.map_append, hc.records, List.take_add_one, hs, List.map_append]
      exact congrArg (_ ++ [·]) hcall
    bodies := (congrArg DeclarationCandidate.FiveBodies hbodies).symm.trans
      (sampleBodies_put hs hsoul hc.bodies)
    established := hc.established
    model := hc.model }

/-! The last call brings the candidate to its review. -/

def sampleDescription : SelfDescriptionV2 :=
  ⟨sampleText, sampleText, sampleText, sampleText, "agent", "model"⟩

def sampleTransparency : DeclarationTransparency := ⟨"", "", sampleText⟩

def sampleDocument : CanonicalProducedDeclarations where
  SchemaVersion := DeclarationSchemaVersionV2
  GuidanceVersion := GuidanceVersionV2
  FiveBodies := sampleBodies declarationSectionOrder
  SelfDescription := sampleDescription
  Capabilities := []
  Boundaries := FiveBodyBoundariesDeterministic sampleLibrary sampleSoul.Refusals sampleTime
  Transparency := sampleTransparency
  AdversarialReview := some passedReview

theorem sampleDescription_valid : sampleDescription.Validate = .ok () := by
  have hpurpose : ¬ (TrimSpace sampleText = "" ∨ len (TrimSpace sampleText) < 10) := by
    rw [sampleText_trimmed]
    decide
  have hauthor : ToLower (TrimSpace "agent") ∈ ["agent", "principal"] := by decide
  show (if TrimSpace sampleText = "" ∨ len (TrimSpace sampleText) < 10 then _ else
    if ToLower (TrimSpace "agent") ∈ ["agent", "principal"] then _ else _) = _
  rw [if_neg hpurpose, if_pos hauthor]

theorem sampleTime_readable : validateRFC3339 sampleTime.UTC.FormatRFC3339 = .ok () := by
  decide

theorem sampleAt_soul (hc : SampleAt 4 c) :
    applyDeclarationToolPayload sampleLibrary c .soul (sampleRequest c .soul) = .ok { c with
      FiveBodies := sampleBodies declarationSectionOrder
      SelfDescription := sampleDescription
      Transparency := sampleTransparency
      Capabilities := some [] } := by
  have hbodies : { c.FiveBodies with Soul := normalizeSoulBody sampleSoul }
      = sampleBodies declarationSectionOrder := by
    rw [hc.bodies, sampleSoul_normal]
    rfl
  have hdescription : normalizeCandidateSelfDescription ⟨sampleText, "", "", "", "agent", ""⟩
      (sampleBodies declarationSectionOrder) c.Model = sampleDescription := by
    rw [hc.model]
    decide
  have htransparency : normalizeCandidateTransparency ⟨"", "", sampleText⟩ = sampleTransparency := by
    decide
  have hsatellites : validateCandidateSoulSatellites .soul [] sampleDescription sampleTransparency
      = (some [], []) := by
    have hnotice : TrimSpace sampleTransparency.SelfDeclaredNotice ≠ "" := sampleText_ne_empty
    unfold validateCandidateSoulSatellites
    rw [sampleDescription_valid, if_neg hnotice]
    rfl
  have hvalid : validateDeclarationSection .soul (sampleBodies declarationSectionOrder) = .ok () := by
    have hsoul : TrimSpace (sampleBodies declarationSectionOrder).Soul.Summary ≠ "" :=
      sampleText_ne_empty
    unfold validateDeclarationSection
    dsimp only
    rw [if_neg hsoul]
    exact sampleRefusals_valid
  have hbounds : declarationSoulPayloadBoundsIssue sampleSoul = none := by decide
  have hpayload : (sampleRequest c .soul).Payload
      = samplePayload (4 : Nat) (hashBytes sampleLibrary c.CanonicalJSON) .soul := by
    unfold sampleRequest
    rw [hc.revision, hc.valid.hash]
  have hbinding : declarationPayloadBindingIssue .soul (some (4 : Nat))
      (hashBytes sampleLibrary c.CanonicalJSON) (sampleRequest c .soul) = none := by
    unfold declarationPayloadBindingIssue sampleRequest
    dsimp only
    rw [hc.revision, hc.valid.hash, if_neg (not_not.2 rfl), if_neg (not_not.2 rfl)]
  have hdecode := @sample_decodes_soul sampleLibrary 4 c.CanonicalJSON
  rw [← hpayload] at hdecode
  exact soulPayload_accepted hdecode hbinding hbounds hbodies hdescription htransparency hsatellites
    hvalid

/-- The candidate in front of its owner. -/
structure SampleReviewed (c : DeclarationCandidate) (review : DeclarationReviewCheckpoint) : Prop where
  valid : c.Valid sampleLibrary
  phase : c.Phase = .review
  revision : c.Revision = 5
  turn : c.SourceTurnID = sampleTurnID
  reviewed : c.Review = some review

theorem SampleReviewed.names {review : DeclarationReviewCheckpoint}
    {action : DeclarationCandidateAction} (h : SampleReviewed c review)
    (hrevision : action.CandidateRevision = c.Revision)
    (hhash : TrimSpace action.CandidateHash = TrimSpace c.CandidateHash)
    (hreviewHash : action.ReviewHash = review.ReviewHash) : NamesReview c review action := by
  have hok := h.valid.review review h.reviewed
  refine ⟨h.phase, h.reviewed, hrevision, ?_, ?_⟩
  · rw [hhash, h.valid.hash, hashBytes_trimmed]
  · rw [hreviewHash, hok.reviewHash, hashBytes_trimmed]

theorem length_hashBytes (body : Bytes) :
    (bytes (hashBytes sampleLibrary body)).length = 7 + 2 * body.length := by
  have hhex : (hexEncode (sampleLibrary.Sum256 body)).length = 2 * body.length := hexEncode_length _
  rw [length_bytes]
  simp only [hashBytes, String.toList_append, String.toList_ofList, List.map_append, List.sum_append]
  rw [sum_utf8Size_of_hex (hexEncode_hex _), hhex]
  rfl

/-- What a review adds to the hash and the bytes of its candidate. -/
theorem length_ownerReviewText : (ownerReviewText c).length = 325 + (bytes (Itoa c.Revision)).length
    + (bytes c.CandidateHash).length + (bytes (Itoa c.CanonicalJSON.length)).length
    + c.CanonicalJSON.length := by
  have htitle : (bytes "Hosted Genesis owner review\n\n").length = 29 := by decide
  have hnote : (bytes ("Review the exact canonical JSON below. Structural affirmation binds this review text, "
      ++ "these canonical bytes, and the candidate revision.\n\n")).length = 138 := by decide +kernel
  have hrevision : (bytes "Candidate revision: ").length = 20 := by decide
  have hhash : (bytes "\nCandidate hash: ").length = 17 := by decide
  have hnewline : (bytes "\n").length = 1 := by decide
  have hlabel : (bytes declarationOwnerReviewCanonicalLength).length = 28 := by decide
  have hbegin : (bytes ("\n" ++ declarationOwnerReviewCanonicalBegin ++ "\n")).length = 47 := by
    decide
  have hend : (bytes ("\n" ++ declarationOwnerReviewCanonicalEnd ++ "\n")).length = 45 := by
    decide
  have hline : (bytes ("Candidate revision: " ++ Itoa c.Revision ++ "\nCandidate hash: "
      ++ c.CandidateHash ++ "\n")).length
      = 38 + (bytes (Itoa c.Revision)).length + (bytes c.CandidateHash).length := by
    rw [bytes_append, bytes_append, bytes_append, bytes_append, List.length_append, List.length_append,
      List.length_append, List.length_append, hrevision, hhash, hnewline]
    omega
  unfold ownerReviewText ownerReviewHeader
  rw [List.length_append, List.length_append, List.length_append, List.length_append,
    List.length_append, List.length_append, htitle, hnote, hline, bytes_append, List.length_append,
    hlabel, hbegin, hend]
  omega

theorem sampleDocument_length : sampleDocument.Marshal.length = 2900 := by decide +kernel

theorem sampleReview_ready {d : DeclarationCandidate}
    (hcompleted : d.CompletedSections = declarationSectionOrder)
    (hschema : d.SchemaVersion = DeclarationSchemaVersionV2)
    (hguidance : d.GuidanceVersion = GuidanceVersionV2)
    (hbodies : d.FiveBodies = sampleBodies declarationSectionOrder)
    (hdescription : d.SelfDescription = sampleDescription) (hcapabilities : d.Capabilities = some [])
    (htransparency : d.Transparency = sampleTransparency) (hestablished : d.EstablishedAt = sampleTime)
    (hrevision : d.Revision = 5) :
    d.canonicalJSON sampleLibrary = .ok sampleDocument.Marshal ∧
    ValidateDeclarationCandidateComplete sampleLibrary d = .ok () ∧
    (d.CanonicalJSON = sampleDocument.Marshal →
      d.CandidateHash = hashBytes sampleLibrary sampleDocument.Marshal →
      Bytes.RuneCount (ownerReviewText d) ≤ MaxDeclarationOwnerReviewRunes) := by
  refine ⟨?_, ?_, fun hjson hhash => ?_⟩
  · have hdocument : d.document sampleLibrary (some passedReview) = sampleDocument := by
      unfold DeclarationCandidate.document
      rw [hschema, hguidance, hbodies, hdescription, hcapabilities, htransparency, hestablished]
      rfl
    have hlength : d.CompletedSections.length = declarationSectionOrder.length := by rw [hcompleted]
    rw [canonicalJSON_complete hlength (by rw [hbodies, sampleBodies_normal]; exact sampleBodies_valid),
      hdocument]
  · have hrows : (FiveBodyBoundariesDeterministic sampleLibrary
        (sampleBodies declarationSectionOrder).Soul.Refusals sampleTime).length = 3 := by
      unfold FiveBodyBoundariesDeterministic
      have hnormal : normalizeRefusals (sampleBodies declarationSectionOrder).Soul.Refusals
          = sampleSoul.Refusals := congrArg FiveBodySoulBody.Refusals sampleSoul_normal
      rw [List.length_mapIdx, hnormal]
      rfl
    have hnotice : TrimSpace sampleTransparency.SelfDeclaredNotice ≠ "" := sampleText_ne_empty
    unfold ValidateDeclarationCandidateComplete
    rw [hcompleted, hcapabilities, hbodies, hdescription, htransparency, hestablished,
      sampleBodies_valid, sampleDescription_valid, if_neg (not_not.2 rfl)]
    dsimp only
    rw [if_neg hnotice, hrows, boundaries_valid _ sampleTime_readable]
    rfl
  · refine (Bytes.RuneCount_le _).trans ?_
    have hhashLength : (bytes d.CandidateHash).length = 7 + 2 * sampleDocument.Marshal.length := by
      rw [hhash]
      exact length_hashBytes _
    have hfive : (bytes (Itoa 5)).length = 1 := by decide
    have hlength : (bytes (Itoa (2900 : Nat))).length = 4 := by decide
    rw [length_ownerReviewText, hrevision, hjson, hhashLength, sampleDocument_length, hfive, hlength]
    decide

/-- The fifth call. -/
theorem sample_reviewed (hc : SampleAt 4 c) :
    ∃ d result review, ApplyDeclarationTool sampleLibrary c (sampleRequest c .soul) sampleTime
      = .ok (some d, result) ∧ result.Idempotent = false ∧ SampleReviewed d review := by
  obtain ⟨p, hp, hsection, hnone, -⟩ := sampleAt_preflight hc rfl
  have hcompleted : completedWith c.CompletedSections .soul = declarationSectionOrder := by
    rw [hc.completed]
    decide
  have hcount : int64 (c.Revision + 1) = 5 := by
    rw [hc.revision]
    decide
  have hrevision : c.Revision < int64 (c.Revision + 1) := by
    rw [hcount, hc.revision]
    decide
  have hu := sampleAt_soul hc
  set u : DeclarationCandidate := { c with
    FiveBodies := sampleBodies declarationSectionOrder
    SelfDescription := sampleDescription
    Transparency := sampleTransparency
    Capabilities := some [] } with hudef
  have heq : u.withSection sampleLibrary .soul sampleTime sampleDocument.Marshal = { c with
      Revision := 5
      Review := none
      Affirmation := none
      UpdatedAt := sampleTime
      CompletedSections := declarationSectionOrder
      SectionHashes := Function.update c.SectionHashes .soul
        (hashBytes sampleLibrary (u.sectionBytes .soul))
      CurrentSection := none
      Phase := .review
      FiveBodies := sampleBodies declarationSectionOrder
      SelfDescription := sampleDescription
      Transparency := sampleTransparency
      Capabilities := some []
      CanonicalJSON := sampleDocument.Marshal
      CandidateHash := hashBytes sampleLibrary sampleDocument.Marshal } := by
    have hnext : nextAfter declarationSectionOrder = none := by decide
    have hcount' : int64 (u.Revision + 1) = 5 := hcount
    have hcompleted' : completedWith u.CompletedSections .soul = declarationSectionOrder := hcompleted
    rw [withSection, completeSection_eq, hcompleted', hcount', hnext]
    rfl
  have hdoc : SameDocument (u.withSection sampleLibrary .soul sampleTime sampleDocument.Marshal)
      (u.completeSection sampleLibrary .soul sampleTime) := ⟨rfl, rfl, rfl, rfl, rfl, rfl, rfl, rfl⟩
  have hready := sampleReview_ready
    (d := u.withSection sampleLibrary .soul sampleTime sampleDocument.Marshal) (by rw [heq])
    (by rw [heq]; exact hc.valid.schema) (by rw [heq]; exact hc.valid.guidance) (by rw [heq])
    (by rw [heq]) (by rw [heq]) (by rw [heq]) (by rw [heq]; exact hc.established) (by rw [heq])
  obtain ⟨review, happly⟩ := tool_accepted hc.valid hp hnone hrevision (by rw [hsection]; exact hu) sampleTime_set
    (by rw [hsection]; exact hdoc.canonicalJSON.trans hready.1)
    (by
      rw [hsection]
      exact fun _ => ⟨hready.2.1, hready.2.2 rfl rfl, rfl⟩)
  have hvalid := stepCandidate_valid hc.valid (.tool (sampleRequest c .soul) sampleTime)
  simp only [stepCandidate, DeclarationOp.next, happly, Option.getD_some, hsection, heq] at hvalid
  rw [hsection, heq] at happly
  obtain ⟨r, hr⟩ := Option.isSome_iff_exists.1 hvalid.phase.2.2.1
  exact ⟨_, _, r, happly, rfl, hvalid, rfl, rfl, hc.turn, hr⟩

/-- **The sample comes to its review** by five calls, the first of which puts the identity. -/
theorem sample_run :
    ∃ (c₀ : DeclarationCandidate) (request : DeclarationToolRequest) (c₁ : DeclarationCandidate)
      (result : DeclarationToolResult) (rest : List DeclarationOp)
      (review : DeclarationReviewCheckpoint),
      NewDeclarationCandidate sampleLibrary sampleBinding sampleTime = .ok c₀ ∧
      ApplyDeclarationTool sampleLibrary c₀ request sampleTime = .ok (some c₁, result) ∧
      result.Idempotent = false ∧ TrimSpace request.SourceTurnID = sampleTurnID ∧
      (∀ op ∈ rest, ∃ request now, op = .tool request now) ∧
      SampleReviewed (rest.foldl (stepCandidate sampleLibrary) c₁) review := by
  obtain ⟨c₁, result, h₁, hnew, at₁⟩ := sampleAt_step sampleAt_new (by decide) rfl
  obtain ⟨c₂, result₂, h₂, -, at₂⟩ := sampleAt_step at₁ (by decide) rfl
  obtain ⟨c₃, result₃, h₃, -, at₃⟩ := sampleAt_step at₂ (by decide) rfl
  obtain ⟨c₄, result₄, h₄, -, at₄⟩ := sampleAt_step at₃ (by decide) rfl
  obtain ⟨c₅, result₅, review, h₅, -, hreviewed⟩ := sample_reviewed at₄
  have hstep : ∀ {c d : DeclarationCandidate} {request : DeclarationToolRequest}
      {result : DeclarationToolResult},
      ApplyDeclarationTool sampleLibrary c request sampleTime = .ok (some d, result) →
      stepCandidate sampleLibrary c (.tool request sampleTime) = d := by
    intro c d request result h
    simp only [stepCandidate, DeclarationOp.next, h, Option.getD_some]
  refine ⟨_, _, c₁, result, [.tool (sampleRequest c₁ .philosophy) sampleTime,
    .tool (sampleRequest c₂ .discipline) sampleTime, .tool (sampleRequest c₃ .boundaries) sampleTime,
    .tool (sampleRequest c₄ .soul) sampleTime], review,
    new_accepted sampleBinding_complete sampleTime_set, h₁, hnew, sampleTurnID_trimmed, ?_, ?_⟩
  · intro op hop
    simp only [List.mem_cons, List.not_mem_nil, or_false] at hop
    rcases hop with rfl | rfl | rfl | rfl <;> exact ⟨_, _, rfl⟩
  · rw [List.foldl_cons, List.foldl_cons, List.foldl_cons, List.foldl_cons, List.foldl_nil, hstep h₂,
      hstep h₃, hstep h₄, hstep h₅]
    exact hreviewed

end LesserHost.HostedGenesis
