import LesserHost.HostedGenesis.CandidateOps

set_option autoImplicit false

/-! # Valid candidates

`Valid` is what the validator accepts, said once; `Validate_ok` is the equivalence. Everything later is
read off the fields: a candidate that has come to its review has all five sections, its hash stands
for its bytes, and its review shows them. -/

namespace LesserHost.HostedGenesis

open LesserHost.Go

/-! ## Successful checks -/

section Except

variable {ε ε' α β : Type}

theorem bind_ok {x : Except ε α} {f : α → Except ε β} {b : β} :
    (x >>= f) = .ok b ↔ ∃ a, x = .ok a ∧ f a = .ok b := by
  cases x with
  | error e => constructor <;> (intro h; simp [bind, Except.bind] at h)
  | ok a => simp [bind, Except.bind]

/-- One check and then the rest. -/
theorem seq_ok {x : Except ε Unit} {f : Unit → Except ε β} {b : β} :
    (x >>= f) = .ok b ↔ x = .ok () ∧ f () = .ok b := by
  rw [bind_ok]
  exact ⟨fun ⟨_, hx, hf⟩ => ⟨hx, hf⟩, fun h => ⟨(), h⟩⟩

theorem pure_ok {a b : α} : (pure a : Except ε α) = .ok b ↔ a = b := by
  simp [pure, Except.pure]

theorem mapError_ok {x : Except ε α} {f : ε → ε'} {a : α} :
    x.mapError f = .ok a ↔ x = .ok a := by
  cases x <;> simp [Except.mapError]

theorem check_ok {ok : Bool} {text : String} : check ok text = .ok () ↔ ok = true := by
  unfold check
  split_ifs with h
  · exact iff_of_true rfl h
  · exact iff_of_false (by simp) h

end Except

variable {lib : Library} {c : DeclarationCandidate}

namespace DeclarationCandidate

/-! ## Sections -/

/-- The five sections stand for a list without repetition. -/
theorem mem_of_nodup_of_length {sections : List DeclarationSection} (h : sections.Nodup)
    (hlength : sections.length = declarationSectionOrder.length) (s : DeclarationSection) :
    s ∈ sections := by
  have hsub : sections ⊆ declarationSectionOrder := by
    intro t _
    cases t <;> decide
  have hperm : sections.Perm declarationSectionOrder :=
    (List.subperm_of_subset h hsub).perm_of_length_le hlength.ge
  rw [hperm.mem_iff]
  cases s <;> decide

/-- What the loop over the completed sections accepts. -/
theorem completedLoop_ok {index : Nat} {completed sections : List DeclarationSection} :
    c.completedLoop lib index completed sections = .ok () ↔
      sections.Nodup ∧ (∀ s ∈ sections, s ∉ completed) ∧
      (c.CompletedSections.length = declarationSectionOrder.length ∨
        ∀ i s, sections[i]? = some s → declarationSectionOrder[index + i]? = some s) ∧
      ∀ s ∈ sections, c.SectionHashes s = hashBytes lib (c.sectionBytes s) := by
  induction sections generalizing index completed with
  | nil => simp [completedLoop]
  | cons s rest ih =>
      have hcons : ∀ t, t ∉ s :: completed ↔ t ≠ s ∧ t ∉ completed := by simp
      simp only [completedLoop, seq_ok, check_ok, ih, Bool.not_eq_true', List.nodup_cons,
        List.forall_mem_cons, Bool.or_eq_true, beq_iff_eq, List.contains_eq_mem,
        decide_eq_false_iff_not, hcons]
      constructor
      · rintro ⟨hs, horder, hhash, hnodup, hrest, horders, hhashes⟩
        refine ⟨⟨fun hmem => (hrest s hmem).1 rfl, hnodup⟩, ⟨hs, fun t ht => (hrest t ht).2⟩, ?_,
          hhash, hhashes⟩
        rcases horder with hall | horder
        · exact Or.inl hall
        · refine horders.imp_right fun horders i t hi => ?_
          cases i with
          | zero => exact Option.some.inj hi ▸ horder
          | succ i =>
              have h := horders i t hi
              rwa [Nat.add_right_comm] at h
      · rintro ⟨⟨hs, hnodup⟩, ⟨hnew, hrest⟩, horders, hhash, hhashes⟩
        refine ⟨hnew, horders.imp_right fun h => h 0 s rfl, hhash, hnodup,
          fun t ht => ⟨fun heq => hs (heq ▸ ht), hrest t ht⟩, ?_, hhashes⟩
        refine horders.imp_right fun horders i t hi => ?_
        have h := horders (i + 1) t hi
        rwa [← Nat.add_assoc, Nat.add_right_comm] at h

/-! ## Tool records -/

/-- What the validator asks of a tool record. -/
structure RecordOk (c : DeclarationCandidate) (r : DeclarationToolRecord) : Prop where
  callHash : r.ToolCallHash ≠ ""
  inputHash : r.InputHash ≠ ""
  turn : r.SourceTurnID ≠ ""
  positive : 0 < r.Revision
  revision : r.Revision ≤ c.Revision
  sectionHash : r.SectionHash ≠ ""
  candidateHash : r.CandidateHash ≠ ""
  tool : DeclarationSectionForTool r.ToolName = some r.Section

theorem recordsLoop_ok {seenCalls : List String} {records : List DeclarationToolRecord} :
    c.recordsLoop seenCalls records = .ok () ↔
      (∀ r ∈ records, c.RecordOk r) ∧ (records.map (·.ToolCallHash)).Nodup ∧
      ∀ r ∈ records, r.ToolCallHash ∉ seenCalls := by
  induction records generalizing seenCalls with
  | nil => simp [recordsLoop]
  | cons r rest ih =>
      have hcons : ∀ h, h ∉ r.ToolCallHash :: seenCalls ↔ h ≠ r.ToolCallHash ∧ h ∉ seenCalls := by simp
      simp only [recordsLoop, seq_ok, check_ok, ih, Bool.and_eq_true, bne_iff_ne, decide_eq_true_eq,
        Bool.not_eq_true', beq_iff_eq, List.contains_eq_mem, decide_eq_false_iff_not,
        List.forall_mem_cons, List.map_cons, List.nodup_cons, List.mem_map, hcons, not_exists, not_and]
      constructor
      · rintro ⟨⟨⟨⟨⟨⟨⟨⟨h₁, h₂⟩, h₃⟩, h₄⟩, h₅⟩, h₆⟩, h₇⟩, hnew⟩, htool, hall, hnodup, hrest⟩
        exact ⟨⟨⟨h₁, h₂, h₃, h₄, h₅, h₆, h₇, htool⟩, hall⟩, ⟨fun x hx => (hrest x hx).1, hnodup⟩, hnew,
          fun x hx => (hrest x hx).2⟩
      · rintro ⟨⟨h, hall⟩, ⟨hfresh, hnodup⟩, hnew, hrest⟩
        exact ⟨⟨⟨⟨⟨⟨⟨⟨h.callHash, h.inputHash⟩, h.turn⟩, h.positive⟩, h.revision⟩, h.sectionHash⟩,
          h.candidateHash⟩, hnew⟩, h.tool, hall, hnodup, fun x hx => ⟨hfresh x hx, hrest x hx⟩⟩

/-! ## Review and affirmation -/

/-- The review is about this candidate, and shows its bytes. -/
structure ReviewOk (lib : Library) (c : DeclarationCandidate) (review : DeclarationReviewCheckpoint) :
    Prop where
  renderer : review.RendererVersion = DeclarationReviewRendererV1
  schema : review.SchemaVersion = c.SchemaVersion
  guidance : review.GuidanceVersion = c.GuidanceVersion
  turn : review.SourceTurnID ≠ ""
  reviewedAt : review.ReviewedAt.IsZero = false
  revision : review.CandidateRevision = c.Revision
  candidateHash : review.CandidateHash = c.CandidateHash
  reviewHash : review.ReviewHash = hashBytes lib review.ReviewText
  recovered : RecoverDeclarationOwnerReviewCanonicalJSON lib review.ReviewText = .ok c.CanonicalJSON
  rendered : ∃ r, RenderDeclarationOwnerReview lib c review.SourceTurnID review.ReviewedAt = .ok r ∧
    r.ReviewText = review.ReviewText ∧ r.ReviewHash = review.ReviewHash

theorem validateReviewBinding_ok :
    c.validateReviewBinding lib = .ok () ↔ ∀ review, c.Review = some review → c.ReviewOk lib review := by
  unfold validateReviewBinding
  cases hreview : c.Review with
  | none => simp
  | some review =>
      simp only [seq_ok, check_ok, Bool.and_eq_true, beq_iff_eq, bne_iff_ne, Bool.not_eq_true', Option.some.injEq, forall_eq']
      constructor
      · rintro ⟨⟨⟨⟨⟨⟨⟨⟨h₁, h₂⟩, h₃⟩, h₄⟩, h₅⟩, h₆⟩, h₇⟩, h₈⟩, hrest⟩
        cases hrecover : RecoverDeclarationOwnerReviewCanonicalJSON lib review.ReviewText with
        | error e =>
            rw [hrecover] at hrest
            cases hrest
        | ok body =>
            simp only [hrecover, seq_ok, check_ok, beq_iff_eq] at hrest
            obtain ⟨rfl, hrender⟩ := hrest
            cases hr : RenderDeclarationOwnerReview lib c review.SourceTurnID review.ReviewedAt with
            | error e =>
                rw [hr] at hrender
                cases hrender
            | ok r =>
                rw [hr, check_ok, Bool.and_eq_true, beq_iff_eq, beq_iff_eq] at hrender
                exact ⟨h₁, h₂, h₃, h₄, h₅, h₆, h₇, h₈, hrecover, r, hr, hrender⟩
      · intro h
        obtain ⟨r, hr, htext, hhash⟩ := h.rendered
        simp only [h.recovered, hr, seq_ok, check_ok, beq_iff_eq, Bool.and_eq_true]
        exact ⟨⟨⟨⟨⟨⟨⟨⟨h.renderer, h.schema⟩, h.guidance⟩, h.turn⟩, h.reviewedAt⟩, h.revision⟩,
          h.candidateHash⟩, h.reviewHash⟩, trivial, htext, hhash⟩

/-- The affirmation is about this candidate and its review. -/
structure AffirmationOk (c : DeclarationCandidate) (a : DeclarationAffirmationCheckpoint) : Prop where
  turn : a.SourceTurnID ≠ ""
  affirmedAt : a.AffirmedAt.IsZero = false
  revision : a.CandidateRevision = c.Revision
  candidateHash : a.CandidateHash = c.CandidateHash
  reviewHash : ∃ review, c.Review = some review ∧ a.ReviewHash = review.ReviewHash

theorem validateAffirmationBinding_ok :
    c.validateAffirmationBinding = .ok () ↔ ∀ a, c.Affirmation = some a → c.AffirmationOk a := by
  unfold validateAffirmationBinding
  cases c.Affirmation with
  | none => simp
  | some a =>
      rw [check_ok]
      simp only [Option.some.injEq, forall_eq']
      cases hreview : c.Review with
      | none =>
          refine iff_of_false Bool.false_ne_true fun h => ?_
          obtain ⟨review, hr, -⟩ := h.reviewHash
          rw [hreview] at hr
          cases hr
      | some review =>
          simp only [Bool.and_eq_true, beq_iff_eq, bne_iff_ne, Bool.not_eq_true']
          constructor
          · rintro ⟨⟨⟨⟨h₁, h₂⟩, h₃⟩, h₄⟩, h₅⟩
            exact ⟨h₁, h₂, h₃, h₄, review, hreview, h₅⟩
          · intro h
            obtain ⟨review', hr, hhash⟩ := h.reviewHash
            rw [hreview] at hr
            cases hr
            exact ⟨⟨⟨⟨h.turn, h.affirmedAt⟩, h.revision⟩, h.candidateHash⟩, hhash⟩

/-! ## Phases -/

/-- All five sections are complete. -/
def Complete (c : DeclarationCandidate) : Prop :=
  c.CompletedSections.length = declarationSectionOrder.length

/-- What belongs to each phase. -/
def PhaseOk (c : DeclarationCandidate) : Prop :=
  match c.Phase with
  | .section => c.CurrentSection.isSome ∧ c.Review = none ∧ c.Affirmation = none ∧
      (c.Complete ∨ c.nextIncompleteSection.isSome ∧ c.nextIncompleteSection = c.CurrentSection)
  | .review => c.CurrentSection = none ∧ c.Complete ∧ c.Review.isSome ∧ c.Affirmation = none
  | .affirmed | .finalized =>
      c.CurrentSection = none ∧ c.Complete ∧ c.Review.isSome ∧ c.Affirmation.isSome

theorem validatePhase_ok : c.validatePhase = .ok () ↔ c.PhaseOk := by
  unfold validatePhase PhaseOk Complete
  cases c.Phase <;>
    simp only [validateSectionPhase, validateReviewPhase, validateAffirmedPhase, seq_ok, check_ok,
      Bool.and_eq_true, Bool.or_eq_true, beq_iff_eq,
      Option.isNone_iff_eq_none, and_assoc]

/-! ## The whole validator -/

/-- What the validator accepts. -/
structure Valid (lib : Library) (c : DeclarationCandidate) : Prop where
  version : c.Version = DeclarationCandidateVersionV1
  schema : c.SchemaVersion = DeclarationSchemaVersionV2
  guidance : c.GuidanceVersion = GuidanceVersionV2
  bindings : c.bindingsComplete = true
  revision : 0 ≤ c.Revision
  recordRoom : c.ToolRecords.length ≤ MaxDeclarationToolRecords
  attemptRoom : c.ProviderAttempts.length ≤ MaxDeclarationProviderAttempts
  capabilities : c.Capabilities.isSome
  sectionsNodup : c.CompletedSections.Nodup
  sectionsOrder : c.Complete ∨
    ∀ (i : Nat) (s : DeclarationSection), c.CompletedSections[i]? = some s →
      declarationSectionOrder[i]? = some s
  sectionHashes : ∀ s ∈ c.CompletedSections, c.SectionHashes s = hashBytes lib (c.sectionBytes s)
  phase : c.PhaseOk
  records : ∀ r ∈ c.ToolRecords, c.RecordOk r
  recordsNodup : (c.ToolRecords.map (·.ToolCallHash)).Nodup
  attempts : c.validateProviderAttempts = .ok ()
  canonical : c.canonicalJSON lib = .ok c.CanonicalJSON
  hash : c.CandidateHash = hashBytes lib c.CanonicalJSON
  review : ∀ review, c.Review = some review → c.ReviewOk lib review
  affirmation : ∀ a, c.Affirmation = some a → c.AffirmationOk a

theorem validateCore_ok : c.validateCore = .ok () ↔
    (c.Version = DeclarationCandidateVersionV1 ∧ c.SchemaVersion = DeclarationSchemaVersionV2 ∧
      c.GuidanceVersion = GuidanceVersionV2) ∧ c.bindingsComplete = true ∧
    (0 ≤ c.Revision ∧ c.ToolRecords.length ≤ MaxDeclarationToolRecords ∧
      c.ProviderAttempts.length ≤ MaxDeclarationProviderAttempts) ∧ c.Capabilities.isSome := by
  simp only [validateCore, seq_ok, check_ok, Bool.and_eq_true, beq_iff_eq, decide_eq_true_eq, and_assoc]

theorem validateCanonicalBindings_ok : c.validateCanonicalBindings lib = .ok () ↔
    c.canonicalJSON lib = .ok c.CanonicalJSON ∧ c.CandidateHash = hashBytes lib c.CanonicalJSON ∧
    (∀ review, c.Review = some review → c.ReviewOk lib review) ∧
    ∀ a, c.Affirmation = some a → c.AffirmationOk a := by
  rw [validateCanonicalBindings, bind_ok]
  simp only [seq_ok, check_ok, Bool.and_eq_true, beq_iff_eq, validateReviewBinding_ok,
    validateAffirmationBinding_ok]
  constructor
  · rintro ⟨body, hbody, ⟨hhash, rfl⟩, hreview, haffirmation⟩
    exact ⟨hbody, hhash.symm, hreview, haffirmation⟩
  · rintro ⟨hbody, hhash, hreview, haffirmation⟩
    exact ⟨_, hbody, ⟨hhash.symm, rfl⟩, hreview, haffirmation⟩

/-- **The validator accepts exactly the valid candidates.** -/
theorem Validate_ok : c.Validate lib = .ok () ↔ c.Valid lib := by
  simp only [Validate, seq_ok, validateCore_ok, validatePhase_ok,
    validateCanonicalBindings_ok, validateCompletedSections, completedLoop_ok, validateToolRecords,
    recordsLoop_ok, List.not_mem_nil, not_false_eq_true, implies_true, true_and, and_true,
    Nat.zero_add]
  constructor
  · rintro ⟨⟨⟨h₁, h₂, h₃⟩, h₄, ⟨h₅, h₆, h₇⟩, h₈⟩, ⟨h₉, h₁₀, h₁₁⟩, h₁₂, ⟨h₁₃, h₁₄⟩, h₁₅, h₁₆, h₁₇, h₁₈, h₁₉⟩
    exact ⟨h₁, h₂, h₃, h₄, h₅, h₆, h₇, h₈, h₉, h₁₀, h₁₁, h₁₂, h₁₃, h₁₄, h₁₅, h₁₆, h₁₇, h₁₈, h₁₉⟩
  · intro h
    exact ⟨⟨⟨h.version, h.schema, h.guidance⟩, h.bindings, ⟨h.revision, h.recordRoom, h.attemptRoom⟩,
      h.capabilities⟩, ⟨h.sectionsNodup, h.sectionsOrder, h.sectionHashes⟩, h.phase,
      ⟨h.records, h.recordsNodup⟩, h.attempts, h.canonical, h.hash, h.review, h.affirmation⟩

namespace Valid

/-- From its review on a candidate is complete. -/
theorem complete (h : c.Valid lib) (hphase : c.Phase ≠ .section) : c.Complete := by
  have hp := h.phase
  unfold PhaseOk at hp
  cases hc : c.Phase with
  | «section» => exact absurd hc hphase
  | review =>
      rw [hc] at hp
      exact hp.2.1
  | affirmed =>
      rw [hc] at hp
      exact hp.2.1
  | finalized =>
      rw [hc] at hp
      exact hp.2.1

/-- A complete candidate has completed every section. -/
theorem mem_completed (h : c.Valid lib) (hcomplete : c.Complete) (s : DeclarationSection) :
    s ∈ c.CompletedSections := mem_of_nodup_of_length h.sectionsNodup hcomplete s

end Valid

end DeclarationCandidate

end LesserHost.HostedGenesis
