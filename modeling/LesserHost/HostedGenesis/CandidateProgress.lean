import LesserHost.HostedGenesis.CandidateSteps
import LesserHost.HostedGenesis.OwnerReview
import Mathlib.Tactic.IntervalCases

set_option autoImplicit false

/-! # Accepted operations

When an operation on a valid candidate is accepted. The validator looks at the whole candidate again
after each of them; what it finds is what it found before, as long as the document the candidate stands
for is the same, and after a tool call it is the section put and a review that reads back. -/

namespace LesserHost.HostedGenesis

open LesserHost.Go DeclarationCandidate

variable {lib : Library} {c d : DeclarationCandidate}

/-! ## The document of a candidate -/

/-- The two candidates stand for the same document. -/
structure SameDocument (c d : DeclarationCandidate) : Prop where
  schema : d.SchemaVersion = c.SchemaVersion
  guidance : d.GuidanceVersion = c.GuidanceVersion
  completed : d.CompletedSections = c.CompletedSections
  bodies : d.FiveBodies = c.FiveBodies
  selfDescription : d.SelfDescription = c.SelfDescription
  capabilities : d.Capabilities = c.Capabilities
  transparency : d.Transparency = c.Transparency
  established : d.EstablishedAt = c.EstablishedAt

namespace SameDocument

theorem canonicalJSON (h : SameDocument c d) : d.canonicalJSON lib = c.canonicalJSON lib := by
  unfold DeclarationCandidate.canonicalJSON
  rw [h.schema, h.guidance, h.completed, h.bodies, h.selfDescription, h.capabilities, h.transparency,
    h.established]

theorem complete (h : SameDocument c d) : ValidateDeclarationCandidateComplete lib d
    = ValidateDeclarationCandidateComplete lib c := by
  unfold ValidateDeclarationCandidateComplete
  rw [h.completed, h.bodies, h.selfDescription, h.capabilities, h.transparency, h.established]

theorem sectionBytes (h : SameDocument c d) (s : DeclarationSection) :
    d.sectionBytes s = c.sectionBytes s := by
  unfold DeclarationCandidate.sectionBytes
  rw [h.bodies, h.selfDescription, h.capabilities, h.transparency]

end SameDocument

/-- The review of one candidate passes as the review of another one with the same bytes. -/
theorem DeclarationCandidate.ReviewOk.congr {review : DeclarationReviewCheckpoint} (h : c.ReviewOk lib review)
    (hdoc : SameDocument c d) (hrevision : d.Revision = c.Revision)
    (hhash : d.CandidateHash = c.CandidateHash) (hjson : d.CanonicalJSON = c.CanonicalJSON) :
    d.ReviewOk lib review := by
  have hheader : ownerReviewText d = ownerReviewText c := by
    unfold ownerReviewText ownerReviewHeader
    rw [hrevision, hhash, hjson]
  have hrender : RenderDeclarationOwnerReview lib d review.SourceTurnID review.ReviewedAt
      = RenderDeclarationOwnerReview lib c review.SourceTurnID review.ReviewedAt := by
    unfold RenderDeclarationOwnerReview
    rw [hdoc.complete, hheader, hdoc.schema, hdoc.guidance, hhash, hrevision]
  exact {
    renderer := h.renderer
    schema := h.schema.trans hdoc.schema.symm
    guidance := h.guidance.trans hdoc.guidance.symm
    turn := h.turn
    reviewedAt := h.reviewedAt
    revision := h.revision.trans hrevision.symm
    candidateHash := h.candidateHash.trans hhash.symm
    reviewHash := h.reviewHash
    recovered := hjson ▸ h.recovered
    rendered := hrender ▸ h.rendered }

theorem RenderDeclarationOwnerReview_ok {sourceTurnID : String} {now : Time}
    {review : DeclarationReviewCheckpoint} :
    RenderDeclarationOwnerReview lib c sourceTurnID now = .ok review ↔
      ValidateDeclarationCandidateComplete lib c = .ok () ∧
      Bytes.RuneCount (ownerReviewText c) ≤ MaxDeclarationOwnerReviewRunes ∧
      review = {
        RendererVersion := DeclarationReviewRendererV1
        SchemaVersion := c.SchemaVersion
        GuidanceVersion := c.GuidanceVersion
        SourceTurnID := TrimSpace sourceTurnID
        CandidateHash := c.CandidateHash
        ReviewHash := hashBytes lib (ownerReviewText c)
        CandidateRevision := c.Revision
        ReviewText := ownerReviewText c
        ReviewedAt := now.UTC } := by
  unfold RenderDeclarationOwnerReview
  rw [seq_ok]
  dsimp only
  refine and_congr_right fun _ => ?_
  split_ifs with hroom
  · exact iff_of_false (by simp) fun h => absurd h.1 (Nat.not_le.2 hroom)
  · rw [pure_ok]
    exact ⟨fun h => ⟨Nat.le_of_not_lt hroom, h.symm⟩, fun h => h.2.symm⟩

/-- **A rendered review passes.** -/
theorem reviewOk_of_render {sourceTurnID : String} {now : Time} {review : DeclarationReviewCheckpoint}
    (hrevision : 0 ≤ c.Revision) (hhash : c.CandidateHash = hashBytes lib c.CanonicalJSON)
    (hne : c.CanonicalJSON ≠ []) (hjson : lib.Valid c.CanonicalJSON = true)
    (hturn : TrimSpace sourceTurnID ≠ "") (hnow : now.IsZero = false)
    (h : RenderDeclarationOwnerReview lib c sourceTurnID now = .ok review) : c.ReviewOk lib review := by
  obtain ⟨hcomplete, hroom, rfl⟩ := RenderDeclarationOwnerReview_ok.1 h
  exact {
    renderer := rfl
    schema := rfl
    guidance := rfl
    turn := hturn
    reviewedAt := hnow
    revision := rfl
    candidateHash := rfl
    reviewHash := rfl
    recovered := Recover_ownerReviewText hrevision (hhash ▸ newline_not_mem_hash _) hne hjson hroom
    rendered := ⟨_, RenderDeclarationOwnerReview_ok.2 ⟨hcomplete, hroom, rfl⟩, rfl, rfl⟩ }

/-! ## The owner's actions -/

/-- What the owner does leaves the document and everything recorded about it alone. -/
structure SameContent (c d : DeclarationCandidate) : Prop where
  document : SameDocument c d
  version : d.Version = c.Version
  sectionHashes : d.SectionHashes = c.SectionHashes
  candidateHash : d.CandidateHash = c.CandidateHash
  canonicalJSON : d.CanonicalJSON = c.CanonicalJSON
  records : d.ToolRecords = c.ToolRecords
  attempts : d.ProviderAttempts = c.ProviderAttempts

theorem SameContent.restated (c : DeclarationCandidate) (revision : Int)
    (phase : DeclarationCandidatePhase) (current : Option DeclarationSection)
    (review : Option DeclarationReviewCheckpoint) (affirmation : Option DeclarationAffirmationCheckpoint)
    (turn : String) (updatedAt : Time) : SameContent c { c with
      Revision := revision
      Phase := phase
      CurrentSection := current
      Review := review
      Affirmation := affirmation
      SourceTurnID := turn
      UpdatedAt := updatedAt } :=
  ⟨⟨rfl, rfl, rfl, rfl, rfl, rfl, rfl, rfl⟩, rfl, rfl, rfl, rfl, rfl, rfl⟩

theorem SameContent.review {review : DeclarationReviewCheckpoint} (h : SameContent c d)
    (hok : c.ReviewOk lib review) (hrevision : d.Revision = c.Revision) : d.ReviewOk lib review :=
  hok.congr h.document hrevision h.candidateHash h.canonicalJSON

theorem DeclarationCandidate.Valid.restate (h : c.Valid lib) (hsame : SameContent c d)
    (hbindings : d.bindingsComplete = true) (hrevision : c.Revision ≤ d.Revision) (hphase : d.PhaseOk)
    (hreview : ∀ review, d.Review = some review → d.ReviewOk lib review)
    (haffirmation : ∀ a, d.Affirmation = some a → d.AffirmationOk a) : d.Valid lib where
  version := hsame.version.trans h.version
  schema := hsame.document.schema.trans h.schema
  guidance := hsame.document.guidance.trans h.guidance
  bindings := hbindings
  revision := h.revision.trans hrevision
  recordRoom := hsame.records ▸ h.recordRoom
  attemptRoom := hsame.attempts ▸ h.attemptRoom
  capabilities := hsame.document.capabilities ▸ h.capabilities
  sectionsNodup := hsame.document.completed ▸ h.sectionsNodup
  sectionsOrder := by
    unfold Complete
    rw [hsame.document.completed]
    exact h.sectionsOrder
  sectionHashes := by
    rw [hsame.document.completed, hsame.sectionHashes]
    intro s hs
    rw [hsame.document.sectionBytes]
    exact h.sectionHashes s hs
  phase := hphase
  records := by
    rw [hsame.records]
    intro r hr
    have hok := h.records r hr
    exact { hok with revision := hok.revision.trans hrevision }
  recordsNodup := hsame.records ▸ h.recordsNodup
  attempts := by
    unfold validateProviderAttempts
    rw [hsame.attempts]
    exact h.attempts
  canonical := by
    rw [hsame.document.canonicalJSON, hsame.canonicalJSON]
    exact h.canonical
  hash := by
    rw [hsame.candidateHash, hsame.canonicalJSON]
    exact h.hash
  review := hreview
  affirmation := haffirmation

theorem bindingsComplete_iff : c.bindingsComplete = true ↔ (c.InstanceSlug ≠ "" ∧
    c.RegistrationID ≠ "" ∧ c.AgentID ≠ "" ∧ c.ConversationID ≠ "" ∧ c.Model ≠ "" ∧
    c.EstablishedAt.IsZero = false) ∧ c.SourceTurnID ≠ "" ∧ c.UpdatedAt.IsZero = false := by
  simp only [bindingsComplete, Bool.and_eq_true, bne_iff_ne, Bool.not_eq_true']
  constructor
  · rintro ⟨⟨⟨⟨⟨⟨⟨h₁, h₂⟩, h₃⟩, h₄⟩, h₅⟩, h₆⟩, h₇⟩, h₈⟩
    exact ⟨⟨h₁, h₂, h₃, h₄, h₆, h₇⟩, h₅, h₈⟩
  · rintro ⟨⟨h₁, h₂, h₃, h₄, h₆, h₇⟩, h₅, h₈⟩
    exact ⟨⟨⟨⟨⟨⟨⟨h₁, h₂⟩, h₃⟩, h₄⟩, h₅⟩, h₆⟩, h₇⟩, h₈⟩

section Actions

variable {action : DeclarationCandidateAction} {review : DeclarationReviewCheckpoint}
  {sourceTurnID : String} {now : Time}

/-- The action names the candidate and its review, as the owner has them in front of him. -/
structure NamesReview (c : DeclarationCandidate) (review : DeclarationReviewCheckpoint)
    (action : DeclarationCandidateAction) : Prop where
  phase : c.Phase = .review
  reviewed : c.Review = some review
  revision : action.CandidateRevision = c.Revision
  candidateHash : TrimSpace action.CandidateHash = c.CandidateHash
  reviewHash : TrimSpace action.ReviewHash = review.ReviewHash

theorem NamesReview.matches (hc : c.Valid lib) (h : NamesReview c review action) :
    declarationReviewMatchesAction c action = true := by
  have hok := hc.review review h.reviewed
  exact declarationReviewMatchesAction_iff.2 ⟨h.phase, review, h.reviewed,
    hok.revision.trans h.revision.symm, hok.candidateHash.trans h.candidateHash.symm,
    h.reviewHash.symm⟩

theorem NamesReview.bound (h : NamesReview c review action) :
    (c.Revision == action.CandidateRevision && c.CandidateHash == TrimSpace action.CandidateHash)
      = true := by
  rw [h.revision, h.candidateHash, beq_self_eq_true, beq_self_eq_true]
  rfl

/-- The candidate after an affirmation. -/
def DeclarationCandidate.affirmedBy (c : DeclarationCandidate) (review : DeclarationReviewCheckpoint)
    (sourceTurnID : String) (now : Time) : DeclarationCandidate :=
  { c with
    Affirmation := some {
      CandidateRevision := c.Revision
      CandidateHash := c.CandidateHash
      ReviewHash := review.ReviewHash
      SourceTurnID := TrimSpace sourceTurnID
      AffirmedAt := now.UTC }
    Phase := .affirmed
    SourceTurnID := TrimSpace sourceTurnID
    UpdatedAt := now.UTC }

/-- **The owner can affirm what he has in front of him.** -/
theorem affirm_accepted (hc : c.Valid lib) (h : NamesReview c review action)
    (haction : ToLower (TrimSpace action.Action) = "affirm") (hturn : TrimSpace sourceTurnID ≠ "")
    (hnow : now.IsZero = false) :
    ApplyDeclarationCandidateAction lib c action sourceTurnID now
      = .ok (c.affirmedBy review sourceTurnID now) := by
  have hbindings := bindingsComplete_iff.1 hc.bindings
  have hphase := hc.phase
  unfold PhaseOk at hphase
  rw [h.phase] at hphase
  have hsame : SameContent c (c.affirmedBy review sourceTurnID now) := .restated c _ _ _ _ _ _ _
  have hvalid : (c.affirmedBy review sourceTurnID now).Valid lib := by
    refine hc.restate hsame (bindingsComplete_iff.2 ⟨hbindings.1, hturn, hnow⟩) (le_refl _)
      ⟨hphase.1, hphase.2.1, hphase.2.2.1, rfl⟩ (fun r hr => ?_) (fun a ha => ?_)
    · exact hsame.review (hc.review r hr) rfl
    · cases ha
      exact ⟨hturn, hnow, rfl, rfl, review, h.reviewed, rfl⟩
  unfold ApplyDeclarationCandidateAction
  rw [seq_ok, check_ok]
  refine ⟨h.bound, ?_⟩
  have hnotEdit : ToLower (TrimSpace action.Action) ≠ "edit" := by
    rw [haction]
    decide
  rw [if_neg hnotEdit, if_pos haction, bind_ok]
  refine ⟨c.affirmedBy review sourceTurnID now, ?_, ?_⟩
  · unfold applyDeclarationCandidateAffirmation
    have hhash : (c.Review.map DeclarationReviewCheckpoint.ReviewHash).getD "" = review.ReviewHash := by
      rw [h.reviewed]
      rfl
    rw [seq_ok, check_ok, pure_ok, hhash]
    exact ⟨h.matches hc, rfl⟩
  · rw [seq_ok, pure_ok]
    exact ⟨Validate_ok.2 hvalid, rfl⟩

/-- The candidate after an edit. -/
def DeclarationCandidate.reopened (c : DeclarationCandidate) (s : Option DeclarationSection)
    (sourceTurnID : String) (now : Time) : DeclarationCandidate :=
  { c with
    Revision := int64 (c.Revision + 1)
    Phase := .section
    CurrentSection := s
    Review := none
    Affirmation := none
    SourceTurnID := TrimSpace sourceTurnID
    UpdatedAt := now.UTC }

/-- **The owner can reopen any section of what he has in front of him**, as long as the revisions
    can be counted on. -/
theorem edit_accepted (hc : c.Valid lib) (h : NamesReview c review action)
    (haction : ToLower (TrimSpace action.Action) = "edit") (hsection : action.Section.isSome)
    (hturn : TrimSpace sourceTurnID ≠ "") (hnow : now.IsZero = false)
    (hrevision : c.Revision < int64 (c.Revision + 1)) :
    ApplyDeclarationCandidateAction lib c action sourceTurnID now
      = .ok (c.reopened action.Section sourceTurnID now) := by
  have hbindings := bindingsComplete_iff.1 hc.bindings
  have hphase := hc.phase
  unfold PhaseOk at hphase
  rw [h.phase] at hphase
  have hsame : SameContent c (c.reopened action.Section sourceTurnID now) := .restated c _ _ _ _ _ _ _
  have hvalid : (c.reopened action.Section sourceTurnID now).Valid lib := by
    refine hc.restate hsame (bindingsComplete_iff.2 ⟨hbindings.1, hturn, hnow⟩) hrevision.le
      ⟨hsection, rfl, rfl, Or.inl hphase.2.1⟩ (fun r hr => ?_) (fun a ha => ?_)
    · cases hr
    · cases ha
  unfold ApplyDeclarationCandidateAction
  rw [seq_ok, check_ok]
  refine ⟨h.bound, ?_⟩
  rw [if_pos haction, bind_ok]
  refine ⟨c.reopened action.Section sourceTurnID now, ?_, ?_⟩
  · unfold applyDeclarationCandidateEdit
    rw [seq_ok, seq_ok, check_ok, check_ok, refreshCanonical_ok]
    refine ⟨h.matches hc, hsection, c.CanonicalJSON, hsame.document.canonicalJSON.trans hc.canonical, ?_⟩
    rw [← hc.hash]
    rfl
  · rw [seq_ok, pure_ok]
    exact ⟨Validate_ok.2 hvalid, rfl⟩

end Actions

/-- **The affirmed candidate can be finalized** in the turn of the affirmation. -/
theorem finalize_accepted {sourceTurnID : String} {now : Time} {a : DeclarationAffirmationCheckpoint}
    (hc : c.Valid lib) (hphase : c.Phase = .affirmed) (ha : c.Affirmation = some a)
    (hturn : a.SourceTurnID = TrimSpace sourceTurnID) (hnow : now.IsZero = false) :
    FinalizeDeclarationCandidate lib c sourceTurnID now
      = .ok { c with Phase := .finalized, UpdatedAt := now.UTC } := by
  have hbindings := bindingsComplete_iff.1 hc.bindings
  have haffirmation := hc.affirmation a ha
  obtain ⟨review, hreview, -⟩ := haffirmation.reviewHash
  obtain ⟨rendered, hrendered, -⟩ := (hc.review review hreview).rendered
  have hok := hc.phase
  unfold PhaseOk at hok
  rw [hphase] at hok
  have hsame : SameContent c { c with Phase := .finalized, UpdatedAt := now.UTC } :=
    .restated c _ _ _ _ _ _ _
  have hvalid : Valid lib { c with Phase := .finalized, UpdatedAt := now.UTC } := by
    refine hc.restate hsame (bindingsComplete_iff.2 ⟨hbindings.1, hbindings.2.1, hnow⟩) (le_refl _) hok
      (fun r hr => ?_) (fun b hb => ?_)
    · exact hsame.review (hc.review r hr) rfl
    · have hsame := hc.affirmation b hb
      exact ⟨hsame.turn, hsame.affirmedAt, hsame.revision, hsame.candidateHash, hsame.reviewHash⟩
  unfold FinalizeDeclarationCandidate
  rw [seq_ok, seq_ok, seq_ok, seq_ok, seq_ok, check_ok, check_ok, check_ok, pure_ok]
  refine ⟨?_, ?_, (RenderDeclarationOwnerReview_ok.1 hrendered).1, Validate_ok.2 hvalid, ?_, rfl⟩
  · rw [hphase, hok.2.2.1, hok.2.2.2]
    rfl
  · have hne : TrimSpace sourceTurnID ≠ "" := hturn ▸ haffirmation.turn
    rw [ha, Bool.and_eq_true, bne_iff_ne, beq_iff_eq]
    exact ⟨hne, hturn⟩
  · rw [beq_self_eq_true, beq_self_eq_true]
    rfl

/-! ## Completed sections -/

/-- The completed sections after `s` has been put. -/
def completedWith (completed : List DeclarationSection) (s : DeclarationSection) :
    List DeclarationSection :=
  (if s ∈ completed then completed else completed ++ [s]).insertionSort fun a b =>
    declarationSectionIndex a ≤ declarationSectionIndex b

def nextAfter (completed : List DeclarationSection) : Option DeclarationSection :=
  declarationSectionOrder.find? fun s => decide (s ∉ completed)

/-- All a section put changes, but for the canonical bytes. -/
theorem completeSection_eq (s : DeclarationSection) (now : Time) :
    c.completeSection lib s now = { c with
      Revision := int64 (c.Revision + 1)
      Review := none
      Affirmation := none
      UpdatedAt := now.UTC
      CompletedSections := completedWith c.CompletedSections s
      SectionHashes := Function.update c.SectionHashes s (hashBytes lib (c.sectionBytes s))
      CurrentSection := nextAfter (completedWith c.CompletedSections s)
      Phase := if (nextAfter (completedWith c.CompletedSections s)).isSome then .section
        else .review } := by
  have hadvance : ∀ d : DeclarationCandidate, d.advance = { d with
      CurrentSection := nextAfter d.CompletedSections
      Phase := if (nextAfter d.CompletedSections).isSome then .section else .review } := by
    intro d
    unfold advance
    have hnext : d.nextIncompleteSection = nextAfter d.CompletedSections := rfl
    rw [hnext]
    cases nextAfter d.CompletedSections <;> rfl
  have hbytes : ∀ d : DeclarationCandidate, (d.markCompleted s).sectionBytes s = d.sectionBytes s := by
    intro d
    cases s <;> rfl
  unfold completeSection
  rw [hadvance, hbytes]
  have hsame : ({ c with
      Revision := int64 (c.Revision + 1)
      Review := none
      Affirmation := none
      UpdatedAt := now.UTC } : DeclarationCandidate).sectionBytes s = c.sectionBytes s := by
    cases s <;> rfl
  rw [hsame]
  rfl

/-- Sections completed in order are the first ones. -/
theorem eq_take_of_order {completed : List DeclarationSection}
    (h : ∀ (i : Nat) (s : DeclarationSection), completed[i]? = some s →
      declarationSectionOrder[i]? = some s) :
    completed = declarationSectionOrder.take completed.length := by
  refine List.ext_getElem? fun i => ?_
  rw [List.getElem?_take]
  split_ifs with hi
  · rw [List.getElem?_eq_getElem hi]
    exact (h i _ (List.getElem?_eq_getElem hi)).symm
  · exact List.getElem?_eq_none (Nat.le_of_not_lt hi)

/-- Putting the section that is next leaves the next one after it. -/
theorem completedWith_take {k : Nat} {s : DeclarationSection}
    (hs : declarationSectionOrder[k]? = some s) :
    completedWith (declarationSectionOrder.take k) s = declarationSectionOrder.take (k + 1) ∧
      nextAfter (declarationSectionOrder.take (k + 1)) = declarationSectionOrder[k + 1]? := by
  have hk : k < 5 := (List.getElem?_eq_some_iff.1 hs).1
  interval_cases k <;>
    · obtain rfl := Option.some.inj hs
      decide

/-- What the validator asks of the sections after one has been put. -/
structure SectionsOk (completed : List DeclarationSection) : Prop where
  nodup : completed.Nodup
  order : completed.length = declarationSectionOrder.length ∨
    ∀ (i : Nat) (s : DeclarationSection), completed[i]? = some s →
      declarationSectionOrder[i]? = some s
  next : nextAfter completed = none → completed.length = declarationSectionOrder.length

theorem sectionsOk_take {k : Nat} (hk : k ≤ 5) : SectionsOk (declarationSectionOrder.take k) := by
  refine ⟨?_, Or.inr fun i s hi => ?_, ?_⟩
  · interval_cases k <;> decide
  · rw [List.getElem?_take] at hi
    split_ifs at hi
    exact hi
  · interval_cases k <;> decide

theorem sectionsOk_put {s : DeclarationSection} (hc : c.Valid lib) (hphase : c.Phase = .section)
    (hcurrent : c.CurrentSection = some s) :
    SectionsOk (completedWith c.CompletedSections s) ∧
      ∀ t ∈ completedWith c.CompletedSections s, t = s ∨ t ∈ c.CompletedSections := by
  have hok := hc.phase
  unfold PhaseOk at hok
  rw [hphase] at hok
  have hmem : ∀ t ∈ completedWith c.CompletedSections s, t = s ∨ t ∈ c.CompletedSections := by
    intro t ht
    rw [completedWith, List.mem_insertionSort] at ht
    split_ifs at ht
    · exact Or.inr ht
    · rcases List.mem_append.1 ht with hold | hnew
      · exact Or.inr hold
      · exact Or.inl (List.mem_singleton.1 hnew)
  refine ⟨?_, hmem⟩
  by_cases hcomplete : c.Complete
  · -- nothing is new, and the sections are only sorted
    have hperm : (completedWith c.CompletedSections s).Perm c.CompletedSections := by
      rw [completedWith, if_pos (hc.mem_completed hcomplete s)]
      exact List.perm_insertionSort _ _
    have hlength := hperm.length_eq.trans hcomplete
    exact ⟨hperm.nodup_iff.2 hc.sectionsNodup, Or.inl hlength, fun _ => hlength⟩
  · have hnext := (hok.2.2.2.resolve_left hcomplete).2
    have htake := eq_take_of_order (hc.sectionsOrder.resolve_left hcomplete)
    have hs : declarationSectionOrder[c.CompletedSections.length]? = some s := by
      have hfind : nextAfter (declarationSectionOrder.take c.CompletedSections.length) = some s := by
        rw [← htake]
        exact hnext.trans hcurrent
      have hlt : c.CompletedSections.length < 5 := by
        by_contra hge
        have hall : declarationSectionOrder.take c.CompletedSections.length = declarationSectionOrder :=
          List.take_of_length_le (Nat.le_of_not_lt hge)
        rw [hall] at hfind
        cases hfind
      generalize c.CompletedSections.length = k at hfind hlt
      interval_cases k <;> exact hfind
    have hput := (completedWith_take hs).1
    rw [← htake] at hput
    rw [hput]
    exact sectionsOk_take (List.getElem?_eq_some_iff.1 hs).1

/-! ## Tool calls -/

/-- Satellites without an issue have capabilities. -/
theorem soulSatellites_isSome {s : DeclarationSection} {capabilities : List Soul.CapabilityV2}
    {description : Soul.SelfDescriptionV2} {transparency : DeclarationTransparency}
    {satellites : Option (List Soul.CapabilityV2) × List DeclarationValidationIssue}
    (h : validateCandidateSoulSatellites s capabilities description transparency = satellites)
    (hissues : satellites.2 = []) : satellites.1.isSome := by
  unfold validateCandidateSoulSatellites at h
  dsimp only at h
  split at h
  · subst h
    simp at hissues
  · subst h
    rfl

theorem applyDeclarationSoulPayload_ok {request : DeclarationToolRequest} {u : DeclarationCandidate}
    (h : applyDeclarationSoulPayload lib c request = .ok u) :
    ∃ soul description transparency capabilities, capabilities.isSome ∧ u = { c with
      FiveBodies := { c.FiveBodies with Soul := soul }
      SelfDescription := description
      Transparency := transparency
      Capabilities := capabilities } := by
  unfold applyDeclarationSoulPayload at h
  split at h
  · cases h
  split at h
  · cases h
  split at h
  · cases h
  · dsimp only at h
    generalize hsatellites : validateCandidateSoulSatellites _ _ _ _ = satellites at h
    obtain ⟨hissues, hu⟩ := orIssues_ok.1 h
    have hnone : satellites.2 = [] := by
      split at hissues
      · exact (List.append_eq_nil_iff.1 hissues).1
      · exact hissues
    exact ⟨_, _, _, satellites.1, soulSatellites_isSome hsatellites hnone, hu⟩

theorem setCandidateSection_frame {s t : DeclarationSection} (value : FiveBodySection) (h : t ≠ s) :
    (setCandidateSection c s value).sectionBytes t = c.sectionBytes t := by
  cases s <;> cases t <;> first | rfl | exact absurd rfl h

/-- A payload changes its own section only. -/
theorem applyDeclarationToolPayload_frame {s : DeclarationSection} {request : DeclarationToolRequest}
    {u : DeclarationCandidate} (h : applyDeclarationToolPayload lib c s request = .ok u)
    (hcapabilities : c.Capabilities.isSome) :
    u.Capabilities.isSome ∧ ∀ t, t ≠ s → u.sectionBytes t = c.sectionBytes t := by
  unfold applyDeclarationToolPayload at h
  split at h
  · next hsoul =>
      obtain ⟨soul, description, transparency, capabilities, hsome, rfl⟩ :=
        applyDeclarationSoulPayload_ok h
      refine ⟨hsome, fun t ht => ?_⟩
      rw [hsoul] at ht
      cases t <;> first | rfl | exact absurd rfl ht
  · split at h
    · cases h
    split at h
    · cases h
    split at h
    · cases h
    · dsimp only at h
      split at h
      · cases h
      · cases h
        refine ⟨?_, fun t ht => setCandidateSection_frame _ ht⟩
        obtain ⟨bodies, hbodies⟩ := setCandidateSection_eq (c := c) s _
        rw [hbodies]
        exact hcapabilities

theorem marshal_ne_nil (doc : CanonicalProducedDeclarations) : doc.Marshal ≠ [] := by
  unfold CanonicalProducedDeclarations.Marshal JSON.object
  exact List.cons_ne_nil _ _

theorem canonicalJSON_ne_nil {body : Bytes} (h : c.canonicalJSON lib = .ok body) : body ≠ [] := by
  unfold DeclarationCandidate.canonicalJSON at h
  dsimp only at h
  split at h
  · obtain ⟨review, -, h⟩ := bind_ok.1 h
    exact pure_ok.1 h ▸ marshal_ne_nil _
  · obtain ⟨review, -, h⟩ := bind_ok.1 h
    exact pure_ok.1 h ▸ marshal_ne_nil _

theorem hashBytes_ne_empty (body : Bytes) : hashBytes lib body ≠ "" := by
  intro h
  have hlist := congrArg String.toList h
  simp [hashBytes] at hlist

theorem hashBytes_injective (hinj : Function.Injective lib.Sum256) :
    Function.Injective (hashBytes lib) := by
  intro a b h
  have hlist := congrArg String.toList h
  simp only [hashBytes, String.toList_append, String.toList_ofList] at hlist
  exact hinj (hexEncode_injective (List.append_cancel_left hlist))

theorem hashBytes_trimmed (body : Bytes) : TrimSpace (hashBytes lib body) = hashBytes lib body := by
  refine IsTrimmed.TrimSpace_eq (Trimmed.of_forall fun char hchar => ?_)
  simp only [hashBytes, String.toList_append, String.toList_ofList, List.mem_append] at hchar
  rcases hchar with hlabel | hhex
  · exact isSpace_of_all (by decide) hlabel
  · exact isSpace_of_hex (hexEncode_hex _ char hhex)

/-- The candidate with the section put and the canonical bytes refreshed. -/
def DeclarationCandidate.withSection (u : DeclarationCandidate) (lib : Library)
    (s : DeclarationSection) (now : Time) (body : Bytes) : DeclarationCandidate :=
  { u.completeSection lib s now with CanonicalJSON := body, CandidateHash := hashBytes lib body }

section Tool

variable {request : DeclarationToolRequest} {now : Time} {p : DeclarationToolPreflight}
  {u : DeclarationCandidate} {body : Bytes}

theorem PreflightOk.recordOk (hpre : PreflightOk lib c request p) {d e : DeclarationCandidate}
    (hpositive : 0 < d.Revision) (hrevision : d.Revision ≤ e.Revision)
    (hsection : d.SectionHashes p.section_ ≠ "") (hhash : d.CandidateHash ≠ "") :
    e.RecordOk (p.record request d) := by
  have hcall : p.callHash ≠ "" := by
    rw [hpre.callHash]
    exact hashBytes_ne_empty _
  have hinput : p.inputHash ≠ "" := by
    rw [hpre.inputHash]
    exact hashBytes_ne_empty _
  have hturn : p.sourceTurnID ≠ "" := by
    rw [hpre.sourceTurnID]
    exact hpre.turn_ne
  exact ⟨hcall, hinput, hturn, hpositive, hrevision, hsection, hhash, hpre.tool⟩

/-- What is put is valid once the canonical bytes are there and, for a candidate that comes to its
    review, the review. -/
theorem withSection_valid (hc : c.Valid lib) (hpre : PreflightOk lib c request p)
    (hnone : p.replay = none) (hrevision : c.Revision < int64 (c.Revision + 1))
    (hu : applyDeclarationToolPayload lib c p.section_ request = .ok u) (hnow : now.IsZero = false)
    (hbody : (u.completeSection lib p.section_ now).canonicalJSON lib = .ok body)
    {review : Option DeclarationReviewCheckpoint}
    (hsome : review.isSome ↔ (u.withSection lib p.section_ now body).Phase = .review)
    (hreview : ∀ r, review = some r → (u.withSection lib p.section_ now body).ReviewOk lib r) :
    Valid lib { u.withSection lib p.section_ now body with
      Review := review
      ToolRecords := c.ToolRecords ++ [p.record request (u.withSection lib p.section_ now body)] } := by
  obtain ⟨hphase, hcurrent, hroom, hfresh⟩ := hpre.fresh hnone
  obtain ⟨hcapabilities, hframe⟩ := applyDeclarationToolPayload_frame hu hc.capabilities
  obtain ⟨bodies, description, transparency, capabilities, rfl⟩ := applyDeclarationToolPayload_ok hu
  have hbindings := bindingsComplete_iff.1 hc.bindings
  obtain ⟨hsections, hmem⟩ := sectionsOk_put hc hphase hcurrent
  rw [completeSection_eq] at hbody
  unfold withSection at hsome hreview ⊢
  rw [completeSection_eq] at hsome hreview ⊢
  dsimp only at hsome hreview ⊢
  have hrecords : ∀ r ∈ c.ToolRecords, r.Revision ≤ int64 (c.Revision + 1) :=
    fun r hr => (hc.records r hr).revision.trans hrevision.le
  exact {
    version := hc.version
    schema := hc.schema
    guidance := hc.guidance
    bindings := bindingsComplete_iff.2 ⟨hbindings.1, hbindings.2.1, hnow⟩
    revision := hc.revision.trans hrevision.le
    recordRoom := by
      rw [List.length_append]
      exact hroom
    attemptRoom := hc.attemptRoom
    capabilities := hcapabilities
    sectionsNodup := hsections.nodup
    sectionsOrder := hsections.order
    sectionHashes := by
      intro t ht
      by_cases hts : t = p.section_
      · rw [hts]
        dsimp only
        rw [Function.update_self]
        generalize p.section_ = s
        cases s <;> rfl
      · dsimp only
        rw [Function.update_of_ne hts, hc.sectionHashes t ((hmem t ht).resolve_left hts),
          ← hframe t hts]
        cases t <;> rfl
    phase := by
      unfold PhaseOk
      dsimp only
      cases hnext : nextAfter (completedWith c.CompletedSections p.section_) with
      | none =>
          rw [hnext] at hsome
          exact ⟨rfl, hsections.next hnext, hsome.2 rfl, rfl⟩
      | some next =>
          rw [hnext] at hsome
          refine ⟨rfl, ?_, rfl, Or.inr ⟨Option.isSome_iff_exists.2 ⟨next, hnext⟩, hnext⟩⟩
          rw [← Option.not_isSome_iff_eq_none, hsome]
          simp
    records := by
      intro r hr
      rcases List.mem_append.1 hr with hold | hnew
      · exact { hc.records r hold with revision := hrecords r hold }
      · obtain rfl := List.mem_singleton.1 hnew
        refine hpre.recordOk (lt_of_le_of_lt hc.revision hrevision) (le_refl _) ?_
          (hashBytes_ne_empty _)
        dsimp only
        rw [Function.update_self]
        exact hashBytes_ne_empty _
    recordsNodup := by
      rw [List.map_append, List.nodup_append]
      refine ⟨hc.recordsNodup, List.nodup_singleton _, fun x hx y hy => ?_⟩
      obtain ⟨r, hr, rfl⟩ := List.mem_map.1 hx
      obtain rfl := List.mem_singleton.1 hy
      exact fun h => hfresh r hr (h.trans hpre.callHash)
    attempts := hc.attempts
    canonical := hbody
    hash := rfl
    review := fun r hr =>
      (hreview r hr).congr ⟨rfl, rfl, rfl, rfl, rfl, rfl, rfl, rfl⟩ rfl rfl rfl
    affirmation := by
      intro a ha
      cases ha }

/-- **A tool call for the current section is accepted** if its payload passes, and if the candidate
    that comes to its review is complete and the review has room for it. -/
theorem tool_accepted (hc : c.Valid lib) (hp : preflightDeclarationTool lib c request = .ok p)
    (hnone : p.replay = none) (hrevision : c.Revision < int64 (c.Revision + 1))
    (hu : applyDeclarationToolPayload lib c p.section_ request = .ok u) (hnow : now.IsZero = false)
    (hbody : (u.completeSection lib p.section_ now).canonicalJSON lib = .ok body)
    (hready : (u.withSection lib p.section_ now body).Phase = .review →
      ValidateDeclarationCandidateComplete lib (u.withSection lib p.section_ now body) = .ok () ∧
      Bytes.RuneCount (ownerReviewText (u.withSection lib p.section_ now body))
        ≤ MaxDeclarationOwnerReviewRunes ∧ lib.Valid body = true) :
    ∃ review, ApplyDeclarationTool lib c request now
      = .ok (some { u.withSection lib p.section_ now body with
          Review := review
          ToolRecords := c.ToolRecords ++ [p.record request (u.withSection lib p.section_ now body)] },
        { (p.record request (u.withSection lib p.section_ now body)).replayResult with
          Idempotent := false }) := by
  have hpre := preflightDeclarationTool_ok hp
  set d := u.withSection lib p.section_ now body with hd
  have hput : d.ToolRecords = c.ToolRecords ∧ d.Revision = int64 (c.Revision + 1) ∧ d.Review = none := by
    obtain ⟨bodies, description, transparency, capabilities, rfl⟩ := applyDeclarationToolPayload_ok hu
    rw [hd, withSection, completeSection_eq]
    exact ⟨rfl, rfl, rfl⟩
  obtain ⟨hrecords, hdRevision, hdReview⟩ := hput
  have hpositive : 0 ≤ d.Revision := by
    rw [hdRevision]
    exact hc.revision.trans hrevision.le
  have hreviewed : ∃ review, d.withReview lib p.section_ request.SourceTurnID now
        = .ok (.ok { d with Review := review }) ∧ (review.isSome ↔ d.Phase = .review) ∧
      ∀ r, review = some r → d.ReviewOk lib r := by
    unfold withReview
    by_cases hphase : d.Phase = .review
    · obtain ⟨hcomplete, hroom, hjson⟩ := hready hphase
      obtain ⟨review, hrender⟩ : ∃ review,
          RenderDeclarationOwnerReview lib d request.SourceTurnID now = .ok review :=
        ⟨_, RenderDeclarationOwnerReview_ok.2 ⟨hcomplete, hroom, rfl⟩⟩
      refine ⟨some review, ?_, iff_of_true rfl hphase, fun r hr => ?_⟩
      · rw [if_neg (not_not.2 hphase), hcomplete]
        dsimp only
        rw [hrender]
      · cases hr
        exact reviewOk_of_render hpositive rfl (canonicalJSON_ne_nil hbody) hjson hpre.turn_ne hnow
          hrender
    · refine ⟨d.Review, if_pos hphase, ?_, ?_⟩
      · rw [hdReview]
        exact iff_of_false (by decide) hphase
      · rw [hdReview]
        intro r hr
        cases hr
  obtain ⟨review, hwith, hsome, hok⟩ := hreviewed
  have hvalid := withSection_valid hc hpre hnone hrevision hu hnow hbody hsome hok
  rw [← hd] at hvalid
  have hturn : ({ c with SourceTurnID := p.sourceTurnID } : DeclarationCandidate) = c := by
    rw [hpre.sourceTurnID, hpre.turn]
  have hrefresh : (u.completeSection lib p.section_ now).refreshCanonical lib = .ok d :=
    refreshCanonical_ok.2 ⟨body, hbody, rfl⟩
  refine ⟨review, ?_⟩
  unfold ApplyDeclarationTool
  rw [hp]
  dsimp only
  rw [hnone, hturn]
  dsimp only
  rw [hu]
  dsimp only
  rw [bind_ok]
  refine ⟨d, hrefresh, ?_⟩
  rw [bind_ok]
  refine ⟨.ok { d with Review := review }, hwith, ?_⟩
  dsimp only
  rw [seq_ok, pure_ok, hrecords]
  exact ⟨Validate_ok.2 hvalid, rfl⟩

end Tool

end LesserHost.HostedGenesis
