import LesserHost.HostedGenesis.CandidateValid

set_option autoImplicit false

/-! # Steps of a candidate

One lemma for each operation says everything an accepted call can have done: a replayed tool call
nothing, a tool call one more revision and one more record, an attempt its own telemetry, an edit the
way back to a section, an affirmation and a finalization the next phase. `DeclarationOp` collects the
operations, and `stepCandidate` applies one of them: a refused call leaves the candidate as it is. -/

namespace LesserHost.HostedGenesis

open LesserHost.Go

variable {lib : Library} {c c' : DeclarationCandidate}

/-! ## Parts of an operation -/

namespace DeclarationCandidate

theorem refreshCanonical_ok : c.refreshCanonical lib = .ok c' ↔
    ∃ body, c.canonicalJSON lib = .ok body ∧
      c' = { c with CanonicalJSON := body, CandidateHash := hashBytes lib body } := by
  simp only [refreshCanonical, bind_ok, pure_ok]
  exact exists_congr fun body => and_congr_right fun _ => eq_comm

section Complete

variable (lib c) (s : DeclarationSection) (now : Time)

theorem advance_phase : c.advance.Phase = .section ∨ c.advance.Phase = .review := by
  unfold advance
  cases c.nextIncompleteSection with
  | none => exact Or.inr rfl
  | some next => exact Or.inl rfl

@[simp] theorem advance_revision : c.advance.Revision = c.Revision := by
  unfold advance
  cases c.nextIncompleteSection <;> rfl

@[simp] theorem advance_records : c.advance.ToolRecords = c.ToolRecords := by
  unfold advance
  cases c.nextIncompleteSection <;> rfl

@[simp] theorem advance_turn : c.advance.SourceTurnID = c.SourceTurnID := by
  unfold advance
  cases c.nextIncompleteSection <;> rfl

@[simp] theorem completeSection_revision :
    (c.completeSection lib s now).Revision = int64 (c.Revision + 1) :=
  advance_revision _

@[simp] theorem completeSection_records :
    (c.completeSection lib s now).ToolRecords = c.ToolRecords :=
  advance_records _

@[simp] theorem completeSection_turn :
    (c.completeSection lib s now).SourceTurnID = c.SourceTurnID :=
  advance_turn _

theorem completeSection_phase : (c.completeSection lib s now).Phase = .section ∨
    (c.completeSection lib s now).Phase = .review :=
  advance_phase _

end Complete

/-- A review is all that coming to the review adds. -/
theorem withReview_ok {s : DeclarationSection} {sourceTurnID : String} {now : Time}
    (h : c.withReview lib s sourceTurnID now = .ok (.ok c')) :
    ∃ review, c' = { c with Review := review } := by
  unfold withReview at h
  split at h
  · cases h
    exact ⟨c.Review, rfl⟩
  · split at h
    · cases h
    · split at h
      · cases h
      · cases h
      · next review _ =>
          cases h
          exact ⟨some review, rfl⟩

end DeclarationCandidate

open DeclarationCandidate

theorem setCandidateSection_eq (s : DeclarationSection) (value : FiveBodySection) :
    ∃ bodies, setCandidateSection c s value = { c with FiveBodies := bodies } := by
  cases s <;> exact ⟨_, rfl⟩

theorem orIssues_ok {issues : List DeclarationValidationIssue} :
    orIssues c issues = .ok c' ↔ issues = [] ∧ c' = c := by
  unfold orIssues
  split_ifs with h
  · simp [h, eq_comm]
  · simp [h]

/-- A payload is put into the bodies and the satellites, and nowhere else. -/
theorem applyDeclarationToolPayload_ok {s : DeclarationSection} {request : DeclarationToolRequest}
    (h : applyDeclarationToolPayload lib c s request = .ok c') :
    ∃ bodies description transparency capabilities, c' = { c with
      FiveBodies := bodies
      SelfDescription := description
      Transparency := transparency
      Capabilities := capabilities } := by
  unfold applyDeclarationToolPayload at h
  split at h
  · unfold applyDeclarationSoulPayload at h
    split at h
    · cases h
    split at h
    · cases h
    split at h
    · cases h
    · exact ⟨_, _, _, _, (orIssues_ok.1 h).2⟩
  · split at h
    · cases h
    split at h
    · cases h
    split at h
    · cases h
    · dsimp only at h
      split at h
      · cases h
      · cases h
        obtain ⟨bodies, hbodies⟩ := setCandidateSection_eq (c := c) s _
        exact ⟨bodies, _, _, _, hbodies⟩

/-! ## Tool calls -/

/-- The result a record stands for. -/
def DeclarationToolRecord.replayResult (r : DeclarationToolRecord) : DeclarationToolResult where
  Accepted := true
  Idempotent := true
  Section := some r.Section
  Revision := r.Revision
  SectionHash := r.SectionHash
  CandidateHash := r.CandidateHash
  Errors := []

/-- The record is about this very call: same id, same tool, same payload, same turn. -/
structure DeclarationToolRecord.OfCall (lib : Library) (r : DeclarationToolRecord)
    (request : DeclarationToolRequest) : Prop where
  callHash : r.ToolCallHash = hashText lib (TrimSpace request.ToolCallID)
  inputHash : r.InputHash = hashBytes lib request.Payload
  toolName : r.ToolName = request.ToolName
  tool : DeclarationSectionForTool request.ToolName = some r.Section
  turn : r.SourceTurnID = TrimSpace request.SourceTurnID

/-- What a tool call that puts a section does. -/
structure PutSection (lib : Library) (c : DeclarationCandidate) (request : DeclarationToolRequest)
    (c' : DeclarationCandidate) (result : DeclarationToolResult) : Prop where
  phase : c.Phase = .section
  fresh : ∀ r ∈ c.ToolRecords, r.ToolCallHash ≠ hashText lib (TrimSpace request.ToolCallID)
  turn : c'.SourceTurnID = c.SourceTurnID
  revision : c'.Revision = int64 (c.Revision + 1)
  record : ∃ r : DeclarationToolRecord, c'.ToolRecords = c.ToolRecords ++ [r] ∧ r.OfCall lib request ∧
    result = { r.replayResult with Idempotent := false }
  phase' : c'.Phase = .section ∨ c'.Phase = .review
  valid : c'.Valid lib

/-- The call is on record. -/
structure ReplaysCall (lib : Library) (c : DeclarationCandidate) (request : DeclarationToolRequest)
    (result : DeclarationToolResult) : Prop where
  turn : TrimSpace request.SourceTurnID = c.SourceTurnID
  record : ∃ r ∈ c.ToolRecords, r.OfCall lib request ∧ result = r.replayResult

section Tool

variable {request : DeclarationToolRequest} {now : Time} {result : DeclarationToolResult}
  {p : DeclarationToolPreflight}

/-- What a preflight that goes through has found. -/
structure PreflightOk (lib : Library) (c : DeclarationCandidate) (request : DeclarationToolRequest)
    (p : DeclarationToolPreflight) : Prop where
  tool : DeclarationSectionForTool request.ToolName = some p.section_
  callHash : p.callHash = hashText lib (TrimSpace request.ToolCallID)
  inputHash : p.inputHash = hashBytes lib request.Payload
  sourceTurnID : p.sourceTurnID = TrimSpace request.SourceTurnID
  callID_ne : TrimSpace request.ToolCallID ≠ ""
  turn_ne : TrimSpace request.SourceTurnID ≠ ""
  turn : TrimSpace request.SourceTurnID = c.SourceTurnID
  replay : ∀ result, p.replay = some result → ReplaysCall lib c request result
  fresh : p.replay = none → c.Phase = .section ∧ c.CurrentSection = some p.section_ ∧
    c.ToolRecords.length < MaxDeclarationToolRecords ∧
    ∀ r ∈ c.ToolRecords, r.ToolCallHash ≠ hashText lib (TrimSpace request.ToolCallID)

/-- What is replayed is what a record of the same call says; without one the call id is new. -/
theorem declarationToolReplay_ok {o : Option DeclarationToolResult}
    (h : declarationToolReplay c request p = .ok o) :
    (∀ result, o = some result → ∃ r ∈ c.ToolRecords, (r.ToolCallHash = p.callHash ∧
      r.InputHash = p.inputHash ∧ r.ToolName = request.ToolName ∧ r.Section = p.section_ ∧
      r.SourceTurnID = p.sourceTurnID) ∧ result = r.replayResult) ∧
    (o = none → ∀ r ∈ c.ToolRecords, r.ToolCallHash ≠ p.callHash) := by
  unfold declarationToolReplay at h
  split at h
  · next hnone =>
      cases h
      refine ⟨fun _ ho => (Option.some_ne_none _ ho.symm).elim, fun _ r hr => ?_⟩
      have hne := List.find?_eq_none.1 hnone r hr
      simpa using hne
  · next r hfound =>
      split at h
      · cases h
      · next hsame =>
          cases h
          simp only [not_or, not_not] at hsame
          have hhash : r.ToolCallHash = p.callHash := by simpa using List.find?_some hfound
          refine ⟨fun result ho => ?_, fun ho => (Option.some_ne_none _ ho).elim⟩
          cases ho
          exact ⟨r, List.mem_of_find?_eq_some hfound, ⟨hhash, hsame⟩, rfl⟩

theorem preflightDeclarationTool_ok (h : preflightDeclarationTool lib c request = .ok p) :
    PreflightOk lib c request p := by
  unfold preflightDeclarationTool at h
  split at h
  · cases h
  · next s hs =>
      dsimp only at h
      split at h
      · cases h
      next hempty =>
      rw [not_or] at hempty
      split at h
      · cases h
      next hturn =>
      rw [not_not] at hturn
      split at h
      · cases h
      · next result hreplay =>
          cases h
          refine ⟨hs, rfl, rfl, rfl, hempty.1, hempty.2, hturn, fun o ho => ?_,
            fun ho => (Option.some_ne_none _ ho).elim⟩
          cases ho
          obtain ⟨r, hr, ⟨h₁, h₂, h₃, h₄, h₅⟩, hresult⟩ := (declarationToolReplay_ok hreplay).1 _ rfl
          exact ⟨hturn, r, hr, ⟨h₁, h₂, h₃, hs.trans (congrArg some h₄.symm), h₅⟩, hresult⟩
      · next hreplay =>
          split_ifs at h with hroom hcurrent hrevision hhash
          cases h
          simp only [not_or, not_not, ne_eq] at hcurrent
          refine ⟨hs, rfl, rfl, rfl, hempty.1, hempty.2, hturn,
            fun o ho => (Option.some_ne_none _ ho.symm).elim, fun _ => ?_⟩
          exact ⟨hcurrent.1, hcurrent.2, Nat.lt_of_not_le hroom,
            (declarationToolReplay_ok hreplay).2 rfl⟩

/-- **An accepted tool call** is on record and changes nothing, or it puts a section. -/
theorem ApplyDeclarationTool_ok
    (h : ApplyDeclarationTool lib c request now = .ok (some c', result)) :
    (c' = c ∧ ReplaysCall lib c request result) ∨ PutSection lib c request c' result := by
  unfold ApplyDeclarationTool at h
  split at h
  · cases h
  · next p hp =>
      have hpre := preflightDeclarationTool_ok hp
      split at h
      · next result' hreplay =>
          cases h
          exact Or.inl ⟨rfl, hpre.replay _ hreplay⟩
      · next hfresh =>
          obtain ⟨hphase, hcurrent, hroom, hnew⟩ := hpre.fresh hfresh
          split at h
          · cases h
          · next u hu =>
              obtain ⟨bodies, description, transparency, capabilities, rfl⟩ :=
                applyDeclarationToolPayload_ok hu
              rw [bind_ok] at h
              obtain ⟨refreshed, hrefresh, h⟩ := h
              obtain ⟨body, -, rfl⟩ := refreshCanonical_ok.1 hrefresh
              rw [bind_ok] at h
              obtain ⟨outcome, houtcome, h⟩ := h
              split at h
              · cases pure_ok.1 h
              · next reviewed =>
                  obtain ⟨review, hreviewed⟩ := withReview_ok houtcome
                  have hrevision : reviewed.Revision = int64 (c.Revision + 1) := by
                    rw [hreviewed]
                    exact completeSection_revision _ _ _ _
                  have hrecords : reviewed.ToolRecords = c.ToolRecords := by
                    rw [hreviewed]
                    exact completeSection_records _ _ _ _
                  have hturn : reviewed.SourceTurnID = c.SourceTurnID := by
                    rw [hreviewed]
                    exact (completeSection_turn _ _ _ _).trans (hpre.sourceTurnID.trans hpre.turn)
                  have hphase' : reviewed.Phase = .section ∨ reviewed.Phase = .review := by
                    rw [hreviewed]
                    exact completeSection_phase _ _ _ _
                  rw [seq_ok, pure_ok, Prod.mk.injEq, Option.some.injEq] at h
                  obtain ⟨hvalid, rfl, rfl⟩ := h
                  refine Or.inr ⟨hphase, hnew, hturn, hrevision,
                    ⟨p.record request reviewed, congrArg (· ++ _) hrecords, ?_, rfl⟩, hphase',
                    Validate_ok.1 hvalid⟩
                  exact ⟨hpre.callHash, hpre.inputHash, rfl, hpre.tool, hpre.sourceTurnID⟩

end Tool

/-! ## The other operations -/

/-- **An accepted attempt** changes the telemetry and the time of the last update. -/
theorem ApplyDeclarationProviderAttempt_ok {update : DeclarationProviderAttemptUpdate} {now : Time}
    (h : ApplyDeclarationProviderAttempt lib c update now = .ok c') :
    (∃ attempts updatedAt, c' = { c with ProviderAttempts := attempts, UpdatedAt := updatedAt }) ∧
      c'.Valid lib := by
  simp only [ApplyDeclarationProviderAttempt, seq_ok] at h
  obtain ⟨⟨attempts, index⟩, -, h⟩ := bind_ok.1 h.2
  rw [seq_ok, pure_ok] at h
  obtain ⟨hvalid, rfl⟩ := h
  exact ⟨⟨_, _, rfl⟩, Validate_ok.1 hvalid⟩

/-- The review under which an action is taken is the one the action names. -/
theorem declarationReviewMatchesAction_iff {action : DeclarationCandidateAction} :
    declarationReviewMatchesAction c action = true ↔ c.Phase = .review ∧ ∃ review,
      c.Review = some review ∧ review.CandidateRevision = action.CandidateRevision ∧
      review.CandidateHash = TrimSpace action.CandidateHash ∧
      review.ReviewHash = TrimSpace action.ReviewHash := by
  unfold declarationReviewMatchesAction
  cases c.Review with
  | none => simp
  | some review => simp [and_assoc]

/-- What an edit does. -/
structure Edited (lib : Library) (c : DeclarationCandidate) (action : DeclarationCandidateAction)
    (sourceTurnID : String) (now : Time) (c' : DeclarationCandidate) : Prop where
  named : ToLower (TrimSpace action.Action) = "edit"
  phase : c.Phase = .review
  result : ∃ body, c.canonicalJSON lib = .ok body ∧ c' = { c with
    Revision := int64 (c.Revision + 1)
    Phase := .section
    CurrentSection := action.Section
    Review := none
    Affirmation := none
    SourceTurnID := TrimSpace sourceTurnID
    UpdatedAt := now.UTC
    CanonicalJSON := body
    CandidateHash := hashBytes lib body }
  valid : c'.Valid lib

/-- What an affirmation does. -/
structure Affirmed (lib : Library) (c : DeclarationCandidate) (action : DeclarationCandidateAction)
    (c' : DeclarationCandidate) : Prop where
  named : ToLower (TrimSpace action.Action) = "affirm"
  phase : c.Phase = .review
  revision : action.CandidateRevision = c.Revision
  candidateHash : TrimSpace action.CandidateHash = c.CandidateHash
  review : ∃ review, c.Review = some review ∧ TrimSpace action.ReviewHash = review.ReviewHash
  result : ∃ affirmation sourceTurnID updatedAt, c' = { c with
    Affirmation := some affirmation
    Phase := .affirmed
    SourceTurnID := sourceTurnID
    UpdatedAt := updatedAt }
  valid : c'.Valid lib

/-- **An accepted action** is an edit or an affirmation. -/
theorem ApplyDeclarationCandidateAction_ok {action : DeclarationCandidateAction}
    {sourceTurnID : String} {now : Time}
    (h : ApplyDeclarationCandidateAction lib c action sourceTurnID now = .ok c') :
    Edited lib c action sourceTurnID now c' ∨ Affirmed lib c action c' := by
  unfold ApplyDeclarationCandidateAction at h
  rw [seq_ok, check_ok, Bool.and_eq_true, beq_iff_eq, beq_iff_eq] at h
  obtain ⟨⟨hrevision, hhash⟩, h⟩ := h
  -- whichever branch made the candidate, the validator has seen it
  have hupdated : ∀ {x : Except CandidateError DeclarationCandidate},
      (do let updated ← x; updated.Validate lib; pure updated) = .ok c' →
      x = .ok c' ∧ c'.Valid lib := by
    intro x hx
    rw [bind_ok] at hx
    obtain ⟨updated, hmade, hx⟩ := hx
    rw [seq_ok, pure_ok] at hx
    obtain ⟨hvalid, rfl⟩ := hx
    exact ⟨hmade, Validate_ok.1 hvalid⟩
  dsimp only at h
  split at h
  · next haction =>
      obtain ⟨hmade, hvalid⟩ := hupdated h
      unfold applyDeclarationCandidateEdit at hmade
      rw [seq_ok, seq_ok, check_ok] at hmade
      obtain ⟨hmatch, -, hmade⟩ := hmade
      obtain ⟨body, hbody, heq⟩ := refreshCanonical_ok.1 hmade
      exact Or.inl ⟨haction, (declarationReviewMatchesAction_iff.1 hmatch).1, ⟨body, hbody, heq⟩,
        hvalid⟩
  · split at h
    · next haction =>
        obtain ⟨hmade, hvalid⟩ := hupdated h
        unfold applyDeclarationCandidateAffirmation at hmade
        rw [seq_ok, check_ok, pure_ok] at hmade
        obtain ⟨hmatch, heq⟩ := hmade
        obtain ⟨hphase, review, hreview, -, -, hreviewHash⟩ :=
          declarationReviewMatchesAction_iff.1 hmatch
        exact Or.inr ⟨haction, hphase, hrevision.symm, hhash.symm,
          ⟨review, hreview, hreviewHash.symm⟩, ⟨_, _, _, heq.symm⟩, hvalid⟩
    · cases (hupdated h).1

/-- **An accepted finalization** goes on from the affirmation, and changes nothing but the phase. -/
theorem FinalizeDeclarationCandidate_ok {sourceTurnID : String} {now : Time}
    (h : FinalizeDeclarationCandidate lib c sourceTurnID now = .ok c') :
    c.Phase = .affirmed ∧
      (∃ updatedAt, c' = { c with Phase := .finalized, UpdatedAt := updatedAt }) ∧ c'.Valid lib := by
  simp only [FinalizeDeclarationCandidate, seq_ok, pure_ok, check_ok, Bool.and_eq_true,
    decide_eq_true_eq] at h
  obtain ⟨⟨⟨hphase, -⟩, -⟩, -, -, hvalid, -, rfl⟩ := h
  exact ⟨hphase, ⟨_, rfl⟩, Validate_ok.1 hvalid⟩

/-- **A new candidate** is valid, at revision zero, in its first section, and nothing is on record. -/
theorem NewDeclarationCandidate_ok {binding : DeclarationCandidateBinding} {establishedAt : Time}
    (h : NewDeclarationCandidate lib binding establishedAt = .ok c) :
    c.Valid lib ∧ c.Phase = .section ∧ c.Revision = 0 ∧ c.ToolRecords = [] := by
  unfold NewDeclarationCandidate at h
  split at h
  · cases h
  · rw [bind_ok] at h
    obtain ⟨refreshed, hrefresh, h⟩ := h
    rw [seq_ok, pure_ok] at h
    obtain ⟨hvalid, rfl⟩ := h
    obtain ⟨body, -, heq⟩ := refreshCanonical_ok.1 hrefresh
    exact ⟨Validate_ok.1 hvalid, heq ▸ rfl, heq ▸ rfl, heq ▸ rfl⟩

/-! ## Operations -/

/-- The operations, with the time of the clock. -/
inductive DeclarationOp where
  | tool (request : DeclarationToolRequest) (now : Time)
  | attempt (update : DeclarationProviderAttemptUpdate) (now : Time)
  | act (action : DeclarationCandidateAction) (sourceTurnID : String) (now : Time)
  | finalize (sourceTurnID : String) (now : Time)

/-- The candidate an accepted operation returns. -/
def DeclarationOp.next (lib : Library) (c : DeclarationCandidate) :
    DeclarationOp → Option DeclarationCandidate
  | .tool request now =>
      match ApplyDeclarationTool lib c request now with
      | .ok (next, _) => next
      | .error _ => none
  | .attempt update now => (ApplyDeclarationProviderAttempt lib c update now).toOption
  | .act action sourceTurnID now =>
      (ApplyDeclarationCandidateAction lib c action sourceTurnID now).toOption
  | .finalize sourceTurnID now => (FinalizeDeclarationCandidate lib c sourceTurnID now).toOption

def stepCandidate (lib : Library) (c : DeclarationCandidate) (op : DeclarationOp) :
    DeclarationCandidate := (op.next lib c).getD c

/-- What an accepted operation can have done. -/
inductive Accepts (lib : Library) (c : DeclarationCandidate) : DeclarationOp → DeclarationCandidate → Prop
  | replay {request now result}
      (h : ApplyDeclarationTool lib c request now = .ok (some c, result))
      (hreplay : ReplaysCall lib c request result) : Accepts lib c (.tool request now) c
  | put {request now result c'}
      (h : ApplyDeclarationTool lib c request now = .ok (some c', result))
      (hput : PutSection lib c request c' result) : Accepts lib c (.tool request now) c'
  | attempt {update now attempts updatedAt}
      (hvalid : Valid lib { c with ProviderAttempts := attempts, UpdatedAt := updatedAt }) :
      Accepts lib c (.attempt update now)
        { c with ProviderAttempts := attempts, UpdatedAt := updatedAt }
  | edit {action sourceTurnID now c'} (hedit : Edited lib c action sourceTurnID now c') :
      Accepts lib c (.act action sourceTurnID now) c'
  | affirm {action sourceTurnID now c'} (haffirm : Affirmed lib c action c') :
      Accepts lib c (.act action sourceTurnID now) c'
  | finalize {sourceTurnID now updatedAt} (hphase : c.Phase = .affirmed)
      (hvalid : Valid lib { c with Phase := .finalized, UpdatedAt := updatedAt }) :
      Accepts lib c (.finalize sourceTurnID now)
        { c with Phase := .finalized, UpdatedAt := updatedAt }

theorem toOption_some {ε α : Type} {x : Except ε α} {a : α} : x.toOption = some a ↔ x = .ok a := by
  cases x <;> simp [Except.toOption]

theorem next_accepts {op : DeclarationOp} (h : op.next lib c = some c') : Accepts lib c op c' := by
  cases op with
  | tool request now =>
      simp only [DeclarationOp.next] at h
      split at h
      · next result happly =>
          subst h
          rcases ApplyDeclarationTool_ok happly with ⟨rfl, hreplay⟩ | hput
          · exact .replay happly hreplay
          · exact .put happly hput
      · cases h
  | attempt update now =>
      obtain ⟨⟨attempts, updatedAt, rfl⟩, hvalid⟩ :=
        ApplyDeclarationProviderAttempt_ok (toOption_some.1 h)
      exact .attempt hvalid
  | act action sourceTurnID now =>
      rcases ApplyDeclarationCandidateAction_ok (toOption_some.1 h) with hedit | haffirm
      · exact .edit hedit
      · exact .affirm haffirm
  | finalize sourceTurnID now =>
      obtain ⟨hphase, ⟨updatedAt, rfl⟩, hvalid⟩ := FinalizeDeclarationCandidate_ok (toOption_some.1 h)
      exact .finalize hphase hvalid

/-- A step is refused and changes nothing, or it is accepted. -/
theorem stepCandidate_cases (lib : Library) (c : DeclarationCandidate) (op : DeclarationOp) :
    (op.next lib c = none ∧ stepCandidate lib c op = c) ∨
      Accepts lib c op (stepCandidate lib c op) := by
  cases h : op.next lib c with
  | none => exact Or.inl ⟨rfl, by rw [stepCandidate, h]; rfl⟩
  | some c' =>
      have hstep : stepCandidate lib c op = c' := by rw [stepCandidate, h]; rfl
      exact Or.inr (hstep ▸ next_accepts h)

/-- Every accepted operation returns a valid candidate. -/
theorem Accepts.valid {op : DeclarationOp} (hc : c.Valid lib) (h : Accepts lib c op c') :
    c'.Valid lib := by
  cases h with
  | replay _ _ => exact hc
  | put _ hput => exact hput.valid
  | attempt hvalid => exact hvalid
  | edit hedit => exact hedit.valid
  | affirm haffirm => exact haffirm.valid
  | finalize _ hvalid => exact hvalid

theorem stepCandidate_valid (hc : c.Valid lib) (op : DeclarationOp) :
    (stepCandidate lib c op).Valid lib := by
  rcases stepCandidate_cases lib c op with ⟨-, h⟩ | h
  · rw [h]
    exact hc
  · exact h.valid hc

end LesserHost.HostedGenesis
