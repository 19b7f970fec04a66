import LesserHost.HostedGenesis.Authoring
import LesserHost.Lib.Trace

set_option autoImplicit false

/-! # Runs of a candidate

What holds of every candidate that operations lead to from a new one: it is valid, its revision counts
the sections put and the edits, every call id has put at most one section, and once it is affirmed it
stays what its owner affirmed. -/

namespace LesserHost.HostedGenesis

open LesserHost.Go DeclarationCandidate

variable {lib : Library} {c c' : DeclarationCandidate} {op : DeclarationOp}

/-! ## Operations, by what they do -/

theorem stepCandidate_tool {request : DeclarationToolRequest} {now : Time}
    {result : DeclarationToolResult} (h : ApplyDeclarationTool lib c request now = .ok (some c', result)) :
    stepCandidate lib c (.tool request now) = c' := by
  simp only [stepCandidate, DeclarationOp.next, h, Option.getD_some]

theorem stepCandidate_act {action : DeclarationCandidateAction} {sourceTurnID : String} {now : Time}
    (h : ApplyDeclarationCandidateAction lib c action sourceTurnID now = .ok c') :
    stepCandidate lib c (.act action sourceTurnID now) = c' := by
  rw [stepCandidate, DeclarationOp.next, toOption_some.2 h, Option.getD_some]

/-- An edit of the owner. -/
def DeclarationOp.IsEdit : DeclarationOp → Prop
  | .act action _ _ => ToLower (TrimSpace action.Action) = "edit"
  | _ => False

/-- The call id under which the operation puts a section. A replay puts none. -/
def DeclarationOp.putCall (lib : Library) (c : DeclarationCandidate) : DeclarationOp → Option String
  | .tool request now =>
      match ApplyDeclarationTool lib c request now with
      | .ok (some _, result) =>
          if result.Idempotent then none else some (TrimSpace request.ToolCallID)
      | _ => none
  | _ => none

/-- The call ids under which a run has put sections, in order. -/
def putCalls (lib : Library) : DeclarationCandidate → List DeclarationOp → List String
  | _, [] => []
  | c, op :: ops => (op.putCall lib c).toList ++ putCalls lib (stepCandidate lib c op) ops

/-- A refused operation puts nothing. -/
theorem putCall_of_refused (h : op.next lib c = none) : op.putCall lib c = none := by
  cases op with
  | tool request now =>
      simp only [DeclarationOp.next] at h
      simp only [DeclarationOp.putCall]
      split at h
      · next next result happly =>
          subst h
          rw [happly]
      · next e happly => rw [happly]
  | attempt update now => rfl
  | act action sourceTurnID now => rfl
  | finalize sourceTurnID now => rfl

/-- An accepted operation leaves the records, or puts one record under a call id. -/
theorem Accepts.records (h : Accepts lib c op c') :
    (op.putCall lib c = none ∧ c'.ToolRecords = c.ToolRecords) ∨
    ∃ id r, op.putCall lib c = some id ∧ c'.ToolRecords = c.ToolRecords ++ [r] ∧
      r.ToolCallHash = hashText lib id := by
  cases h with
  | @replay request now result happly hreplay =>
      obtain ⟨r, -, -, rfl⟩ := hreplay.record
      refine Or.inl ⟨?_, rfl⟩
      simp only [DeclarationOp.putCall, happly]
      rfl
  | @put request now result c' happly hput =>
      obtain ⟨r, hrecords, hcall, rfl⟩ := hput.record
      refine Or.inr ⟨TrimSpace request.ToolCallID, r, ?_, hrecords, hcall.callHash⟩
      simp only [DeclarationOp.putCall, happly]
      rfl
  | attempt _ => exact Or.inl ⟨rfl, rfl⟩
  | edit hedit =>
      obtain ⟨body, -, heq⟩ := hedit.result
      exact Or.inl ⟨rfl, heq ▸ rfl⟩
  | affirm haffirm =>
      obtain ⟨affirmation, sourceTurnID, updatedAt, heq⟩ := haffirm.result
      exact Or.inl ⟨rfl, heq ▸ rfl⟩
  | finalize _ _ => exact Or.inl ⟨rfl, rfl⟩

/-- **The records of a run** are the old ones and one for each call id it has put. -/
theorem records_foldl (c : DeclarationCandidate) (ops : List DeclarationOp) :
    (ops.foldl (stepCandidate lib) c).ToolRecords.map (·.ToolCallHash)
      = c.ToolRecords.map (·.ToolCallHash) ++ (putCalls lib c ops).map (hashText lib) := by
  induction ops generalizing c with
  | nil => simp [putCalls]
  | cons op ops ih =>
      rw [List.foldl_cons, ih, putCalls]
      rcases stepCandidate_cases lib c op with ⟨hrefused, hsame⟩ | haccepted
      · rw [hsame, putCall_of_refused hrefused]
        rfl
      · rcases haccepted.records with ⟨hnone, hrecords⟩ | ⟨id, r, hsome, hrecords, hhash⟩
        · rw [hrecords, hnone]
          rfl
        · rw [hrecords, hsome, List.map_append, List.append_assoc]
          simp [hhash]

/-- Records are never taken away. -/
theorem mem_records_foldl {r : DeclarationToolRecord} (hr : r ∈ c.ToolRecords)
    (ops : List DeclarationOp) : r ∈ (ops.foldl (stepCandidate lib) c).ToolRecords := by
  refine Run.inv (I := fun d : DeclarationCandidate => r ∈ d.ToolRecords) (fun d op hd => ?_) hr ops
  rcases stepCandidate_cases lib d op with ⟨-, hsame⟩ | haccepted
  · rw [hsame]
    exact hd
  · rcases haccepted.records with ⟨-, hrecords⟩ | ⟨id, r', -, hrecords, -⟩
    · rw [hrecords]
      exact hd
    · rw [hrecords]
      exact List.mem_append_left _ hd

/-! ## Revisions -/

/-- What every candidate of a run satisfies. The revision is an integer of 64 bits. -/
structure CandidateInv (lib : Library) (c : DeclarationCandidate) : Prop where
  valid : c.Valid lib
  bounded : c.Revision < 2 ^ 63

theorem CandidateInv.new {binding : DeclarationCandidateBinding} {establishedAt : Time}
    (h : NewDeclarationCandidate lib binding establishedAt = .ok c) : CandidateInv lib c := by
  obtain ⟨hvalid, -, hrevision, -⟩ := NewDeclarationCandidate_ok h
  exact ⟨hvalid, by rw [hrevision]; decide⟩

/-- An accepted operation counts the revision up if it puts a section or is an edit, and keeps it
    otherwise. -/
theorem Accepts.count (h : Accepts lib c op c') :
    (c'.Revision = int64 (c.Revision + 1) ∧ ((op.putCall lib c).isSome ∨ op.IsEdit)) ∨
      c'.Revision = c.Revision := by
  cases h with
  | replay _ _ => exact Or.inr rfl
  | @put request now result c' happly hput =>
      obtain ⟨r, -, -, rfl⟩ := hput.record
      refine Or.inl ⟨hput.revision, Or.inl ?_⟩
      simp only [DeclarationOp.putCall, happly]
      rfl
  | attempt _ => exact Or.inr rfl
  | edit hedit =>
      obtain ⟨body, -, heq⟩ := hedit.result
      exact Or.inl ⟨heq ▸ rfl, Or.inr hedit.named⟩
  | affirm haffirm =>
      obtain ⟨affirmation, sourceTurnID, updatedAt, heq⟩ := haffirm.result
      exact Or.inr (heq ▸ rfl)
  | finalize _ _ => exact Or.inr rfl

/-- A count that runs over 64 bits is negative, and the validator refuses it. -/
theorem Accepts.revision (hc : CandidateInv lib c) (h : Accepts lib c op c') :
    (c'.Revision = c.Revision + 1 ∧ ((op.putCall lib c).isSome ∨ op.IsEdit)) ∨
      c'.Revision = c.Revision := by
  have hpos := (h.valid hc.valid).revision
  refine h.count.imp_left fun hcount => ⟨?_, hcount.2⟩
  rw [hcount.1] at hpos ⊢
  exact int64_succ hc.valid.revision hpos hc.bounded

theorem CandidateInv.step (hc : CandidateInv lib c) (op : DeclarationOp) :
    CandidateInv lib (stepCandidate lib c op) := by
  refine ⟨stepCandidate_valid hc.valid op, ?_⟩
  rcases stepCandidate_cases lib c op with ⟨-, hsame⟩ | haccepted
  · rw [hsame]
    exact hc.bounded
  · rcases haccepted.count with hcount | hsame
    · rw [hcount.1]
      unfold int64
      omega
    · rw [hsame]
      exact hc.bounded

theorem CandidateInv.run (hc : CandidateInv lib c) (ops : List DeclarationOp) :
    CandidateInv lib (ops.foldl (stepCandidate lib) c) :=
  Run.inv (I := CandidateInv lib) (fun _ op hd => hd.step op) hc ops

/-! ## Repeated calls -/

section Repeat

variable {request : DeclarationToolRequest} {now : Time} {r : DeclarationToolRecord}
  {rejection : DeclarationToolResult}

/-- No record has the call hash of another one. -/
theorem record_unique (hc : c.Valid lib) {r r' : DeclarationToolRecord} (hr : r ∈ c.ToolRecords)
    (hr' : r' ∈ c.ToolRecords) (h : r.ToolCallHash = r'.ToolCallHash) : r = r' :=
  List.inj_on_of_nodup_map hc.recordsNodup hr hr' h

/-- The same call again, in the turn it was made in, gets what is on record. -/
theorem ApplyDeclarationTool_same (hc : c.Valid lib) (hr : r ∈ c.ToolRecords)
    (hcall : r.OfCall lib request) (hid : TrimSpace request.ToolCallID ≠ "")
    (hturn : TrimSpace request.SourceTurnID = c.SourceTurnID) :
    ApplyDeclarationTool lib c request now = .ok (some c, r.replayResult) := by
  have hturn_ne : TrimSpace request.SourceTurnID ≠ "" := hcall.turn ▸ (hc.records r hr).turn
  have hfind : (c.ToolRecords.find? fun record =>
      record.ToolCallHash == hashText lib (TrimSpace request.ToolCallID)) = some r := by
    cases hfound : c.ToolRecords.find? fun record =>
        record.ToolCallHash == hashText lib (TrimSpace request.ToolCallID) with
    | none =>
        have hne := List.find?_eq_none.1 hfound r hr
        rw [hcall.callHash, beq_self_eq_true] at hne
        exact absurd rfl hne
    | some r' =>
        have hhash := List.find?_some hfound
        rw [beq_iff_eq, ← hcall.callHash] at hhash
        rw [record_unique hc (List.mem_of_find?_eq_some hfound) hr hhash]
  have hpreflight : ∃ p, preflightDeclarationTool lib c request = .ok p ∧
      p.replay = some r.replayResult := by
    unfold preflightDeclarationTool
    rw [hcall.tool]
    dsimp only
    rw [if_neg (not_or.2 ⟨hid, hturn_ne⟩), if_neg (not_not.2 hturn)]
    simp only [declarationToolReplay, hfind, hcall.inputHash, hcall.toolName, hcall.turn, ne_eq,
      not_true_eq_false, or_self, if_false]
    exact ⟨_, rfl, rfl⟩
  obtain ⟨p, hp, hreplay⟩ := hpreflight
  unfold ApplyDeclarationTool
  rw [hp]
  dsimp only
  rw [hreplay]

theorem preflightDeclarationTool_error
    (h : preflightDeclarationTool lib c request = .error rejection) : rejection.Accepted = false := by
  unfold preflightDeclarationTool at h
  split at h
  · cases h
    rfl
  · dsimp only at h
    split at h
    · cases h
      rfl
    split at h
    · cases h
      rfl
    split at h
    · next hreplay =>
        unfold declarationToolReplay at hreplay
        split at hreplay
        · cases hreplay
        · split at hreplay
          · cases hreplay
            cases h
            rfl
          · cases hreplay
    · cases h
    · split_ifs at h <;>
        · cases h
          rfl

/-- A call under an id on record that differs in its tool, its payload or its turn, or comes after the
    candidate has gone on to another turn, is refused. -/
theorem ApplyDeclarationTool_other (hc : c.Valid lib) (hr : r ∈ c.ToolRecords)
    (hhash : r.ToolCallHash = hashText lib (TrimSpace request.ToolCallID))
    (hother : r.OfCall lib request → TrimSpace request.SourceTurnID ≠ c.SourceTurnID) :
    ∃ rejection, ApplyDeclarationTool lib c request now = .ok (none, rejection) ∧
      rejection.Accepted = false := by
  cases hp : preflightDeclarationTool lib c request with
  | error rejection =>
      refine ⟨rejection, ?_, preflightDeclarationTool_error hp⟩
      unfold ApplyDeclarationTool
      rw [hp]
  | ok p =>
      have hpre := preflightDeclarationTool_ok hp
      cases hreplay : p.replay with
      | none => exact absurd hhash ((hpre.fresh hreplay).2.2.2 r hr)
      | some result =>
          obtain ⟨r', hr', hcall, -⟩ := (hpre.replay result hreplay).record
          obtain rfl := record_unique hc hr hr' (hhash.trans hcall.callHash.symm)
          exact absurd hpre.turn (hother hcall)

/-- The arguments of a call: the tool, the payload and the turn. -/
def SameArguments (request request' : DeclarationToolRequest) : Prop :=
  request'.ToolName = request.ToolName ∧ request'.Payload = request.Payload ∧
    TrimSpace request'.SourceTurnID = TrimSpace request.SourceTurnID

theorem ofCall_iff (hinj : Function.Injective lib.Sum256) {request' : DeclarationToolRequest}
    (hcall : r.OfCall lib request)
    (hid : TrimSpace request'.ToolCallID = TrimSpace request.ToolCallID) :
    r.OfCall lib request' ↔ SameArguments request request' := by
  constructor
  · intro h
    exact ⟨h.toolName.symm.trans hcall.toolName,
      hashBytes_injective hinj (h.inputHash.symm.trans hcall.inputHash), h.turn.symm.trans hcall.turn⟩
  · intro ⟨htool, hpayload, hturn⟩
    exact ⟨hid ▸ hcall.callHash, hpayload ▸ hcall.inputHash, htool ▸ hcall.toolName,
      htool ▸ hcall.tool, hturn ▸ hcall.turn⟩

/-- A call that has put a section, and its record. -/
theorem ApplyDeclarationTool_put {result : DeclarationToolResult}
    (h : ApplyDeclarationTool lib c request now = .ok (some c', result))
    (hnew : result.Idempotent = false) :
    TrimSpace request.ToolCallID ≠ "" ∧ ∃ r ∈ c'.ToolRecords, r.OfCall lib request ∧
      r.replayResult = { result with Idempotent := true } := by
  have hid : TrimSpace request.ToolCallID ≠ "" := by
    cases hp : preflightDeclarationTool lib c request with
    | error rejection =>
        unfold ApplyDeclarationTool at h
        rw [hp] at h
        cases h
    | ok p => exact (preflightDeclarationTool_ok hp).callID_ne
  rcases ApplyDeclarationTool_ok h with ⟨-, hreplay⟩ | hput
  · obtain ⟨r, -, -, rfl⟩ := hreplay.record
    cases hnew
  · obtain ⟨r, hrecords, hcall, rfl⟩ := hput.record
    exact ⟨hid, r, hrecords ▸ List.mem_append_right _ (List.mem_singleton_self r), hcall, rfl⟩

end Repeat

/-! ## The run of a candidate -/

section Runs

variable (lib : Library) {binding : DeclarationCandidateBinding} {establishedAt : Time}
  {c₀ : DeclarationCandidate}

/-- **Revisions, tool calls, validity and completeness over every run.** A repeated call gets its
    recorded result as long as the candidate is in the turn of the call, and is refused afterwards. -/
theorem candidate_runs (hinj : Function.Injective lib.Sum256)
    (hnew : NewDeclarationCandidate lib binding establishedAt = .ok c₀) (ops : List DeclarationOp) :
    let c := ops.foldl (stepCandidate lib) c₀
    (∀ op, c.Revision ≤ (stepCandidate lib c op).Revision ∧
      ((stepCandidate lib c op).Revision ≠ c.Revision →
        (op.next lib c).isSome ∧ ((op.putCall lib c).isSome ∨ op.IsEdit)) ∧
      (op.next lib c = none → stepCandidate lib c op = c)) ∧
    (putCalls lib c₀ ops).Nodup ∧
    (∀ pre request now post next result, ops = pre ++ .tool request now :: post →
      ApplyDeclarationTool lib (pre.foldl (stepCandidate lib) c₀) request now
        = .ok (some next, result) → result.Idempotent = false →
      ∀ request' now', TrimSpace request'.ToolCallID = TrimSpace request.ToolCallID →
        (SameArguments request request' ∧ c.SourceTurnID = TrimSpace request.SourceTurnID →
          ApplyDeclarationTool lib c request' now'
            = .ok (some c, { result with Idempotent := true })) ∧
        (¬ (SameArguments request request' ∧ c.SourceTurnID = TrimSpace request.SourceTurnID) →
          ∃ rejection, ApplyDeclarationTool lib c request' now' = .ok (none, rejection) ∧
            rejection.Accepted = false)) ∧
    c.Validate lib = .ok () ∧
    (c.Phase ≠ .section → ∀ s, s ∈ c.CompletedSections) := by
  intro c
  have hinv : CandidateInv lib c := (CandidateInv.new hnew).run ops
  refine ⟨fun op => ?_, ?_, ?_, Validate_ok.2 hinv.valid,
    fun hphase => hinv.valid.mem_completed (hinv.valid.complete hphase)⟩
  · rcases stepCandidate_cases lib c op with ⟨-, hsame⟩ | haccepted
    · rw [hsame]
      exact ⟨le_refl _, fun h => absurd rfl h, fun _ => rfl⟩
    · have hrefused : op.next lib c = none → stepCandidate lib c op = c := by
        intro h
        rw [stepCandidate, h]
        rfl
      rcases haccepted.revision hinv with ⟨hcount, hop⟩ | hsame
      · refine ⟨by omega, fun hne => ⟨?_, hop⟩, hrefused⟩
        rw [Option.isSome_iff_ne_none]
        intro h
        exact hne (congrArg _ (hrefused h))
      · exact ⟨hsame.ge, fun h => absurd hsame h, hrefused⟩
  · have hnodup := hinv.valid.recordsNodup
    rw [records_foldl] at hnodup
    exact (List.nodup_append.1 hnodup).2.1.of_map _
  · intro pre request now post next result hsplit happly hput request' now' hid
    obtain ⟨hne, r, hr, hcall, hresult⟩ := ApplyDeclarationTool_put happly hput
    -- the record that the call has left is on record ever after
    have hnext : stepCandidate lib (pre.foldl (stepCandidate lib) c₀) (.tool request now) = next := by
      simp only [stepCandidate, DeclarationOp.next, happly]
      rfl
    have hmem : r ∈ c.ToolRecords := by
      have hrun : c = post.foldl (stepCandidate lib) next := by
        simp only [c, hsplit, List.foldl_append, List.foldl_cons, hnext]
      rw [hrun]
      exact mem_records_foldl hr post
    refine ⟨fun hboth => ?_, fun hother => ?_⟩
    · obtain ⟨hsame, hturn⟩ := hboth
      rw [← hresult]
      exact ApplyDeclarationTool_same hinv.valid hmem ((ofCall_iff hinj hcall hid).2 hsame) (hid ▸ hne)
        (hsame.2.2.trans hturn.symm)
    · refine ApplyDeclarationTool_other hinv.valid hmem (hid ▸ hcall.callHash) fun hcall' hturn => ?_
      have hsame := (ofCall_iff hinj hcall hid).1 hcall'
      exact hother ⟨hsame, hturn.symm.trans hsame.2.2⟩

/-- The sample in its review has all five sections. -/
theorem candidate_runs_sample : ∃ (c₀ : DeclarationCandidate) (ops : List DeclarationOp),
    NewDeclarationCandidate sampleLibrary sampleBinding sampleTime = .ok c₀ ∧
    let c := ops.foldl (stepCandidate sampleLibrary) c₀
    c.Phase = .review ∧ c.Validate sampleLibrary = .ok () ∧ (∀ s, s ∈ c.CompletedSections) ∧
      (putCalls sampleLibrary c₀ ops).Nodup := by
  obtain ⟨c₀, request, c₁, result, rest, review, hnew, hfirst, -, -, -, hreviewed⟩ := sample_run
  have hc : (DeclarationOp.tool request sampleTime :: rest).foldl (stepCandidate sampleLibrary) c₀
      = rest.foldl (stepCandidate sampleLibrary) c₁ := by
    rw [List.foldl_cons, stepCandidate_tool hfirst]
  obtain ⟨-, hnodup, -, hvalid, hcomplete⟩ := candidate_runs sampleLibrary sampleLibrary_injective hnew
    (.tool request sampleTime :: rest)
  have hphase := hreviewed.phase
  rw [← hc] at hphase
  exact ⟨c₀, _, hnew, hphase, hvalid, hcomplete (by rw [hphase]; decide), hnodup⟩

/-- **The same call again is refused once the owner has edited in another turn.** -/
theorem repeat_refused_after_edit : ¬ ∀ (lib : Library), Function.Injective lib.Sum256 →
    ∀ (binding : DeclarationCandidateBinding) (establishedAt : Time) (c₀ : DeclarationCandidate),
    NewDeclarationCandidate lib binding establishedAt = .ok c₀ →
    ∀ (pre : List DeclarationOp) (request : DeclarationToolRequest) (now : Time)
      (post : List DeclarationOp) (next : DeclarationCandidate) (result : DeclarationToolResult),
    ApplyDeclarationTool lib (pre.foldl (stepCandidate lib) c₀) request now = .ok (some next, result) →
    result.Idempotent = false →
    ∃ d, ApplyDeclarationTool lib ((pre ++ .tool request now :: post).foldl (stepCandidate lib) c₀)
      request now = .ok (some d, { result with Idempotent := true }) := by
  intro hclaim
  obtain ⟨c₀, request, c₁, result, rest, review, hnew, hfirst, hput, hturn, -, hreviewed⟩ := sample_run
  obtain ⟨-, r, hr, hcall, -⟩ := ApplyDeclarationTool_put hfirst hput
  have hmem : r ∈ (rest.foldl (stepCandidate sampleLibrary) c₁).ToolRecords :=
    mem_records_foldl hr rest
  set c₅ := rest.foldl (stepCandidate sampleLibrary) c₁ with hc₅
  let action : DeclarationCandidateAction :=
    ⟨"edit", some .identity, c₅.Revision, c₅.CandidateHash, review.ReviewHash⟩
  have hnamed : ToLower (TrimSpace "edit") = "edit" := by decide
  have hedit : ApplyDeclarationCandidateAction sampleLibrary c₅ action "turn-2" sampleTime
      = .ok (c₅.reopened (some .identity) "turn-2" sampleTime) :=
    edit_accepted hreviewed.valid (hreviewed.names rfl rfl rfl) hnamed rfl (by decide)
      sampleTime_set (by rw [hreviewed.revision]; decide)
  obtain ⟨d, hrepeat⟩ := hclaim sampleLibrary sampleLibrary_injective sampleBinding sampleTime c₀ hnew []
    request sampleTime (rest ++ [.act action "turn-2" sampleTime]) c₁ result hfirst hput
  rw [List.nil_append, List.foldl_cons, stepCandidate_tool hfirst, List.foldl_append, ← hc₅,
    List.foldl_cons, List.foldl_nil, stepCandidate_act hedit] at hrepeat
  have hvalid : (c₅.reopened (some .identity) "turn-2" sampleTime).Valid sampleLibrary := by
    have h := stepCandidate_valid hreviewed.valid (.act action "turn-2" sampleTime)
    rwa [stepCandidate_act hedit] at h
  have hturns : sampleTurnID ≠ TrimSpace "turn-2" := by decide
  have hrefused : ∃ rejection, ApplyDeclarationTool sampleLibrary
      (c₅.reopened (some .identity) "turn-2" sampleTime) request sampleTime = .ok (none, rejection) ∧
      rejection.Accepted = false :=
    ApplyDeclarationTool_other hvalid hmem hcall.callHash fun _ hsame => hturns (hturn.symm.trans hsame)
  obtain ⟨rejection, hrefused, -⟩ := hrefused
  rw [hrefused] at hrepeat
  cases hrepeat

end Runs

/-! ## From the affirmation on -/

/-- The candidate is affirmed, and perhaps finalized. -/
def Settled (c : DeclarationCandidate) : Prop := c.Phase = .affirmed ∨ c.Phase = .finalized

/-- What the owner has affirmed is what it was. -/
structure SameDeclaration (c c' : DeclarationCandidate) : Prop where
  revision : c.Revision = c'.Revision
  candidateHash : c.CandidateHash = c'.CandidateHash
  canonicalJSON : c.CanonicalJSON = c'.CanonicalJSON
  review : c.Review = c'.Review

theorem SameDeclaration.refl (c : DeclarationCandidate) : SameDeclaration c c := ⟨rfl, rfl, rfl, rfl⟩

theorem SameDeclaration.trans {c d e : DeclarationCandidate} (h : SameDeclaration c d)
    (h' : SameDeclaration d e) : SameDeclaration c e :=
  ⟨h.revision.trans h'.revision, h.candidateHash.trans h'.candidateHash,
    h.canonicalJSON.trans h'.canonicalJSON, h.review.trans h'.review⟩

/-- No tool call is accepted but one that is on record, which changes nothing, and no action. -/
def NoChange (lib : Library) (c : DeclarationCandidate) : DeclarationOp → Prop
  | .tool request now => ∀ next result,
      ApplyDeclarationTool lib c request now = .ok (some next, result) →
      result.Idempotent = true ∧ next = c
  | .act action sourceTurnID now => (DeclarationOp.act action sourceTurnID now).next lib c = none
  | _ => True

theorem Settled.not_section (h : Settled c) : c.Phase ≠ .section := by
  rcases h with h | h <;> (rw [h]; decide)

theorem Settled.not_review (h : Settled c) : c.Phase ≠ .review := by
  rcases h with h | h <;> (rw [h]; decide)

theorem Settled.noChange (h : Settled c) (op : DeclarationOp) : NoChange lib c op := by
  cases op with
  | tool request now =>
      intro next result happly
      rcases ApplyDeclarationTool_ok happly with ⟨hsame, hreplay⟩ | hput
      · obtain ⟨r, -, -, rfl⟩ := hreplay.record
        exact ⟨rfl, hsame⟩
      · exact absurd hput.phase h.not_section
  | act action sourceTurnID now =>
      rcases stepCandidate_cases lib c (.act action sourceTurnID now) with ⟨hrefused, -⟩ | haccepted
      · exact hrefused
      · cases haccepted with
        | edit hedit => exact absurd hedit.phase h.not_review
        | affirm haffirm => exact absurd haffirm.phase h.not_review
  | attempt update now => trivial
  | finalize sourceTurnID now => trivial

theorem Settled.same (h : Settled c) (op : DeclarationOp) :
    SameDeclaration c (stepCandidate lib c op) := by
  rcases stepCandidate_cases lib c op with ⟨-, hsame⟩ | haccepted
  · rw [hsame]
    exact .refl c
  · generalize stepCandidate lib c op = c' at haccepted
    cases haccepted with
    | replay _ _ => exact .refl c
    | put _ hput => exact absurd hput.phase h.not_section
    | attempt _ => exact ⟨rfl, rfl, rfl, rfl⟩
    | edit hedit => exact absurd hedit.phase h.not_review
    | affirm haffirm => exact absurd haffirm.phase h.not_review
    | finalize _ _ => exact ⟨rfl, rfl, rfl, rfl⟩

/-- Only an affirmation settles a candidate. -/
theorem settled_by_affirmation (h : ¬ Settled c) (h' : Settled (stepCandidate lib c op)) :
    ∃ action sourceTurnID now, op = .act action sourceTurnID now ∧
      Affirmed lib c action (stepCandidate lib c op) := by
  rcases stepCandidate_cases lib c op with ⟨-, hsame⟩ | haccepted
  · rw [hsame] at h'
    exact absurd h' h
  · generalize stepCandidate lib c op = c' at haccepted h'
    cases haccepted with
    | replay _ _ => exact absurd h' h
    | put _ hput =>
        rcases hput.phase' with hphase | hphase
        · exact absurd hphase h'.not_section
        · exact absurd hphase h'.not_review
    | attempt _ => exact absurd h' h
    | edit hedit =>
        obtain ⟨body, -, heq⟩ := hedit.result
        exact absurd (heq ▸ rfl) h'.not_section
    | affirm haffirm => exact ⟨_, _, _, rfl, haffirm⟩
    | finalize hphase _ => exact absurd (Or.inl hphase) h

theorem Affirmed.same {action : DeclarationCandidateAction} (h : Affirmed lib c action c') :
    SameDeclaration c c' := by
  obtain ⟨affirmation, sourceTurnID, updatedAt, heq⟩ := h.result
  exact heq ▸ ⟨rfl, rfl, rfl, rfl⟩

/-- An action that changes the candidate has been accepted. -/
theorem applyAction_of_changed {action : DeclarationCandidateAction} {sourceTurnID : String}
    {now : Time} (h : stepCandidate lib c (.act action sourceTurnID now) ≠ c) :
    ApplyDeclarationCandidateAction lib c action sourceTurnID now
      = .ok (stepCandidate lib c (.act action sourceTurnID now)) := by
  cases hnext : (DeclarationOp.act action sourceTurnID now).next lib c with
  | none =>
      rw [stepCandidate, hnext] at h
      exact absurd rfl h
  | some d =>
      rw [stepCandidate, hnext]
      exact toOption_some.1 hnext

/-- **What is finalized is what its owner affirmed.** The hashes are compared without the white space
    around them. -/
theorem finalized_as_affirmed (lib : Library) (hinj : Function.Injective lib.Sum256)
    {binding : DeclarationCandidateBinding} {establishedAt : Time} {c₀ : DeclarationCandidate}
    (hnew : NewDeclarationCandidate lib binding establishedAt = .ok c₀) (ops : List DeclarationOp)
    (hfinal : (ops.foldl (stepCandidate lib) c₀).Phase = .finalized) :
    let c := ops.foldl (stepCandidate lib) c₀
    ∃ (pre : List DeclarationOp) (action : DeclarationCandidateAction) (sourceTurnID : String)
      (now : Time) (post : List DeclarationOp) (review : DeclarationReviewCheckpoint),
      ops = pre ++ DeclarationOp.act action sourceTurnID now :: post ∧
      ToLower (TrimSpace action.Action) = "affirm" ∧
      ApplyDeclarationCandidateAction lib (pre.foldl (stepCandidate lib) c₀) action sourceTurnID now
        = .ok ((pre ++ [DeclarationOp.act action sourceTurnID now]).foldl (stepCandidate lib) c₀) ∧
      action.CandidateRevision = c.Revision ∧ TrimSpace action.CandidateHash = c.CandidateHash ∧
      c.Review = some review ∧ TrimSpace action.ReviewHash = review.ReviewHash ∧
      hashBytes lib review.ReviewText = review.ReviewHash ∧
      (∀ text, hashBytes lib text = review.ReviewHash →
        RecoverDeclarationOwnerReviewCanonicalJSON lib text = .ok c.CanonicalJSON) ∧
      Along (stepCandidate lib) (NoChange lib)
        ((pre ++ [DeclarationOp.act action sourceTurnID now]).foldl (stepCandidate lib) c₀) post := by
  intro c
  have hinv : CandidateInv lib c := (CandidateInv.new hnew).run ops
  have hstart : ¬ Settled c₀ := by
    intro h
    exact h.not_section (NewDeclarationCandidate_ok hnew).2.1
  obtain ⟨pre, op, post, rfl, hbefore, hafter, hall⟩ := Run.entry (P := Settled) hstart (Or.inr hfinal)
  obtain ⟨action, sourceTurnID, now, rfl, haffirmed⟩ := settled_by_affirmation hbefore hafter
  have hentry : (pre ++ [DeclarationOp.act action sourceTurnID now]).foldl (stepCandidate lib) c₀
      = stepCandidate lib (pre.foldl (stepCandidate lib) c₀) (.act action sourceTurnID now) := by
    rw [List.foldl_append, List.foldl_cons, List.foldl_nil]
  have hsame : SameDeclaration (pre.foldl (stepCandidate lib) c₀) c := by
    have hc : c = post.foldl (stepCandidate lib) (stepCandidate lib
        (pre.foldl (stepCandidate lib) c₀) (.act action sourceTurnID now)) := by
      simp only [c, List.foldl_append, List.foldl_cons]
    rw [hc]
    exact haffirmed.same.trans (Run.related (R := SameDeclaration) SameDeclaration.refl
      SameDeclaration.trans (fun _ op h => Settled.same h op) hall)
  obtain ⟨review, hreview, hreviewHash⟩ := haffirmed.review
  have hfound : c.Review = some review := hsame.review ▸ hreview
  have hok := hinv.valid.review review hfound
  refine ⟨pre, action, sourceTurnID, now, post, review, rfl, haffirmed.named, ?_, ?_, ?_, hfound,
    hreviewHash, hok.reviewHash.symm, fun text htext => ?_, ?_⟩
  · rw [hentry]
    refine applyAction_of_changed fun h => hbefore ?_
    rwa [h] at hafter
  · exact haffirmed.revision.trans hsame.revision
  · exact haffirmed.candidateHash.trans hsame.candidateHash
  · rw [hashBytes_injective hinj (htext.trans hok.reviewHash)]
    exact hok.recovered
  · rw [hentry]
    exact Along.of_inv (I := fun _ => True) (fun _ _ _ _ => trivial)
      (fun _ op _ h => Settled.noChange h op) trivial hall

/-! The sample, affirmed under a hash with a blank in front, called once more, and finalized. -/

/-- No tool call is accepted. -/
def NoToolAccepted (lib : Library) (c : DeclarationCandidate) : DeclarationOp → Prop
  | .tool request now => ∀ next result,
      ApplyDeclarationTool lib c request now ≠ .ok (some next, result)
  | _ => True

theorem sample_finalized :
    ∃ (c₀ c₅ c₆ : DeclarationCandidate) (tools : List DeclarationOp)
      (action : DeclarationCandidateAction) (request : DeclarationToolRequest)
      (result : DeclarationToolResult),
      NewDeclarationCandidate sampleLibrary sampleBinding sampleTime = .ok c₀ ∧
      (∀ op ∈ tools, ∃ request now, op = .tool request now) ∧
      tools.foldl (stepCandidate sampleLibrary) c₀ = c₅ ∧
      stepCandidate sampleLibrary c₅ (.act action sampleTurnID sampleTime) = c₆ ∧
      ApplyDeclarationTool sampleLibrary c₆ request sampleTime = .ok (some c₆, result) ∧
      (stepCandidate sampleLibrary c₆ (.finalize sampleTurnID sampleTime)).Phase = .finalized ∧
      (stepCandidate sampleLibrary c₆ (.finalize sampleTurnID sampleTime)).CandidateHash
        = c₅.CandidateHash ∧ action.CandidateHash = " " ++ c₅.CandidateHash := by
  obtain ⟨c₀, request, c₁, result, rest, review, hnew, hfirst, hput, hturn, htools, hreviewed⟩ :=
    sample_run
  obtain ⟨hid, r, hr, hcall, -⟩ := ApplyDeclarationTool_put hfirst hput
  have hmem : r ∈ (rest.foldl (stepCandidate sampleLibrary) c₁).ToolRecords :=
    mem_records_foldl hr rest
  set c₅ := rest.foldl (stepCandidate sampleLibrary) c₁ with hc₅
  let action : DeclarationCandidateAction :=
    ⟨"affirm", none, c₅.Revision, " " ++ c₅.CandidateHash, review.ReviewHash⟩
  have hnamed : ToLower (TrimSpace "affirm") = "affirm" := by decide
  have haffirm : ApplyDeclarationCandidateAction sampleLibrary c₅ action sampleTurnID sampleTime
      = .ok (c₅.affirmedBy review sampleTurnID sampleTime) :=
    affirm_accepted hreviewed.valid (hreviewed.names rfl (TrimSpace_space _) rfl) hnamed
      (by decide) sampleTime_set
  have hvalid : (c₅.affirmedBy review sampleTurnID sampleTime).Valid sampleLibrary := by
    have h := stepCandidate_valid hreviewed.valid (.act action sampleTurnID sampleTime)
    rwa [stepCandidate_act haffirm] at h
  have hreplay : ApplyDeclarationTool sampleLibrary (c₅.affirmedBy review sampleTurnID sampleTime)
      request sampleTime = .ok (some (c₅.affirmedBy review sampleTurnID sampleTime), r.replayResult) :=
    ApplyDeclarationTool_same hvalid hmem hcall hid (hturn.trans sampleTurnID_trimmed.symm)
  have hfinal : FinalizeDeclarationCandidate sampleLibrary
      (c₅.affirmedBy review sampleTurnID sampleTime) sampleTurnID sampleTime
      = .ok { c₅.affirmedBy review sampleTurnID sampleTime with
          Phase := .finalized, UpdatedAt := sampleTime.UTC } :=
    finalize_accepted hvalid rfl rfl rfl sampleTime_set
  have hend : stepCandidate sampleLibrary (c₅.affirmedBy review sampleTurnID sampleTime)
      (.finalize sampleTurnID sampleTime) = { c₅.affirmedBy review sampleTurnID sampleTime with
          Phase := .finalized, UpdatedAt := sampleTime.UTC } := by
    rw [stepCandidate, DeclarationOp.next, toOption_some.2 hfinal, Option.getD_some]
  refine ⟨c₀, c₅, _, .tool request sampleTime :: rest, action, request, r.replayResult, hnew, ?_, ?_,
    stepCandidate_act haffirm, hreplay, ?_, ?_, rfl⟩
  · intro op hop
    rcases List.mem_cons.1 hop with rfl | hop
    · exact ⟨_, _, rfl⟩
    · exact htools op hop
  · rw [List.foldl_cons, stepCandidate_tool hfirst]
  · rw [hend]
  · rw [hend]
    rfl

theorem finalized_as_affirmed_sample :
    ∃ (c₀ : DeclarationCandidate) (ops : List DeclarationOp),
      NewDeclarationCandidate sampleLibrary sampleBinding sampleTime = .ok c₀ ∧
      ∃ (pre : List DeclarationOp) (action : DeclarationCandidateAction) (sourceTurnID : String)
        (now : Time) (post : List DeclarationOp), ops = pre ++ DeclarationOp.act action sourceTurnID now :: post ∧
        TrimSpace action.CandidateHash = (ops.foldl (stepCandidate sampleLibrary) c₀).CandidateHash := by
  obtain ⟨c₀, c₅, c₆, tools, action, request, result, hnew, -, htools, haction, -, hfinal, -, -⟩ :=
    sample_finalized
  have hrun : (tools ++ [DeclarationOp.act action sampleTurnID sampleTime, .finalize sampleTurnID sampleTime]).foldl
      (stepCandidate sampleLibrary) c₀
      = stepCandidate sampleLibrary c₆ (.finalize sampleTurnID sampleTime) := by
    rw [List.foldl_append, htools, List.foldl_cons, haction, List.foldl_cons, List.foldl_nil]
  obtain ⟨pre, action', sourceTurnID, now, post, review, hsplit, -, -, -, hhash, -⟩ :=
    finalized_as_affirmed sampleLibrary sampleLibrary_injective hnew
      (tools ++ [DeclarationOp.act action sampleTurnID sampleTime, .finalize sampleTurnID sampleTime])
      (by rw [hrun]; exact hfinal)
  exact ⟨c₀, _, hnew, pre, action', sourceTurnID, now, post, hsplit, hhash⟩

/-- **In a finalized run the affirmation need not name the hash letter by letter, and a tool call may
    have been accepted since.** -/
theorem finalized_otherwise :
    ∃ (c₀ : DeclarationCandidate) (ops : List DeclarationOp),
      NewDeclarationCandidate sampleLibrary sampleBinding sampleTime = .ok c₀ ∧
      (ops.foldl (stepCandidate sampleLibrary) c₀).Phase = .finalized ∧
      ∀ (pre : List DeclarationOp) (action : DeclarationCandidateAction) (sourceTurnID : String)
        (now : Time) (post : List DeclarationOp), ops = pre ++ DeclarationOp.act action sourceTurnID now :: post →
        action.CandidateHash ≠ (ops.foldl (stepCandidate sampleLibrary) c₀).CandidateHash ∧
        ¬ Along (stepCandidate sampleLibrary) (NoToolAccepted sampleLibrary)
          ((pre ++ [DeclarationOp.act action sourceTurnID now]).foldl (stepCandidate sampleLibrary) c₀) post := by
  obtain ⟨c₀, c₅, c₆, tools, action, request, result, hnew, hall, htools, haction, hreplay, hfinal,
    hhash, hnamed⟩ := sample_finalized
  have hrun : (tools ++ DeclarationOp.act action sampleTurnID sampleTime ::
      [.tool request sampleTime, .finalize sampleTurnID sampleTime]).foldl
      (stepCandidate sampleLibrary) c₀
      = stepCandidate sampleLibrary c₆ (.finalize sampleTurnID sampleTime) := by
    rw [List.foldl_append, htools, List.foldl_cons, haction, List.foldl_cons, stepCandidate_tool hreplay,
      List.foldl_cons, List.foldl_nil]
  refine ⟨c₀, _, hnew, by rw [hrun]; exact hfinal, ?_⟩
  intro pre action' sourceTurnID now post hsplit
  -- there is one action in the run
  have hnotTool : ∀ op ∈ tools, ∀ a t n, op ≠ .act a t n := by
    intro op hop a t n heq
    obtain ⟨request', now', hop'⟩ := hall op hop
    rw [hop'] at heq
    cases heq
  have hone : tools = pre ∧ action = action' ∧ post = [DeclarationOp.tool request sampleTime,
      .finalize sampleTurnID sampleTime] ∧ sampleTurnID = sourceTurnID ∧ sampleTime = now := by
    rcases List.append_eq_append_iff.1 hsplit with ⟨more, hpre, hmore⟩ | ⟨more, hpre, hmore⟩
    · cases more with
      | nil =>
          obtain ⟨hop, hpost⟩ := List.cons.inj hmore
          cases hop
          exact ⟨by rw [hpre, List.append_nil], rfl, hpost.symm, rfl, rfl⟩
      | cons a more =>
          have hmem : DeclarationOp.act action' sourceTurnID now ∈
              [DeclarationOp.tool request sampleTime, .finalize sampleTurnID sampleTime] := by
            rw [(List.cons.inj hmore).2]
            exact List.mem_append_right _ List.mem_cons_self
          simp at hmem
    · cases more with
      | nil =>
          obtain ⟨hop, hpost⟩ := List.cons.inj hmore
          cases hop
          exact ⟨by rw [hpre, List.append_nil], rfl, hpost, rfl, rfl⟩
      | cons a more =>
          have hmem : a ∈ tools := by
            rw [hpre]
            exact List.mem_append_right _ List.mem_cons_self
          exact absurd (List.cons.inj hmore).1.symm (hnotTool a hmem _ _ _)
  obtain ⟨rfl, rfl, rfl, rfl, rfl⟩ := hone
  refine ⟨?_, fun halong => ?_⟩
  · rw [hrun, hhash, hnamed]
    intro h
    have hlength := congrArg (fun s => s.toList.length) h
    simp only [String.toList_append, List.length_append] at hlength
    have hone : " ".toList.length = 1 := by decide
    omega
  · rw [List.foldl_append, htools, List.foldl_cons, List.foldl_nil, haction] at halong
    exact halong.1 _ _ hreplay

end LesserHost.HostedGenesis
