import LesserHost.HostedGenesis.SessionCommits

set_option autoImplicit false

/-! # Ready and published sessions

What stands in a row that says `declaration_ready` or `published`. The validator asks for the evidence of
a declaration, a checkpoint, whatever operation writes the row (`Gate`). It does not ask for a candidate:
that a ready row carries the finalized candidate its checkpoint names is established by the finalization
and kept by writers that pass on what they have read (`Finalized`, `PassesOn`). -/

namespace LesserHost.HostedGenesis

open LesserHost.Go

/-! ## The evidence -/

def readyStatuses : List String := [StatusDeclarationReady, StatusPublished]

/-- The publication is complete in itself. -/
def PublicationCheckpoint.Complete (p : PublicationCheckpoint) : Prop :=
  p.ValidatePublished p.RegistrationID p.ConversationID p.AgentID = .ok ()

/-- The evidence a ready or published row carries. -/
structure Gate (row : HostedGenesisSession) : Prop where
  ready : row.Status ∈ readyStatuses →
    ∃ checkpoint, row.DeclarationCheckpoint = some checkpoint ∧ checkpoint.Validate = .ok ()
  published : row.Status = StatusPublished →
    row.Failure = none ∧ ∃ publication, row.Publication = some publication ∧ publication.Complete

variable {sv : Services} {now : Time}

theorem CanPublish_ok {status registrationID conversationID agentID : String}
    {declarationCheckpoint : Option DeclarationCheckpoint}
    (h : CanPublish status registrationID conversationID agentID declarationCheckpoint = .ok ()) :
    ∃ checkpoint, declarationCheckpoint = some checkpoint ∧ checkpoint.Validate = .ok () := by
  unfold CanPublish at h
  cases declarationCheckpoint with
  | none => cases h
  | some checkpoint =>
      refine ⟨checkpoint, rfl, ?_⟩
      rw [guard_ok] at h
      cases hvalid : checkpoint.Validate with
      | error e =>
          rw [hvalid] at h
          cases h.2
      | ok u => rfl

theorem ValidatePublished_ok {p : PublicationCheckpoint} {registrationID conversationID agentID : String}
    (h : p.ValidatePublished registrationID conversationID agentID = .ok ()) : p.Complete := by
  have hfold : EqualFold (TrimSpace p.AgentID) (TrimSpace p.AgentID) = true := by simp [EqualFold]
  unfold PublicationCheckpoint.ValidatePublished at h
  cases hprepared : p.ValidatePrepared registrationID conversationID agentID with
  | error e =>
      rw [hprepared] at h
      cases h
  | ok u =>
      rw [hprepared] at h
      simp only [guard_ok, and_true] at h
      simp only [PublicationCheckpoint.ValidatePrepared, guard_ok, not_or, and_true] at hprepared
      obtain ⟨hregistration, -, hconversation, -, hagent, -, hversion, hissued, hdigest⟩ := hprepared
      have hown : p.ValidatePrepared p.RegistrationID p.ConversationID p.AgentID = .ok () := by
        simp only [PublicationCheckpoint.ValidatePrepared, guard_ok, not_or, and_true]
        exact ⟨hregistration, not_not.2 rfl, hconversation, not_not.2 rfl, hagent, by simp [hfold],
          hversion, hissued, hdigest⟩
      unfold PublicationCheckpoint.Complete PublicationCheckpoint.ValidatePublished
      rw [hown]
      simp only [guard_ok, and_true]
      exact h

/-- **The gate of the validator.** -/
theorem gate_of_contract {row : HostedGenesisSession}
    (h : row.validateDurableStatusContract = .ok ()) : Gate row := by
  have hne : StatusDeclarationReady ≠ StatusPublished := by decide
  unfold HostedGenesisSession.validateDurableStatusContract at h
  by_cases hready : row.Status = StatusDeclarationReady
  · rw [if_pos hready, seq_ok] at h
    exact ⟨fun _ => CanPublish_ok h.1, fun hp => absurd (hready.symm.trans hp) hne⟩
  rw [if_neg hready] at h
  by_cases hpublished : row.Status = StatusPublished
  · rw [if_pos hpublished, guard_ok, seq_ok] at h
    obtain ⟨hfailure, hgate, hpublication⟩ := h
    refine ⟨fun _ => CanPublish_ok hgate, fun _ => ⟨by simpa using hfailure, ?_⟩⟩
    cases hrow : row.Publication with
    | none =>
        rw [hrow] at hpublication
        cases hpublication
    | some publication =>
        rw [hrow] at hpublication
        exact ⟨publication, rfl, ValidatePublished_ok hpublication⟩
  · refine ⟨fun hmem => ?_, fun hp => absurd hp hpublished⟩
    simp only [readyStatuses, List.mem_cons, List.not_mem_nil, or_false] at hmem
    exact (hmem.elim hready hpublished).elim

/-- A row that has failed is not ready. -/
theorem not_ready_of_failed {status : String} (h : NormalizeStatus status = StatusFailed) :
    status ∉ readyStatuses := by
  have hall : ∀ status ∈ readyStatuses, NormalizeStatus status ≠ StatusFailed := by decide
  exact fun hmem => hall status hmem h

theorem BeforeCreate_ok {item item' : HostedGenesisSession} (h : item.BeforeCreate sv now = .ok item') :
    ∃ item₀ : HostedGenesisSession, Normalized sv item₀ item' ∧
      item₀.Status = (if TrimSpace item.Status = "" then StatusCreated else item.Status) ∧
      item₀.Version = item.Version ∧ item₀.InstanceSlug = item.InstanceSlug ∧
      item₀.ConversationID = item.ConversationID := by
  unfold HostedGenesisSession.BeforeCreate at h
  refine ⟨_, validateAndUpdateKeys_ok h, ?_⟩
  split_ifs <;> exact ⟨rfl, rfl, rfl, rfl⟩

theorem Writes.gate {c : Commit} {status : String}
    {update : HostedGenesisSession → HostedGenesisSession} (h : Writes sv c status update)
    (old : HostedGenesisSession) : Gate (update old) := by
  cases h with
  | set item normalized follows =>
      have hgate := gate_of_contract normalized.contract
      exact ⟨hgate.ready, hgate.published⟩
  | failure failed follows =>
      have hno : (c.item.setFailure old).Status ∉ readyStatuses := not_ready_of_failed failed
      refine ⟨fun hmem => absurd hmem hno, fun hp => absurd ?_ hno⟩
      rw [hp]
      decide

/-! ## The finalized candidate -/

/-- Phase and hash of the candidate, and the hash in the checkpoint. -/
def declared (row : HostedGenesisSession) :
    Option (DeclarationCandidatePhase × String) × Option String :=
  (row.DeclarationCandidate.map fun c => (c.Phase, c.CandidateHash),
    row.DeclarationCheckpoint.map (·.DeclarationHash))

/-- The row carries the finalized candidate its checkpoint names. -/
def Finalized (row : HostedGenesisSession) : Prop :=
  ∃ hash, declared row = (some (.finalized, TrimSpace hash), some hash)

theorem Normalized.declared {item item' : HostedGenesisSession} (h : Normalized sv item item') :
    declared item' = declared item := by
  unfold HostedGenesis.declared
  rw [h.candidate, h.checkpoint, Option.map_map]
  rfl

def SessionOp.isFinalize : SessionOp → Bool
  | .finalize .. => true
  | _ => false

/-- A finalization brings the finalized candidate and its hash. -/
theorem finalize_ok {c : Commit} {items : List TransactItem} (hop : c.op.isFinalize = true)
    (h : c.transaction sv = .ok items) : Finalized c.item := by
  cases hc : c.op with
  | finalize turn revision hash conversation =>
      simp only [Commit.transaction, hc, FinalizeHostedGenesisCandidateAndConversation] at h
      split at h
      · cases h
      · next candidate hcandidate =>
          simp only [guard_ok, Bool.not_eq_true', Bool.not_eq_false] at h
          obtain ⟨hguard, hcheckpoint, -⟩ := h
          simp only [hostedGenesisFinalizationCandidateGuardValid, Bool.and_eq_true, beq_iff_eq] at hguard
          simp only [hostedGenesisFinalizationCheckpointValid, Bool.and_eq_true, Option.any_eq_true,
            beq_iff_eq] at hcheckpoint
          obtain ⟨-, checkpoint, hsome, hhash⟩ := hcheckpoint
          refine ⟨checkpoint.DeclarationHash, ?_⟩
          rw [declared, hcandidate, hsome, Option.map_some, Option.map_some, hguard.1.1.1.1.1.1, hhash]
  | update => rw [hc] at hop; cases hop
  | checkpoint => rw [hc] at hop; cases hop
  | recordAssistantTurn => rw [hc] at hop; cases hop
  | fail => rw [hc] at hop; cases hop
  | publish => rw [hc] at hop; cases hop

section Runs

variable {W : Type} [DecidableEq W]

/-- A writer that makes a session ready finalizes it, or passes on the declaration of a ready row he has
    found. -/
def PassesOn (sv : Services) (s : Writers W) : Act W → Prop
  | .read _ _ _ => True
  | .create _ item _ => NormalizeStatus item.Status ∉ readyStatuses
  | .commit c => ∀ db', c.run sv s.db = .ok db' → c.op.isFinalize = false →
      NormalizeStatus c.item.Status ∈ readyStatuses →
      ∃ old, s.db.sessions c.key = some old ∧ old.Status ∈ readyStatuses ∧ declared c.item = declared old

/-- The row of a commit is the old one with what the item brings, unless the session fails. -/
theorem Writes.brings {c : Commit} {status : String}
    {update : HostedGenesisSession → HostedGenesisSession} (h : Writes sv c status update)
    (hfailed : NormalizeStatus c.item.Status ≠ StatusFailed) (old : HostedGenesisSession) :
    (update old).Status = NormalizeStatus c.item.Status ∧ declared (update old) = declared c.item ∧
      (update old).Publication = c.item.Publication := by
  cases h with
  | set item normalized follows =>
      have hdeclared : declared (item.set old) = declared item := rfl
      exact ⟨normalized.status, hdeclared.trans normalized.declared, normalized.publication⟩
  | failure failed follows => exact absurd failed hfailed

theorem Writes.ready {c : Commit} {status : String}
    {update : HostedGenesisSession → HostedGenesisSession} (h : Writes sv c status update)
    {old : HostedGenesisSession} (hready : (update old).Status ∈ readyStatuses) :
    NormalizeStatus c.item.Status ≠ StatusFailed := by
  intro hfailed
  cases h with
  | set item normalized follows =>
      have hstatus : (item.set old).Status = NormalizeStatus c.item.Status := normalized.status
      rw [hstatus, hfailed] at hready
      exact not_ready_of_failed (NormalizeStatus_allowed (by decide)) hready
  | failure failed follows => exact not_ready_of_failed failed hready

/-- What is said of every row, said of the rows of a table. -/
def AllRows (P : HostedGenesisSession → Prop) (s : Writers W) : Prop :=
  ∀ key row, rows s key = some row → P row

/-- A property of rows is kept if created rows have it and committed rows have it. -/
theorem allRows_step {P : HostedGenesisSession → Prop} {s : Writers W} {a : Act W} (hs : AllRows P s)
    (hcreate : ∀ now item refused item', a = .create now item refused →
      item.BeforeCreate sv now = .ok item' → P item')
    (hcommit : ∀ c db' old status update, a = .commit c → c.run sv s.db = .ok db' →
      s.db.sessions c.key = some old → Writes sv c status update → P (update old)) :
    AllRows P (step sv s a) := by
  intro key row hrow
  cases a with
  | read w slug conversationID =>
      rw [rows, (step_read s w slug conversationID).1] at hrow
      exact hs key row hrow
  | create now item refused =>
      rw [step] at hrow
      cases hrun : create sv now item refused s.db with
      | error e =>
          rw [hrun] at hrow
          exact hs key row hrow
      | ok db =>
          obtain ⟨item', hitem, -, hdb⟩ := create_ok hrun
          rw [hrun, Writers.after, rows, hdb] at hrow
          by_cases hkey : key = (item'.PK, item'.SK)
          · rw [hkey, Function.update_self] at hrow
            obtain rfl := Option.some.inj hrow
            exact hcreate now item refused _ rfl hitem
          · rw [Function.update_of_ne hkey] at hrow
            exact hs key row hrow
  | commit c =>
      rw [step] at hrow
      cases hrun : c.run sv s.db with
      | error e =>
          rw [hrun] at hrow
          exact hs key row hrow
      | ok db =>
          obtain ⟨old, status, update, hold, -, -, hwrites, hdb⟩ := Commit.run_ok hrun
          rw [hrun, Writers.after, rows, hdb] at hrow
          by_cases hkey : key = c.key
          · rw [hkey, Function.update_self] at hrow
            obtain rfl := Option.some.inj hrow
            exact hcommit c db old status update rfl hrun hold hwrites
          · rw [Function.update_of_ne hkey] at hrow
            exact hs key row hrow

theorem step_gate (s : Writers W) (a : Act W) (h : AllRows Gate s) : AllRows Gate (step sv s a) := by
  refine allRows_step h ?_ ?_
  · intro now item refused item' _ hitem
    obtain ⟨item₀, hnormalized, -⟩ := BeforeCreate_ok hitem
    exact gate_of_contract hnormalized.contract
  · intro c db' old status update _ _ _ hwrites
    exact hwrites.gate old

/-- The rows that are ready carry their finalized candidate. -/
def ReadyFinalized (row : HostedGenesisSession) : Prop := row.Status ∈ readyStatuses → Finalized row

theorem step_finalized (s : Writers W) (a : Act W) (h : AllRows ReadyFinalized s)
    (hpass : PassesOn sv s a) : AllRows ReadyFinalized (step sv s a) := by
  refine allRows_step h ?_ ?_
  · rintro now item refused item' rfl hitem hready
    obtain ⟨item₀, hnormalized, hstatus, -⟩ := BeforeCreate_ok hitem
    have hcreated : NormalizeStatus StatusCreated ∉ readyStatuses := by
      rw [NormalizeStatus_allowed (by decide)]
      decide
    rw [hnormalized.status, hstatus] at hready
    split_ifs at hready
    · exact absurd hready hcreated
    · exact absurd hready hpass
  · rintro c db' old status update rfl hrun hold hwrites hready
    obtain ⟨hstatus, hdeclared, -⟩ := hwrites.brings (hwrites.ready hready) old
    unfold Finalized
    rw [hdeclared]
    by_cases hop : c.op.isFinalize = true
    · rw [Commit.run, bind_ok] at hrun
      obtain ⟨items, hitems, -⟩ := hrun
      exact finalize_ok hop hitems
    · rw [hstatus] at hready
      obtain ⟨found, hfound, hfoundReady, hsame⟩ := hpass db' hrun (by simpa using hop) hready
      rw [hsame]
      exact h c.key found hfound hfoundReady

def emptyDB : DB := ⟨fun _ => none, fun _ => none, fun _ => none⟩

/-- **What a ready session carries.** After any run of the store on an empty table, a ready or published
    row has a declaration checkpoint that passes its validation, and a published row a complete
    publication and no failure. If every writer that makes a row ready finalizes it or passes on what he
    has found, a ready or published row carries the finalized candidate its checkpoint names. A
    published row stays published, and an operation on it changes its publication and declaration only
    to those of its own item. -/
theorem ready_gate (sv : Services) (acts : List (Act W)) :
    let start : Writers W := ⟨emptyDB, fun _ => none⟩
    let s := acts.foldl (step sv) start
    (∀ key row, s.db.sessions key = some row → Gate row) ∧
    (Along (step sv) (PassesOn sv) start acts → ∀ key row, s.db.sessions key = some row →
      row.Status ∈ readyStatuses → Finalized row) ∧
    ∀ (c : Commit) db' old, c.run sv s.db = .ok db' → s.db.sessions c.key = some old →
      old.Status = StatusPublished → NormalizeStatus c.item.Status = StatusPublished ∧
        ∃ new, db'.sessions = Function.update s.db.sessions c.key (some new) ∧
          new.Status = StatusPublished ∧ declared new = declared c.item ∧
          new.Publication = c.item.Publication := by
  intro start s
  refine ⟨?_, ?_, ?_⟩
  · exact Run.inv step_gate (fun key row h => by cases h) acts
  · intro hpass
    have hrun : ∀ (acts : List (Act W)) (t : Writers W), AllRows ReadyFinalized t →
        Along (step sv) (PassesOn sv) t acts → AllRows ReadyFinalized (acts.foldl (step sv) t) := by
      intro acts
      induction acts with
      | nil => exact fun t ht _ => ht
      | cons a acts ih => exact fun t ht hp => ih _ (step_finalized t a ht hp.1) hp.2
    exact hrun acts start (fun key row h => by cases h) hpass
  · intro c db' old hrun hold hpublished
    obtain ⟨old', status, update, hold', -, rfl, hwrites, hdb⟩ := Commit.run_ok hrun
    obtain rfl := Option.some.inj (hold'.symm.trans hold)
    have hfollows := hwrites.follows old'
    rw [hpublished] at hfollows
    have hstays := hfollows.of_terminal (Or.inl rfl)
    cases hwrites with
    | set item normalized follows =>
        have hstatus : (item.set old').Status = NormalizeStatus c.item.Status := normalized.status
        rw [hstatus, NormalizeStatus_idem] at hstays
        obtain ⟨-, hdeclared, hpublication⟩ := (Writes.set item normalized follows).brings
          (by rw [hstays]; decide) old'
        exact ⟨hstays, _, hdb, hstatus.trans hstays, hdeclared, hpublication⟩
    | failure failed follows =>
        rw [HostedGenesisSession.setFailure, failed] at hstays
        exact absurd hstays (by decide)

end Runs

/-! ## A session without a candidate -/

def sampleCheckpoint : DeclarationCheckpoint where
  DeclarationID := "declaration"
  DeclarationHash := "sha256:" ++ String.ofList (List.replicate 64 'a')
  CheckpointRef := "ref"
  ProducedAt := ⟨2, .utc⟩
  RegistrationID := "reg"
  ConversationID := "conv"
  AgentID := "0xaa"
  MessageCount := 1
  Model := ""
  SchemaVersion := DeclarationSchemaVersionV2
  GuidanceVersion := GuidanceVersionV2
  RequestID := "req"

def sampleReady : HostedGenesisSession :=
  { sampleSession with Status := StatusDeclarationReady, DeclarationCheckpoint := some sampleCheckpoint }

/-- The generic update. -/
def sampleUpdate : Commit where
  op := .update
  now := ⟨2, .utc⟩
  item := sampleReady
  expectedVersion := 0
  expectedStatus := StatusInProgress
  refused := false

def sampleInProgress : HostedGenesisSession := { sampleSession with Status := StatusInProgress }

/-- The session is created with a turn under way, and becomes ready. -/
def sampleActs : List (Act Unit) := [.create ⟨1, .utc⟩ sampleInProgress false, .commit sampleUpdate]

/-- A creation and a commit that are accepted. -/
theorem create_commit {now : Time} {item : HostedGenesisSession} {refused : Bool} {c : Commit}
    {s : Writers Unit} {db db' : DB} (hcreate : create sv now item refused s.db = .ok db)
    (hrun : c.run sv db = .ok db') :
    ([.create now item refused, .commit c].foldl (step sv) s).db = db' := by
  simp only [List.foldl_cons, List.foldl_nil, step, hcreate, Writers.after, hrun]

theorem sampleStatuses : NormalizeStatus StatusInProgress = StatusInProgress ∧
    NormalizeStatus StatusDeclarationReady = StatusDeclarationReady ∧
    TrimSpace StatusInProgress ≠ "" ∧ StatusDeclarationReady ≠ StatusFailed := by decide

theorem sample_created : (create sampleServices ⟨1, .utc⟩ sampleInProgress false emptyDB).isOk = true := by
  decide

theorem sampleUpdate_valid : (sampleUpdate.transaction sampleServices).isOk = true := by
  decide +kernel

theorem sampleUpdate_key : sampleUpdate.key = sessionKey sampleInProgress.InstanceSlug
    sampleInProgress.ConversationID := rfl

theorem sampleRow_ready : ∃ row, (sampleActs.foldl (step sampleServices)
      ⟨emptyDB, fun _ => none⟩).db.sessions sampleUpdate.key = some row ∧
    row.Status = StatusDeclarationReady ∧ row.DeclarationCandidate = none := by
  obtain ⟨hprogress, hready, hset, hne⟩ := sampleStatuses
  cases hcreate : create sampleServices ⟨1, .utc⟩ sampleInProgress false emptyDB with
  | error e =>
      have hcreated := sample_created
      rw [hcreate] at hcreated
      cases hcreated
  | ok db =>
      obtain ⟨item, hitem, -, hdb⟩ := create_ok hcreate
      obtain ⟨item₀, hnormalized, hstatus₀, hversion, hslug, hconversation⟩ := BeforeCreate_ok hitem
      have hkey : (item.PK, item.SK) = sampleUpdate.key := by
        rw [hnormalized.key, hslug, hconversation, sampleUpdate_key]
      have hfound : db.sessions sampleUpdate.key = some item := by
        rw [hdb, hkey, Function.update_self]
      have hitemStatus : item.Status = NormalizeStatus sampleUpdate.expectedStatus := by
        rw [hnormalized.status, hstatus₀, sampleInProgress, if_neg hset, sampleUpdate]
      obtain ⟨db', hrun⟩ := Commit.update_accepted (c := sampleUpdate) (by simp only [sampleUpdate])
        (by simp only [sampleUpdate]) sampleUpdate_valid hfound (hnormalized.version.trans hversion)
        hitemStatus
      obtain ⟨old, status, update, hold, -, -, hwrites, hdb'⟩ := Commit.run_ok hrun
      have hrow : (sampleActs.foldl (step sampleServices)
          ⟨emptyDB, fun _ => none⟩).db.sessions sampleUpdate.key = some (update old) := by
        rw [sampleActs, create_commit (s := ⟨emptyDB, fun _ => none⟩) hcreate hrun, hdb', Function.update_self]
      have hitemReady : NormalizeStatus sampleUpdate.item.Status = StatusDeclarationReady := by
        simp only [sampleUpdate, sampleReady, hready]
      obtain ⟨hstatus, hdeclared, -⟩ := hwrites.brings (by rw [hitemReady]; exact hne) old
      have hnone := congrArg Prod.fst hdeclared
      simp only [declared, sampleUpdate, sampleReady, sampleSession, Option.map_none,
        Option.map_eq_none_iff] at hnone
      exact ⟨_, hrow, hstatus.trans hitemReady, hnone⟩

/-- A row gets ready without a candidate. -/
theorem not_ready_finalized : ¬ ∀ (acts : List (Act Unit)) key row,
    (acts.foldl (step sampleServices) ⟨emptyDB, fun _ => none⟩).db.sessions key = some row →
    row.Status ∈ readyStatuses → Finalized row := by
  intro h
  obtain ⟨row, hrow, hstatus, hnone⟩ := sampleRow_ready
  obtain ⟨hash, hfinal⟩ := h sampleActs sampleUpdate.key row hrow
    (by rw [hstatus]; exact List.mem_cons_self)
  have hfirst := congrArg Prod.fst hfinal
  rw [declared, hnone] at hfirst
  cases hfirst

/-- The ready row without a candidate has its evidence all the same. -/
theorem ready_gate_sample : ∃ row checkpoint, (sampleActs.foldl (step sampleServices)
      ⟨emptyDB, fun _ => none⟩).db.sessions sampleUpdate.key = some row ∧
    row.DeclarationCheckpoint = some checkpoint ∧ checkpoint.Validate = .ok () := by
  obtain ⟨row, hrow, hstatus, -⟩ := sampleRow_ready
  obtain ⟨hgates, -⟩ := ready_gate sampleServices sampleActs
  have hgate := hgates sampleUpdate.key row hrow
  obtain ⟨checkpoint, hcheckpoint, hvalid⟩ := hgate.ready (by rw [hstatus]; exact List.mem_cons_self)
  exact ⟨row, checkpoint, hrow, hcheckpoint, hvalid⟩

end LesserHost.HostedGenesis
