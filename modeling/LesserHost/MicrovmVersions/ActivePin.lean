import LesserHost.MicrovmVersions.Pruner

set_option autoImplicit false

/-! # The active version while versions are deleted

Before a version is deleted, `deleteAll` in `pruner.go` asks for the active version of the image. The calls of a
run are recorded beside the state of the service: only the first delete comes directly after such an answer,
since every later one comes after a wait. -/

namespace LesserHost.MicrovmVersions

open LesserHost.Go

/-! ## The calls of a run -/

/-- A call on the service or the clock, with the state of the service before it where that matters. -/
inductive Call (σ : Type) where
  | ResolveImage (imageName : String) (before : σ)
  | ListVersions (imageARN : String)
  | DeleteVersion (imageARN version : String) (before : σ)
  | sleep (d : Int)

section Calls

variable {σ : Type}

/-- The service with a record of the calls on it. -/
def Client.recorded (c : Client σ) : Client (σ × List (Call σ)) where
  ResolveImage imageName s :=
    let r := c.ResolveImage imageName s.1
    (r.1, r.2, s.2 ++ [.ResolveImage imageName s.1])
  ListVersions imageARN s :=
    let r := c.ListVersions imageARN s.1
    (r.1, r.2, s.2 ++ [.ListVersions imageARN])
  DeleteVersion imageARN version s :=
    let r := c.DeleteVersion imageARN version s.1
    (r.1, r.2, s.2 ++ [.DeleteVersion imageARN version s.1])
  sleep d s :=
    let r := c.sleep d s.1
    (r.1, r.2, s.2 ++ [.sleep d])

/-- The calls of a run of `Prune`. -/
def pruneCalls (p : Pruner) (c : Client σ) (imageName : String) (s : σ) : List (Call σ) :=
  (Prune p c.recorded imageName (s, [])).2.2

def Call.IsDelete : Call σ → Prop
  | .DeleteVersion .. => True
  | _ => False

/-- No delete was tried yet. -/
def Untried (calls : List (Call σ)) : Prop := ∀ call ∈ calls, ¬ call.IsDelete

/-- The last of the calls asked for the active version and left the state `s`; the answer is not `version`. -/
def Checked (c : Client σ) (imageName version : String) (s : σ) (calls : List (Call σ)) : Prop :=
  ∃ earlier before image, calls = earlier ++ [.ResolveImage imageName before] ∧
    c.ResolveImage imageName before = (.ok image, s) ∧ image.LatestActiveImageVersion ≠ version

/-- `active` is what the service answers for the active version. -/
def Client.Answers (c : Client σ) (active : σ → String) : Prop :=
  ∀ ⦃imageName s s' image⦄, c.ResolveImage imageName s = (.ok image, s') →
    image.LatestActiveImageVersion = active s'

/-- Of the deletes, those are checked that no other comes before. -/
def FirstChecked (c : Client σ) (imageName : String) (calls : List (Call σ)) : Prop :=
  ∀ earlier imageARN version s later, calls = earlier ++ .DeleteVersion imageARN version s :: later →
    (Checked c imageName version s earlier ↔ Untried earlier)

variable {c : Client σ} {imageName imageARN version : String} {calls : List (Call σ)} {call : Call σ} {s : σ}

theorem untried_append : Untried (calls ++ [call]) ↔ Untried calls ∧ ¬ call.IsDelete := by
  simp [Untried, or_imp, forall_and]

theorem not_checked_sleep {d : Int} : ¬ Checked c imageName version s (calls ++ [.sleep d]) := by
  rintro ⟨earlier, before, image, heq, -⟩
  have hlast := (List.append_inj' heq rfl).2
  cases hlast

theorem Untried.firstChecked (h : Untried calls) : FirstChecked c imageName calls := by
  intro earlier imageARN version s later heq
  exact absurd trivial (h (.DeleteVersion imageARN version s) (by simp [heq]))

theorem FirstChecked.append (h : FirstChecked c imageName calls)
    (hcall : ∀ imageARN version s, call = .DeleteVersion imageARN version s →
      (Checked c imageName version s calls ↔ Untried calls)) :
    FirstChecked c imageName (calls ++ [call]) := by
  intro earlier imageARN version s later heq
  rcases List.eq_nil_or_concat later with rfl | ⟨later, last, rfl⟩
  · obtain ⟨rfl, hlast⟩ := List.append_inj' heq rfl
    exact hcall imageARN version s (List.singleton_inj.1 hlast)
  · rw [List.concat_eq_append, ← List.cons_append, ← List.append_assoc] at heq
    exact h _ _ _ _ later (List.append_inj' heq rfl).1

theorem FirstChecked.quiet (h : FirstChecked c imageName calls) (hcall : ¬ call.IsDelete) :
    FirstChecked c imageName (calls ++ [call]) := by
  refine h.append fun imageARN version s heq => ?_
  rw [heq] at hcall
  exact absurd trivial hcall

/-! ### One call -/

theorem recorded_ResolveImage {s s' : σ × List (Call σ)} {answer : Except ClientError Image}
    (h : c.recorded.ResolveImage imageName s = (answer, s')) :
    s'.2 = s.2 ++ [.ResolveImage imageName s.1] := by
  cases h
  rfl

theorem recorded_ListVersions {s s' : σ × List (Call σ)} {answer : Except ClientError (List Version)}
    (h : c.recorded.ListVersions imageARN s = (answer, s')) : s'.2 = s.2 ++ [.ListVersions imageARN] := by
  cases h
  rfl

theorem recorded_DeleteVersion {s s' : σ × List (Call σ)} {answer : Option ClientError}
    (h : c.recorded.DeleteVersion imageARN version s = (answer, s')) :
    s'.2 = s.2 ++ [.DeleteVersion imageARN version s.1] := by
  cases h
  rfl

theorem recorded_sleep {s s' : σ × List (Call σ)} {d : Int} {answer : Option String}
    (h : c.recorded.sleep d s = (answer, s')) : s'.2 = s.2 ++ [.sleep d] := by
  cases h
  rfl

theorem plain_ResolveImage {s s' : σ × List (Call σ)} {answer : Except ClientError Image}
    (h : c.recorded.ResolveImage imageName s = (answer, s')) :
    c.ResolveImage imageName s.1 = (answer, s'.1) := by
  cases h
  rfl

theorem plain_ListVersions {s s' : σ × List (Call σ)} {answer : Except ClientError (List Version)}
    (h : c.recorded.ListVersions imageARN s = (answer, s')) :
    c.ListVersions imageARN s.1 = (answer, s'.1) := by
  cases h
  rfl

theorem plain_DeleteVersion {s s' : σ × List (Call σ)} {answer : Option ClientError}
    (h : c.recorded.DeleteVersion imageARN version s = (answer, s')) :
    c.DeleteVersion imageARN version s.1 = (answer, s'.1) := by
  cases h
  rfl

theorem plain_sleep {s s' : σ × List (Call σ)} {d : Int} {answer : Option String}
    (h : c.recorded.sleep d s = (answer, s')) : c.sleep d s.1 = (answer, s'.1) := by
  cases h
  rfl

end Calls

/-! ## Every call of a run -/

section Run

variable {σ : Type} {p : Pruner} {c : Client σ} {imageName imageARN version : String}
  {s : σ × List (Call σ)}

/-- Every delete that is tried again comes after a wait. -/
theorem retryLoop_calls {attempts : Nat} {backoff : Int} {lastErr : String}
    (hfirst : FirstChecked c imageName s.2) (hnext : Checked c imageName version s.1 s.2 ↔ Untried s.2) :
    FirstChecked c imageName (retryLoop p c.recorded imageARN version attempts backoff lastErr s).2.2 ∧
      (attempts ≠ 0 ∨ ¬ Untried s.2 →
        ¬ Untried (retryLoop p c.recorded imageARN version attempts backoff lastErr s).2.2) := by
  induction attempts generalizing backoff lastErr s with
  | zero => exact ⟨hfirst, fun h => h.resolve_left fun h0 => h0 rfl⟩
  | succ attempts ih =>
      rw [retryLoop]
      rcases hdelete : c.recorded.DeleteVersion imageARN version s with ⟨answer, s₁⟩
      have hcalls : s₁.2 = s.2 ++ [.DeleteVersion imageARN version s.1] := recorded_DeleteVersion hdelete
      have hfirst₁ : FirstChecked c imageName s₁.2 := by
        rw [hcalls]
        refine hfirst.append fun _ _ _ heq => ?_
        cases heq
        exact hnext
      have htried : ¬ Untried s₁.2 := by
        rw [hcalls, untried_append]
        exact fun h => h.2 trivial
      cases answer with
      | none => exact ⟨hfirst₁, fun _ => htried⟩
      | some err =>
          dsimp only
          by_cases hconflict : err.isConflict = false
          · rw [if_pos hconflict]
            exact ⟨hfirst₁, fun _ => htried⟩
          · rw [if_neg hconflict]
            rcases hsleep : c.recorded.sleep backoff s₁ with ⟨waited, s₂⟩
            have hcalls₂ : s₂.2 = s₁.2 ++ [.sleep backoff] := recorded_sleep hsleep
            have hfirst₂ : FirstChecked c imageName s₂.2 := hcalls₂ ▸ hfirst₁.quiet id
            have htried₂ : ¬ Untried s₂.2 := by
              rw [hcalls₂, untried_append]
              exact fun h => htried h.1
            cases waited with
            | some waitErr => exact ⟨hfirst₂, fun _ => htried₂⟩
            | none =>
                have hwait : ¬ Checked c imageName version s₂.1 s₂.2 := by
                  rw [hcalls₂]
                  exact not_checked_sleep
                obtain ⟨hrest, hkept⟩ := ih hfirst₂ (iff_of_false hwait htried₂)
                exact ⟨hrest, fun _ => hkept (.inr htried₂)⟩

theorem deleteWithRetry_calls (hattempts : p.maxConflictAttempts ≠ 0) {failed : Option String}
    {s' : σ × List (Call σ)} (hfirst : FirstChecked c imageName s.2)
    (hnext : Checked c imageName version s.1 s.2 ↔ Untried s.2)
    (h : deleteWithRetry p c.recorded imageARN version s = (failed, s')) :
    FirstChecked c imageName s'.2 ∧ ¬ Untried s'.2 := by
  rw [deleteWithRetry] at h
  have hloop : FirstChecked c imageName
      (retryLoop p c.recorded imageARN version p.maxConflictAttempts p.conflictRetryBase "<nil>" s).2.2 ∧ _ :=
    retryLoop_calls hfirst hnext
  rw [h] at hloop
  exact ⟨hloop.1, hloop.2 (.inl hattempts)⟩

/-- The answer for the active version is followed by a delete only where none was tried yet. -/
theorem deleteAll_calls (hattempts : p.maxConflictAttempts ≠ 0) {targets : List Version} {firstDelete : Bool}
    {t : Tally} (hfirst : FirstChecked c imageName s.2) (hflag : firstDelete = true ↔ Untried s.2) :
    FirstChecked c imageName (deleteAll p c.recorded imageName imageARN targets firstDelete t s).2.2.2 := by
  induction targets generalizing firstDelete t s with
  | nil => exact hfirst
  | cons v rest ih =>
      rw [deleteAll, currentActiveVersion]
      rcases hresolve : c.recorded.ResolveImage imageName s with ⟨answer, s₁⟩
      have hcalls : s₁.2 = s.2 ++ [.ResolveImage imageName s.1] := recorded_ResolveImage hresolve
      have hfirst₁ : FirstChecked c imageName s₁.2 := hcalls ▸ hfirst.quiet id
      have hflag₁ : firstDelete = true ↔ Untried s₁.2 := by
        rw [hcalls, untried_append, hflag]
        exact ⟨fun h => ⟨h, id⟩, And.left⟩
      cases answer with
      | error err => exact hfirst₁
      | ok image =>
          dsimp only
          by_cases hactive : image.LatestActiveImageVersion = v.ImageVersion
          · rw [if_pos hactive]
            exact ih hfirst₁ hflag₁
          · rw [if_neg hactive]
            rcases hsettle : (if firstDelete then ((none : Option String), s₁)
              else c.recorded.sleep p.settleAfterDelete s₁) with ⟨settled, s₂⟩
            have hsettled : FirstChecked c imageName s₂.2 ∧
                (Checked c imageName v.ImageVersion s₂.1 s₂.2 ↔ Untried s₂.2) := by
              by_cases hflagged : firstDelete = true
              · rw [if_pos hflagged] at hsettle
                obtain rfl : s₁ = s₂ := congrArg Prod.snd hsettle
                exact ⟨hfirst₁, iff_of_true ⟨s.2, s.1, image, hcalls, plain_ResolveImage hresolve, hactive⟩
                  (hflag₁.1 hflagged)⟩
              · rw [if_neg hflagged] at hsettle
                have hcalls₂ : s₂.2 = s₁.2 ++ [.sleep p.settleAfterDelete] := recorded_sleep hsettle
                rw [hcalls₂]
                refine ⟨hfirst₁.quiet id, iff_of_false not_checked_sleep fun h => ?_⟩
                exact hflagged (hflag₁.2 (untried_append.1 h).1)
            cases settled with
            | some sleepErr => exact hsettled.1
            | none =>
                dsimp only
                rcases hretry : deleteWithRetry p c.recorded imageARN v.ImageVersion s₂ with ⟨failed, s₃⟩
                obtain ⟨hfirst₃, htried⟩ := deleteWithRetry_calls hattempts hsettled.1 hsettled.2 hretry
                have hflag₃ : false = true ↔ Untried s₃.2 := iff_of_false Bool.false_ne_true htried
                cases failed with
                | some delErr => exact ih hfirst₃ hflag₃
                | none => exact ih hfirst₃ hflag₃

theorem confirmRoom_calls {res : Result} (hfirst : FirstChecked c imageName s.2) :
    FirstChecked c imageName (confirmRoom p c.recorded imageName res s).2.2 := by
  rw [confirmRoom]
  rcases hlist : c.recorded.ListVersions res.ImageARN s with ⟨answer, s₁⟩
  have hcalls : s₁.2 = s.2 ++ [.ListVersions res.ImageARN] := recorded_ListVersions hlist
  have hfirst₁ : FirstChecked c imageName s₁.2 := hcalls ▸ hfirst.quiet id
  cases answer with
  | error err => exact hfirst₁
  | ok remaining =>
      dsimp only
      split_ifs <;> exact hfirst₁

theorem pruneTargets_calls (hattempts : p.maxConflictAttempts ≠ 0) {deletable : List Version} {res : Result}
    (huntried : Untried s.2) :
    FirstChecked c imageName (pruneTargets p c.recorded imageName deletable res s).2.2 := by
  rw [pruneTargets]
  have hall : FirstChecked c imageName
      (deleteAll p c.recorded imageName res.ImageARN deletable true ⟨0, 0, 0, []⟩ s).2.2.2 :=
    deleteAll_calls hattempts huntried.firstChecked (iff_of_true rfl huntried)
  rcases hrun : deleteAll p c.recorded imageName res.ImageARN deletable true ⟨0, 0, 0, []⟩ s with ⟨t, err, s₁⟩
  rw [hrun] at hall
  cases err with
  | some err => exact hall
  | none =>
      dsimp only
      rcases hsettle : (if deletable = [] then ((none : Option String), s₁)
        else c.recorded.sleep p.settleBeforeReList s₁) with ⟨settled, s₂⟩
      have hfirst₂ : FirstChecked c imageName s₂.2 := by
        split_ifs at hsettle with hempty
        · obtain rfl : s₁ = s₂ := congrArg Prod.snd hsettle
          exact hall
        · have hcalls : s₂.2 = s₁.2 ++ [.sleep p.settleBeforeReList] := recorded_sleep hsettle
          exact hcalls ▸ hall.quiet id
      cases settled with
      | some sleepErr => exact hfirst₂
      | none => exact confirmRoom_calls hfirst₂

/-- Of the deletes of a run, the first is checked and no other. -/
theorem Prune_calls (hattempts : p.maxConflictAttempts ≠ 0) (huntried : Untried s.2) :
    FirstChecked c imageName (Prune p c.recorded imageName s).2.2 := by
  rw [Prune, resolveRequiredOrNoop]
  rcases hresolve : c.recorded.ResolveImage imageName s with ⟨answer, s₁⟩
  have hcalls₁ : s₁.2 = s.2 ++ [.ResolveImage imageName s.1] := recorded_ResolveImage hresolve
  have huntried₁ : Untried s₁.2 := hcalls₁ ▸ untried_append.2 ⟨huntried, id⟩
  cases answer with
  | error err =>
      dsimp only
      split_ifs <;> exact huntried₁.firstChecked
  | ok image =>
      dsimp only
      rcases hlist : c.recorded.ListVersions image.ARN s₁ with ⟨listed, s₂⟩
      have hcalls₂ : s₂.2 = s₁.2 ++ [.ListVersions image.ARN] := recorded_ListVersions hlist
      have huntried₂ : Untried s₂.2 := hcalls₂ ▸ untried_append.2 ⟨huntried₁, id⟩
      cases listed with
      | error err => exact huntried₂.firstChecked
      | ok versions =>
          dsimp only
          rw [refreshActiveVersion]
          rcases hagain : c.recorded.ResolveImage imageName s₂ with ⟨current, s₃⟩
          have hcalls₃ : s₃.2 = s₂.2 ++ [.ResolveImage imageName s₂.1] := recorded_ResolveImage hagain
          have huntried₃ : Untried s₃.2 := hcalls₃ ▸ untried_append.2 ⟨huntried₂, id⟩
          cases current with
          | error err => exact huntried₃.firstChecked
          | ok current =>
              dsimp only
              split_ifs <;> exact pruneTargets_calls hattempts huntried₃

/-! ## Recording changes nothing -/

theorem retryLoop_recorded {attempts : Nat} {backoff : Int} {lastErr : String} :
    Prod.map id Prod.fst (retryLoop p c.recorded imageARN version attempts backoff lastErr s) =
      retryLoop p c imageARN version attempts backoff lastErr s.1 := by
  induction attempts generalizing backoff lastErr s with
  | zero => rfl
  | succ attempts ih =>
      rw [retryLoop, retryLoop]
      rcases hdelete : c.recorded.DeleteVersion imageARN version s with ⟨answer, s₁⟩
      rw [plain_DeleteVersion hdelete]
      cases answer with
      | none => rfl
      | some err =>
          dsimp only
          by_cases hconflict : err.isConflict = false
          · rw [if_pos hconflict, if_pos hconflict]
            rfl
          · rw [if_neg hconflict, if_neg hconflict]
            rcases hsleep : c.recorded.sleep backoff s₁ with ⟨waited, s₂⟩
            rw [plain_sleep hsleep]
            cases waited with
            | some waitErr => rfl
            | none => exact ih

theorem deleteAll_recorded {targets : List Version} {firstDelete : Bool} {t : Tally} :
    Prod.map id (Prod.map id Prod.fst) (deleteAll p c.recorded imageName imageARN targets firstDelete t s) =
      deleteAll p c imageName imageARN targets firstDelete t s.1 := by
  induction targets generalizing firstDelete t s with
  | nil => rfl
  | cons v rest ih =>
      rw [deleteAll, deleteAll, currentActiveVersion, currentActiveVersion]
      rcases hresolve : c.recorded.ResolveImage imageName s with ⟨answer, s₁⟩
      rw [plain_ResolveImage hresolve]
      cases answer with
      | error err => rfl
      | ok image =>
          dsimp only
          by_cases hactive : image.LatestActiveImageVersion = v.ImageVersion
          · rw [if_pos hactive, if_pos hactive]
            exact ih
          · rw [if_neg hactive, if_neg hactive]
            rcases hsettle : (if firstDelete then ((none : Option String), s₁)
              else c.recorded.sleep p.settleAfterDelete s₁) with ⟨settled, s₂⟩
            have hplain : (if firstDelete then ((none : Option String), s₁.1)
                else c.sleep p.settleAfterDelete s₁.1) = (settled, s₂.1) := by
              split_ifs at hsettle ⊢
              · cases hsettle
                rfl
              · exact plain_sleep hsettle
            rw [hplain]
            cases settled with
            | some sleepErr => rfl
            | none =>
                dsimp only
                rw [deleteWithRetry, deleteWithRetry, ← retryLoop_recorded]
                rcases retryLoop p c.recorded imageARN v.ImageVersion p.maxConflictAttempts p.conflictRetryBase
                  "<nil>" s₂ with ⟨failed, s₃⟩
                cases failed with
                | some delErr => exact ih
                | none => exact ih

theorem confirmRoom_recorded {res : Result} :
    Prod.map id Prod.fst (confirmRoom p c.recorded imageName res s) = confirmRoom p c imageName res s.1 := by
  rw [confirmRoom, confirmRoom]
  rcases hlist : c.recorded.ListVersions res.ImageARN s with ⟨answer, s₁⟩
  rw [plain_ListVersions hlist]
  cases answer with
  | error err => rfl
  | ok remaining =>
      dsimp only
      split_ifs <;> rfl

theorem pruneTargets_recorded {deletable : List Version} {res : Result} :
    Prod.map id Prod.fst (pruneTargets p c.recorded imageName deletable res s) =
      pruneTargets p c imageName deletable res s.1 := by
  rw [pruneTargets, pruneTargets, ← deleteAll_recorded]
  rcases deleteAll p c.recorded imageName res.ImageARN deletable true ⟨0, 0, 0, []⟩ s with ⟨t, err, s₁⟩
  cases err with
  | some err => rfl
  | none =>
      dsimp only [Prod.map, id]
      by_cases hempty : deletable = []
      · rw [if_pos hempty, if_pos hempty]
        exact confirmRoom_recorded
      · rw [if_neg hempty, if_neg hempty]
        rcases hsleep : c.recorded.sleep p.settleBeforeReList s₁ with ⟨settled, s₂⟩
        rw [plain_sleep hsleep]
        cases settled with
        | some sleepErr => rfl
        | none => exact confirmRoom_recorded

/-- A run whose calls are recorded is the run itself. -/
theorem Prune_recorded :
    Prod.map id Prod.fst (Prune p c.recorded imageName s) = Prune p c imageName s.1 := by
  rw [Prune, Prune, resolveRequiredOrNoop, resolveRequiredOrNoop]
  rcases hresolve : c.recorded.ResolveImage imageName s with ⟨answer, s₁⟩
  rw [plain_ResolveImage hresolve]
  cases answer with
  | error err =>
      dsimp only
      split_ifs <;> rfl
  | ok image =>
      dsimp only
      rcases hlist : c.recorded.ListVersions image.ARN s₁ with ⟨listed, s₂⟩
      rw [plain_ListVersions hlist]
      cases listed with
      | error err => rfl
      | ok versions =>
          dsimp only
          rw [refreshActiveVersion, refreshActiveVersion]
          rcases hagain : c.recorded.ResolveImage imageName s₂ with ⟨current, s₃⟩
          rw [plain_ResolveImage hagain]
          cases current with
          | error err => rfl
          | ok current =>
              dsimp only
              split_ifs <;> exact pruneTargets_recorded

end Run

/-! ## The active version is deleted -/

theorem NewPruner_maxConflictAttempts (opts : List PrunerOption) : (NewPruner opts).maxConflictAttempts ≠ 0 := by
  have hkeep : ∀ p : Pruner, (opts.foldl PrunerOption.apply p).maxConflictAttempts = p.maxConflictAttempts := by
    induction opts with
    | nil => exact fun p => rfl
    | cons opt opts ih =>
        intro p
        rw [List.foldl_cons, ih]
        cases opt <;> rfl
  rw [NewPruner, hkeep]
  decide

/-- **The re-check of the active version.** A delete of a run comes directly after an answer that names another
version as the active one if and only if it is the first delete of the run. As long as the active version is the
one that was answered, the first delete is then of another version. -/
theorem active_version_rechecked (opts : List PrunerOption) {σ : Type} (c : Client σ) (imageName : String) (s₀ : σ)
    {earlier later : List (Call σ)} {imageARN version : String} {s : σ}
    (h : pruneCalls (NewPruner opts) c imageName s₀ = earlier ++ .DeleteVersion imageARN version s :: later) :
    (Checked c imageName version s earlier ↔ Untried earlier) ∧
      ∀ active : σ → String, c.Answers active → Untried earlier → active s ≠ version := by
  have hiff : Checked c imageName version s earlier ↔ Untried earlier :=
    Prune_calls (NewPruner_maxConflictAttempts opts) (fun _ hcall => absurd hcall List.not_mem_nil)
      earlier imageARN version s later h
  refine ⟨hiff, fun active hanswers huntried => ?_⟩
  obtain ⟨before, s', image, -, hresolve, hother⟩ := hiff.2 huntried
  rwa [← hanswers hresolve]

/-- Newest first. -/
def sampleVersions : List Version :=
  [⟨"v3", ⟨2, .utc⟩, "SUCCESSFUL", ""⟩, ⟨"v2", ⟨1, .utc⟩, "SUCCESSFUL", ""⟩, ⟨"v1", ⟨0, .utc⟩, "SUCCESSFUL", ""⟩]

/-- The state is the active version. -/
def sampleService : Client String where
  ResolveImage imageName active := (.ok ⟨imageName, "arn", active⟩, active)
  ListVersions _ active := (.ok sampleVersions, active)
  DeleteVersion _ _ active := (none, active)
  -- while the pruner waits, an older version becomes the active one
  sleep _ _ := (none, "v2")

theorem sampleService_answers : sampleService.Answers id := by
  intro imageName s s' image h
  cases h
  rfl

theorem sampleVersions_selected : selectDeletable 1 sampleVersions "v3" =
    [⟨"v1", ⟨0, .utc⟩, "SUCCESSFUL", ""⟩, ⟨"v2", ⟨1, .utc⟩, "SUCCESSFUL", ""⟩] := by
  have hlive : (sampleVersions.filter fun v => v.State ≠ "DELETED") = sampleVersions := by decide
  have hsorted : sortNewest sampleVersions = sampleVersions := List.mergeSort_of_pairwise (by decide)
  rw [selectDeletable, hlive, hsorted]
  decide

/-- Both old versions are deleted, the second one while it is active. -/
theorem sampleService_calls : pruneCalls (NewPruner [.WithKeepN 1]) sampleService "image" "v3" =
    [.ResolveImage "image" "v3", .ListVersions "arn", .ResolveImage "image" "v3", .ResolveImage "image" "v3",
      .DeleteVersion "arn" "v1" "v3", .ResolveImage "image" "v3", .sleep (5 * Second),
      .DeleteVersion "arn" "v2" "v2", .sleep (10 * Second), .ListVersions "arn"] := by
  have hselected : selectDeletable (NewPruner [.WithKeepN 1]).keepN sampleVersions "v3" =
      [⟨"v1", ⟨0, .utc⟩, "SUCCESSFUL", ""⟩, ⟨"v2", ⟨1, .utc⟩, "SUCCESSFUL", ""⟩] := sampleVersions_selected
  rw [pruneCalls, Prune]
  dsimp only [resolveRequiredOrNoop, Client.recorded, sampleService, refreshActiveVersion]
  simp only [String.reduceEq, if_false, ne_eq, not_false_eq_true, if_true, hselected]
  rfl

theorem active_version_rechecked_first : "v3" ≠ "v1" := by
  have hcalls : pruneCalls (NewPruner [.WithKeepN 1]) sampleService "image" "v3" =
      [.ResolveImage "image" "v3", .ListVersions "arn", .ResolveImage "image" "v3", .ResolveImage "image" "v3"] ++
        .DeleteVersion "arn" "v1" "v3" :: [.ResolveImage "image" "v3", .sleep (5 * Second),
          .DeleteVersion "arn" "v2" "v2", .sleep (10 * Second), .ListVersions "arn"] := sampleService_calls
  exact (active_version_rechecked [.WithKeepN 1] sampleService "image" "v3" hcalls).2 id sampleService_answers
    (by simp [Untried, Call.IsDelete])

theorem active_version_deleted :
    ¬ ∀ (opts : List PrunerOption) (σ : Type) (c : Client σ) (imageName : String) (s₀ : σ)
      (earlier later : List (Call σ)) (imageARN version : String) (s : σ),
      pruneCalls (NewPruner opts) c imageName s₀ = earlier ++ .DeleteVersion imageARN version s :: later →
        Checked c imageName version s earlier ∧ ∀ active : σ → String, c.Answers active → active s ≠ version := by
  intro h
  have hdelete := h [.WithKeepN 1] String sampleService "image" "v3" [.ResolveImage "image" "v3",
    .ListVersions "arn", .ResolveImage "image" "v3", .ResolveImage "image" "v3", .DeleteVersion "arn" "v1" "v3",
    .ResolveImage "image" "v3", .sleep (5 * Second)] [.sleep (10 * Second), .ListVersions "arn"] "arn" "v2" "v2"
    sampleService_calls
  exact hdelete.2 id sampleService_answers rfl

end LesserHost.MicrovmVersions
