import Mathlib.Logic.Relation

set_option autoImplicit false

/-! # Re-entrant calls with roll-back

An account that runs code can be called while one of its own calls is still waiting for an answer.
A `Contract` describes such an account: `call` runs an external function up to its end or up to its
first call-out, `resume` continues after a call-out that was answered. The `Machine` keeps the
current state and one `Frame` per call that is still open; a frame carries the state to go back to
when the call fails. While a frame is open any further action may happen: calls into the account,
moves of its environment, calls of foreign code that may themselves fail and be rolled back.

`Protocol` is the proof rule: a state invariant, a guarantee every completed call gives, and for
every waiting call a condition that the guarantee keeps. `Protocol.run_ok` carries it to every
machine state of every run. -/

namespace CallStack

/-- The result of running until the end of a function or until its first call-out. -/
inductive Outcome (S P : Type) where
  | done (s : S)
  | callOut (s : S) (p : P)

/-- The state an outcome leaves behind. -/
def Outcome.state {S P : Type} : Outcome S P → S
  | .done s => s
  | .callOut s _ => s

/-- An account with code. `quiet` marks the environment moves that happen between transactions
    only, such as the passing of time. -/
structure Contract (S C P M E : Type) where
  call : S → C → Except E (Outcome S P)
  resume : S → P → Except E (Outcome S P)
  env : S → M → S
  quiet : M → Bool

/-- An open call: the state to restore when it fails, and what is left to do when it is answered
    (`none` for a call of foreign code). -/
structure Frame (S P : Type) where
  saved : S
  pending : Option P

structure Machine (S P : Type) where
  state : S
  stack : List (Frame S P)

inductive Action (C M : Type) where
  /-- somebody calls the contract -/
  | call (c : C)
  /-- the environment moves -/
  | env (m : M)
  /-- foreign code starts to run that may be rolled back as a whole -/
  | enter
  /-- the innermost open call is answered -/
  | ret (ok : Bool)

variable {S C P M E : Type}

/-- One action. A call that reverts changes nothing; an open call that fails, or whose
    continuation reverts, restores the state it started from. -/
def step (k : Contract S C P M E) (m : Machine S P) : Action C M → Machine S P
  | .call c =>
      match k.call m.state c with
      | .error _ => m
      | .ok (.done s) => { m with state := s }
      | .ok (.callOut s p) => ⟨s, ⟨m.state, some p⟩ :: m.stack⟩
  | .env e => if k.quiet e = true ∧ m.stack ≠ [] then m else { m with state := k.env m.state e }
  | .enter => ⟨m.state, ⟨m.state, none⟩ :: m.stack⟩
  | .ret ok =>
      match m.stack with
      | [] => m
      | f :: rest =>
          if ok then
            match f.pending with
            | none => ⟨m.state, rest⟩
            | some p =>
                match k.resume m.state p with
                | .error _ => ⟨f.saved, rest⟩
                | .ok (.done s) => ⟨s, rest⟩
                | .ok (.callOut s p') => ⟨s, ⟨f.saved, some p'⟩ :: rest⟩
          else ⟨f.saved, rest⟩

def run (k : Contract S C P M E) (m : Machine S P) (acts : List (Action C M)) : Machine S P :=
  acts.foldl (step k) m

@[simp] theorem run_nil (k : Contract S C P M E) (m : Machine S P) : run k m [] = m := rfl

@[simp] theorem run_cons (k : Contract S C P M E) (m : Machine S P) (a : Action C M)
    (acts : List (Action C M)) : run k m (a :: acts) = run k (step k m a) acts := rfl

/-- A call whose continuation reverts takes back what the environment did for it. -/
theorem run_refused {k : Contract S C P M E} {s s' : S} {c : C} {p : P} {m : M} {e : E}
    {fs : List (Frame S P)} (hcall : k.call s c = .ok (.callOut s' p)) (hm : k.quiet m = false)
    (hresume : k.resume (k.env s' m) p = .error e) :
    run k ⟨s, fs⟩ [.call c, .env m, .ret true] = ⟨s, fs⟩ := by
  simp [step, hcall, hm, hresume]

/-- The innermost open call was undone: its frame is gone and its saved state is current again. -/
def RolledBack (m m' : Machine S P) : Prop :=
  ∃ f rest, m.stack = f :: rest ∧ m' = ⟨f.saved, rest⟩

/-- Everything one action can do to the current state. -/
theorem step_state (k : Contract S C P M E) (m : Machine S P) (a : Action C M) :
    (step k m a).state = m.state ∨
    (∃ c o, a = .call c ∧ k.call m.state c = .ok o ∧ (step k m a).state = o.state) ∨
    (∃ e, a = .env e ∧ (step k m a).state = k.env m.state e) ∨
    (∃ f rest p o, m.stack = f :: rest ∧ f.pending = some p ∧ k.resume m.state p = .ok o ∧
      (step k m a).state = o.state) ∨
    RolledBack m (step k m a) := by
  obtain ⟨w, fs⟩ := m
  cases a with
  | call c =>
      cases hc : k.call w c with
      | error e => left; simp [step, hc]
      | ok o =>
          refine Or.inr (Or.inl ⟨c, o, rfl, hc, ?_⟩)
          cases o <;> simp [step, hc, Outcome.state]
  | env e =>
      by_cases hq : k.quiet e = true ∧ fs ≠ []
      · left; simp [step, hq]
      · refine Or.inr (Or.inr (Or.inl ⟨e, rfl, ?_⟩))
        simp [step, if_neg hq]
  | enter => left; rfl
  | ret ok =>
      cases fs with
      | nil => left; rfl
      | cons f rest =>
          cases ok with
          | false => exact Or.inr (Or.inr (Or.inr (Or.inr ⟨f, rest, rfl, rfl⟩)))
          | true =>
              cases hp : f.pending with
              | none => left; simp [step, hp]
              | some p =>
                  cases hr : k.resume w p with
                  | error e =>
                      exact Or.inr (Or.inr (Or.inr (Or.inr ⟨f, rest, rfl, by simp [step, hp, hr]⟩)))
                  | ok o =>
                      refine Or.inr (Or.inr (Or.inr (Or.inl ⟨f, rest, p, o, rfl, hp, hr, ?_⟩)))
                      cases o <;> simp [step, hp, hr, Outcome.state]

/-! ## The proof rule -/

/-- What has to be shown of a contract for a class `allowed` of actions.

    `guar s s'` relates the state before and after anything that runs to its end; `frame p s w`
    holds of a waiting call that started in `s` while `w` is current. -/
structure Protocol (k : Contract S C P M E) (allowed : Action C M → Prop) where
  inv : S → Prop
  guar : S → S → Prop
  frame : P → S → S → Prop
  guar_refl : ∀ s, guar s s
  guar_trans : ∀ s t u, guar s t → guar t u → guar s u
  frame_stable : ∀ p s w w', frame p s w → guar w w' → frame p s w'
  call_done : ∀ s c s', allowed (.call c) → inv s → k.call s c = .ok (.done s') →
    inv s' ∧ guar s s'
  call_out : ∀ s c s' p, allowed (.call c) → inv s → k.call s c = .ok (.callOut s' p) →
    inv s' ∧ frame p s s'
  resume_done : ∀ s w p s', inv s → inv w → frame p s w → k.resume w p = .ok (.done s') →
    inv s' ∧ guar s s'
  resume_out : ∀ s w p s' p', inv s → inv w → frame p s w → k.resume w p = .ok (.callOut s' p') →
    inv s' ∧ frame p' s s'
  env_ok : ∀ s e, allowed (.env e) → inv s → inv (k.env s e) ∧ guar s (k.env s e)

namespace Protocol

variable {k : Contract S C P M E} {allowed : Action C M → Prop} (r : Protocol k allowed)

/-- The condition an open call puts on the current state. -/
def FrameOk (f : Frame S P) (w : S) : Prop :=
  match f.pending with
  | none => r.guar f.saved w
  | some p => r.frame p f.saved w

/-- The invariant holds now and in every state a failing call would restore, and every open call
    finds its condition satisfied when the calls above it are gone. -/
def StackOk : S → List (Frame S P) → Prop
  | w, [] => r.inv w
  | w, f :: rest => r.inv w ∧ r.FrameOk f w ∧ StackOk f.saved rest

def Ok (m : Machine S P) : Prop := r.StackOk m.state m.stack

theorem StackOk.inv {w : S} {fs : List (Frame S P)} (h : r.StackOk w fs) : r.inv w := by
  cases fs with
  | nil => exact h
  | cons f rest => exact h.1

/-- The condition of the innermost open call holds of the current state. -/
theorem Ok.frame {m : Machine S P} (h : r.Ok m) {f : Frame S P} {rest : List (Frame S P)}
    (hs : m.stack = f :: rest) {p : P} (hp : f.pending = some p) :
    r.inv f.saved ∧ r.frame p f.saved m.state := by
  unfold Ok at h
  rw [hs] at h
  obtain ⟨-, hf, hrest⟩ := h
  refine ⟨StackOk.inv r hrest, ?_⟩
  simpa [FrameOk, hp] using hf

theorem FrameOk.stable {f : Frame S P} {w w' : S} (h : r.FrameOk f w) (hg : r.guar w w') :
    r.FrameOk f w' := by
  unfold FrameOk at h ⊢
  split at h
  · exact r.guar_trans _ _ _ h hg
  · exact r.frame_stable _ _ _ _ h hg

/-- Moving the current state along the guarantee keeps the whole stack in order. -/
theorem StackOk.advance {w w' : S} {fs : List (Frame S P)} (h : r.StackOk w fs)
    (hi : r.inv w') (hg : r.guar w w') : r.StackOk w' fs := by
  cases fs with
  | nil => exact hi
  | cons f rest => exact ⟨hi, FrameOk.stable r h.2.1 hg, h.2.2⟩

/-- One action keeps the stack in order on top of any frames `base` that it does not reach. -/
theorem step_over (base : List (Frame S P)) (m : Machine S P) (a : Action C M) (ha : allowed a)
    (h : r.StackOk m.state (m.stack ++ base)) :
    r.StackOk (step k m a).state ((step k m a).stack ++ base) := by
  have hinv : r.inv m.state := StackOk.inv r h
  cases a with
  | call c =>
      simp only [step]
      split
      · exact h
      · next s hs =>
          obtain ⟨hi, hg⟩ := r.call_done _ _ _ ha hinv hs
          exact StackOk.advance r h hi hg
      · next s p hs =>
          obtain ⟨hi, hf⟩ := r.call_out _ _ _ _ ha hinv hs
          exact ⟨hi, hf, h⟩
  | env e =>
      simp only [step]
      split
      · exact h
      · obtain ⟨hi, hg⟩ := r.env_ok _ _ ha hinv
        exact StackOk.advance r h hi hg
  | enter => exact ⟨hinv, r.guar_refl _, h⟩
  | ret ok =>
      obtain ⟨w, fs⟩ := m
      cases fs with
      | nil => exact h
      | cons f rest =>
          obtain ⟨hw, hf, hrest⟩ := h
          have hsaved : r.inv f.saved := StackOk.inv r hrest
          simp only [step]
          split
          · split
            · next hp =>
                have hg : r.guar f.saved w := by simpa [FrameOk, hp] using hf
                exact StackOk.advance r hrest hw hg
            · next p hp =>
                have hfp : r.frame p f.saved w := by simpa [FrameOk, hp] using hf
                split
                · exact hrest
                · next s hs =>
                    obtain ⟨hi, hg⟩ := r.resume_done _ _ _ _ hsaved hw hfp hs
                    exact StackOk.advance r hrest hi hg
                · next s p' hs =>
                    obtain ⟨hi, hf'⟩ := r.resume_out _ _ _ _ _ hsaved hw hfp hs
                    exact ⟨hi, hf', hrest⟩
          · exact hrest

theorem run_over (base : List (Frame S P)) (m : Machine S P) (acts : List (Action C M))
    (ha : ∀ a ∈ acts, allowed a) (h : r.StackOk m.state (m.stack ++ base)) :
    r.StackOk (run k m acts).state ((run k m acts).stack ++ base) := by
  induction acts generalizing m with
  | nil => exact h
  | cons a acts ih =>
      rw [run_cons]
      exact ih _ (fun b hb => ha b (List.mem_cons_of_mem _ hb))
        (step_over r base m a (ha a List.mem_cons_self) h)

theorem run_ok (m : Machine S P) (acts : List (Action C M)) (ha : ∀ a ∈ acts, allowed a)
    (h : r.Ok m) : r.Ok (run k m acts) := by
  have hrun := run_over r [] m acts ha (by rwa [List.append_nil])
  rwa [List.append_nil] at hrun

/-- The invariant holds in every state of a run that starts with no call open. -/
theorem run_inv (s : S) (acts : List (Action C M)) (ha : ∀ a ∈ acts, allowed a)
    (h : r.inv s) : r.inv (run k ⟨s, []⟩ acts).state :=
  StackOk.inv r (run_ok r ⟨s, []⟩ acts ha h)

/-- A run in which every call is answered keeps the guarantee as a whole. -/
theorem run_answered (s : S) (acts : List (Action C M)) (ha : ∀ a ∈ acts, allowed a)
    (h : r.inv s) (hanswered : (run k ⟨s, []⟩ acts).stack = []) :
    r.inv (run k ⟨s, []⟩ acts).state ∧ r.guar s (run k ⟨s, []⟩ acts).state := by
  have hrun := run_over r [⟨s, none⟩] ⟨s, []⟩ acts ha ⟨h, r.guar_refl s, h⟩
  rw [hanswered] at hrun
  exact ⟨hrun.1, hrun.2.1⟩

end Protocol

/-- The rule without call-out conditions: an invariant that holds at every call-out as well as at
    the end of every call. -/
def Protocol.ofInv (k : Contract S C P M E) (allowed : Action C M → Prop) (inv : S → Prop)
    (hcall : ∀ s c o, allowed (.call c) → inv s → k.call s c = .ok o → inv o.state)
    (hresume : ∀ s p o, inv s → k.resume s p = .ok o → inv o.state)
    (henv : ∀ s e, allowed (.env e) → inv s → inv (k.env s e)) : Protocol k allowed where
  inv := inv
  guar _ _ := True
  frame _ _ _ := True
  guar_refl _ := trivial
  guar_trans _ _ _ _ _ := trivial
  frame_stable _ _ _ _ _ _ := trivial
  call_done _ _ _ ha hs h := ⟨hcall _ _ _ ha hs h, trivial⟩
  call_out _ _ _ _ ha hs h := ⟨hcall _ _ _ ha hs h, trivial⟩
  resume_done _ _ _ _ _ hw _ h := ⟨hresume _ _ _ hw h, trivial⟩
  resume_out _ _ _ _ _ _ hw _ h := ⟨hresume _ _ _ hw h, trivial⟩
  env_ok _ _ ha hs := ⟨henv _ _ ha hs, trivial⟩

/-! ## Records of calls -/

def Outcome.map {T : Type} (f : S → T) : Outcome S P → Outcome T P
  | .done s => .done (f s)
  | .callOut s p => .callOut (f s) p

@[simp] theorem Outcome.map_state {T : Type} (f : S → T) (o : Outcome S P) :
    (o.map f).state = f o.state := by
  cases o <;> rfl

section Recording

variable {R : Type}

/-- The contract that also keeps a record of its calls. A call that fails takes its entry back. -/
def Contract.recording (k : Contract S C P M E) (record : S → C → Outcome S P → R → R) :
    Contract (S × R) C P M E where
  call s c := (k.call s.1 c).map fun o => o.map (·, record s.1 c o s.2)
  resume s p := (k.resume s.1 p).map (·.map (·, s.2))
  env s m := (k.env s.1 m, s.2)
  quiet := k.quiet

def Machine.unrecorded (m : Machine (S × R) P) : Machine S P where
  state := m.state.1
  stack := m.stack.map fun f => ⟨f.saved.1, f.pending⟩

/-- Keeping a record does not change what happens. -/
theorem step_recording (k : Contract S C P M E) (record : S → C → Outcome S P → R → R)
    (m : Machine (S × R) P) (a : Action C M) :
    (step (k.recording record) m a).unrecorded = step k m.unrecorded a := by
  obtain ⟨s, fs⟩ := m
  cases a with
  | call c =>
      simp only [step, Contract.recording, Machine.unrecorded]
      cases k.call s.1 c with
      | error e => rfl
      | ok o => cases o <;> rfl
  | env e =>
      simp only [step, Contract.recording, Machine.unrecorded]
      cases fs with
      | nil => simp
      | cons f fs =>
          by_cases hq : k.quiet e = true
          · simp [hq]
          · simp [hq]
  | enter => rfl
  | ret ok =>
      cases fs with
      | nil => rfl
      | cons f fs =>
          cases ok with
          | false => rfl
          | true =>
              obtain ⟨saved, pending⟩ := f
              cases pending with
              | none => rfl
              | some p =>
                  simp only [step, Contract.recording, Machine.unrecorded, List.map_cons, if_true]
                  cases k.resume s.1 p with
                  | error e => rfl
                  | ok o => cases o <;> rfl

theorem run_recording (k : Contract S C P M E) (record : S → C → Outcome S P → R → R)
    (m : Machine (S × R) P) (acts : List (Action C M)) :
    (run (k.recording record) m acts).unrecorded = run k m.unrecorded acts := by
  induction acts generalizing m with
  | nil => rfl
  | cons a acts ih => rw [run_cons, run_cons, ih, step_recording]

theorem recording_call {k : Contract S C P M E} {record : S → C → Outcome S P → R → R} {s : S × R}
    {c : C} {o : Outcome (S × R) P} (h : (k.recording record).call s c = .ok o) :
    ∃ o', k.call s.1 c = .ok o' ∧ o = o'.map (·, record s.1 c o' s.2) := by
  simp only [Contract.recording] at h
  cases hcall : k.call s.1 c with
  | error e =>
      rw [hcall] at h
      cases h
  | ok o' =>
      rw [hcall] at h
      exact ⟨o', rfl, (Except.ok.inj h).symm⟩

theorem recording_resume {k : Contract S C P M E} {record : S → C → Outcome S P → R → R} {s : S × R}
    {p : P} {o : Outcome (S × R) P} (h : (k.recording record).resume s p = .ok o) :
    ∃ o', k.resume s.1 p = .ok o' ∧ o = o'.map (·, s.2) := by
  simp only [Contract.recording] at h
  cases hresume : k.resume s.1 p with
  | error e =>
      rw [hresume] at h
      cases h
  | ok o' =>
      rw [hresume] at h
      exact ⟨o', rfl, (Except.ok.inj h).symm⟩

end Recording

/-! ## Notes about calls -/

section Noting

variable {N : Type}

/-- The contract that also writes down what its calls are about. A call that fails takes its notes
    back. -/
def Contract.noting (k : Contract S C P M E) (note : C → List N) : Contract (S × List N) C P M E where
  call s c := (k.call s.1 c).map (·.map (·, s.2 ++ note c))
  resume s p := (k.resume s.1 p).map (·.map (·, s.2))
  env s m := (k.env s.1 m, s.2)
  quiet := k.quiet

def Machine.forget (m : Machine (S × List N) P) : Machine S P where
  state := m.state.1
  stack := m.stack.map fun f => ⟨f.saved.1, f.pending⟩

/-- Notes are a record. -/
theorem noting_eq (k : Contract S C P M E) (note : C → List N) :
    k.noting note = k.recording fun _ c _ notes => notes ++ note c := rfl

/-- Writing down does not change what happens. -/
theorem run_noting (k : Contract S C P M E) (note : C → List N) (m : Machine (S × List N) P)
    (acts : List (Action C M)) : (run (k.noting note) m acts).forget = run k m.forget acts := by
  rw [noting_eq]
  exact run_recording k _ m acts

theorem noting_call_map {k : Contract S C P M E} {note : C → List N} {s : S × List N} {c : C}
    {o : Outcome (S × List N) P} (h : (k.noting note).call s c = .ok o) :
    ∃ o', k.call s.1 c = .ok o' ∧ o = o'.map (·, s.2 ++ note c) :=
  recording_call (noting_eq k note ▸ h)

theorem noting_resume_map {k : Contract S C P M E} {note : C → List N} {s : S × List N} {p : P}
    {o : Outcome (S × List N) P} (h : (k.noting note).resume s p = .ok o) :
    ∃ o', k.resume s.1 p = .ok o' ∧ o = o'.map (·, s.2) :=
  recording_resume (noting_eq k note ▸ h)

/-- A call that ends writes its notes after the earlier ones. -/
theorem noting_call {k : Contract S C P M E} {note : C → List N} {s : S × List N} {c : C}
    {o : Outcome (S × List N) P} (h : (k.noting note).call s c = .ok o) :
    ∃ o', k.call s.1 c = .ok o' ∧ o.state = (o'.state, s.2 ++ note c) := by
  obtain ⟨o', hcall, rfl⟩ := noting_call_map h
  exact ⟨o', hcall, Outcome.map_state _ _⟩

theorem noting_resume {k : Contract S C P M E} {note : C → List N} {s : S × List N} {p : P}
    {o : Outcome (S × List N) P} (h : (k.noting note).resume s p = .ok o) :
    ∃ o', k.resume s.1 p = .ok o' ∧ o.state = (o'.state, s.2) := by
  obtain ⟨o', hresume, rfl⟩ := noting_resume_map h
  exact ⟨o', hresume, Outcome.map_state _ _⟩

end Noting

end CallStack
