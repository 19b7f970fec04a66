import LesserHost.Lib.Trace
import Mathlib.Algebra.BigOperators.Group.Finset.Piecewise
import Mathlib.Algebra.Order.Ring.Int
import Mathlib.Data.Fintype.Basic
import Mathlib.Logic.Relation

set_option autoImplicit false

/-! # Programs that share a state

Any number of programs run over one state. A move names the program that performs its next operation
and what the environment chooses there, so a list of moves is one interleaving.

The rules are those of rely and guarantee. A `Contract` says what a program may count on (an
invariant of the state, the steps of the others, the choices of the environment) and what each of
its own steps owes; `Prog.Meets` is that a program keeps it from a state on, whatever happens
between its operations. Programs whose contracts fit together keep all of them in every
interleaving (`Fits.step`, `Fits.run`).

`Traced` adds the history: who did what in which state. -/

/-- The shared state, and of each program what it has still to do. -/
structure Config (ι Op : Type) (Res : Op → Type) (E α S : Type) where
  state : S
  threads : ι → Prog Op Res E α

namespace Config

variable {ι Op : Type} {Res : Op → Type} {E α S C : Type} [DecidableEq ι]

/-- One program performs its next operation. A program that has ended does nothing. -/
def step (env : ι → Prog.Env Op Res S C) (cfg : Config ι Op Res E α S) (m : ι × C) :
    Config ι Op Res E α S :=
  match cfg.threads m.1 with
  | .op o k =>
      { state := ((env m.1).handle o m.2 cfg.state).2
        threads :=
          Function.update cfg.threads m.1 (k ((env m.1).handle o m.2 cfg.state).1) }
  | .ret _ => cfg
  | .fail _ => cfg

/-- The configuration after a list of moves. -/
def run (env : ι → Prog.Env Op Res S C) (cfg : Config ι Op Res E α S) (ms : List (ι × C)) :
    Config ι Op Res E α S :=
  ms.foldl (step env) cfg

/-- `P` holds of the operation that a move performs, if it performs one. -/
def Performs (P : ι → Op → C → S → Prop) (cfg : Config ι Op Res E α S) (m : ι × C) : Prop :=
  ∀ o k, cfg.threads m.1 = .op o k → P m.1 o m.2 cfg.state

instance (P : ι → Op → C → S → Prop) [∀ i o c s, Decidable (P i o c s)]
    (cfg : Config ι Op Res E α S) (m : ι × C) : Decidable (Performs P cfg m) :=
  match h : cfg.threads m.1 with
  | .op o _ => decidable_of_iff (P m.1 o m.2 cfg.state)
      ⟨fun hP o' k' h' => by rw [h] at h'; cases h'; exact hP, fun hP => hP o _ h⟩
  | .ret _ => isTrue fun o k h' => by rw [h] at h'; cases h'
  | .fail _ => isTrue fun o k h' => by rw [h] at h'; cases h'

variable {env : ι → Prog.Env Op Res S C} {cfg : Config ι Op Res E α S} {m : ι × C}

theorem step_op {o : Op} {k : Res o → Prog Op Res E α} (h : cfg.threads m.1 = .op o k) :
    cfg.step env m =
      { state := ((env m.1).handle o m.2 cfg.state).2
        threads :=
          Function.update cfg.threads m.1 (k ((env m.1).handle o m.2 cfg.state).1) } := by
  rw [step]
  split
  · next o' k' h' =>
      rw [h'] at h
      cases h
      rfl
  · next a h' => rw [h'] at h; cases h
  · next e h' => rw [h'] at h; cases h

/-- A move performs an operation or changes nothing. -/
theorem step_cases (env : ι → Prog.Env Op Res S C) (cfg : Config ι Op Res E α S) (m : ι × C) :
    (∃ o k, cfg.threads m.1 = .op o k) ∨ cfg.step env m = cfg := by
  cases h : cfg.threads m.1 with
  | op o k => exact Or.inl ⟨o, k, rfl⟩
  | ret a => exact Or.inr (by rw [step, h])
  | fail e => exact Or.inr (by rw [step, h])

theorem step_other {j : ι} (hj : j ≠ m.1) : (cfg.step env m).threads j = cfg.threads j := by
  rcases step_cases env cfg m with ⟨o, k, h⟩ | h
  · rw [step_op h]
    exact Function.update_of_ne hj _ _
  · rw [h]

/-- Moves of one program. -/
theorem run_goes (env : ι → Prog.Env Op Res S C) (cfg : Config ι Op Res E α S)
    {P : ι → Op → C → S → Prop} (i : ι) {cs : List C} {q : Prog Op Res E α} {s' : S}
    (h : (cfg.threads i).Goes (env i) (P i) cs cfg.state q s') :
    cfg.run env (cs.map fun c => (i, c)) = { state := s', threads := Function.update cfg.threads i q } ∧
      Along (step env) (Performs P) cfg (cs.map fun c => (i, c)) := by
  obtain ⟨s, threads⟩ := cfg
  dsimp only at h ⊢
  generalize hp : threads i = p at h
  induction h generalizing threads with
  | nil p s =>
      refine ⟨?_, trivial⟩
      rw [← hp, Function.update_eq_self]
      rfl
  | @op o k c cs s s' q hP h ih =>
      have hstep : Config.step env ⟨s, threads⟩ (i, c) = _ := step_op hp
      obtain ⟨hrun, halong⟩ := ih (Function.update threads i (k ((env i).handle o c s).1))
        (Function.update_self _ _ _)
      refine ⟨?_, ?_, ?_⟩
      · show (Config.step env ⟨s, threads⟩ (i, c)).run env (cs.map fun c => (i, c)) = _
        rw [hstep, hrun, Function.update_idem]
      · intro o' k' hthread
        have hsame : Prog.op o k = .op o' k' := hp.symm.trans hthread
        cases hsame
        exact hP
      · show Along (step env) (Performs P) (Config.step env ⟨s, threads⟩ (i, c)) _
        rw [hstep]
        exact halong

theorem run_append (env : ι → Prog.Env Op Res S C) (cfg : Config ι Op Res E α S) (ms ms' : List (ι × C)) :
    cfg.run env (ms ++ ms') = (cfg.run env ms).run env ms' := List.foldl_append

/-- A program that runs alone. -/
theorem run_alone (env : ι → Prog.Env Op Res S C) (cfg : Config ι Op Res E α S) (i : ι) (ch : Nat → C) :
    ∃ ms, (cfg.run env ms).state = ((cfg.threads i).run (env i) ch cfg.state).2 := by
  obtain ⟨s, threads⟩ := cfg
  dsimp only
  generalize hp : threads i = p
  induction p generalizing s threads ch with
  | ret a => exact ⟨[], rfl⟩
  | fail e => exact ⟨[], rfl⟩
  | op o k ih =>
      have hstep : Config.step env ⟨s, threads⟩ (i, ch 0) = _ := step_op hp
      obtain ⟨ms, hms⟩ := ih ((env i).handle o (ch 0) s).1 (fun n => ch (n + 1))
        ((env i).handle o (ch 0) s).2
        (Function.update threads i (k ((env i).handle o (ch 0) s).1)) (Function.update_self _ _ _)
      refine ⟨(i, ch 0) :: ms, ?_⟩
      show ((Config.step env ⟨s, threads⟩ (i, ch 0)).run env ms).state = _
      rw [hstep]
      exact hms

/-- Programs of a restricted kind keep, under any interleaving, what each of their operations
    keeps. -/
theorem run_only {G : ι → Op → Prop} {P : ι → Op → C → S → Prop} {I : S → Prop}
    (hI : ∀ i o c s, G i o → P i o c s → I s → I ((env i).handle o c s).2)
    {ms : List (ι × C)} (hcfg : ∀ i, (cfg.threads i).Only (G i)) (hs : I cfg.state)
    (h : Along (step env) (Performs P) cfg ms) : I (cfg.run env ms).state := by
  induction ms generalizing cfg with
  | nil => exact hs
  | cons m ms ih =>
      rcases step_cases env cfg m with ⟨o, k, hop⟩ | hidle
      · have hthread := hcfg m.1
        rw [hop, Prog.only_op] at hthread
        refine @ih (cfg.step env m) (fun i => ?_) ?_ h.2
        · rw [step_op hop]
          by_cases hi : i = m.1
          · subst hi
            simp only [Function.update_self]
            exact hthread.2 _
          · simp only [Function.update_of_ne hi]
            exact hcfg i
        · rw [step_op hop]
          exact hI m.1 o m.2 cfg.state hthread.1 (h.1 o k hop) hs
      · have hrest := h.2
        rw [hidle] at hrest
        have hrun : cfg.run env (m :: ms) = cfg.run env ms := by
          show (cfg.step env m).run env ms = _
          rw [hidle]
        rw [hrun]
        exact ih hcfg hs hrest

end Config

/-! ## Contracts -/

/-- What a program counts on and what it owes. -/
structure Contract (Op S C : Type) where
  /-- holds of every state -/
  inv : S → Prop
  /-- the choices of the environment that are considered -/
  assume : Op → C → S → Prop
  /-- what the others may do to the state -/
  rely : S → S → Prop
  /-- what each operation of the program does to it -/
  guar : S → S → Prop
  rely_refl : ∀ s, rely s s
  rely_trans : ∀ {s t u}, rely s t → rely t u → rely s u

namespace Prog

variable {Op : Type} {Res : Op → Type} {E α β S C : Type}

/-- From a state on the program keeps its contract and ends with an answer and a state in `Q`. -/
def Meets (env : Env Op Res S C) (K : Contract Op S C) (Q : Except E α → S → Prop) :
    Prog Op Res E α → S → Prop
  | ret a, s => ∀ s', K.rely s s' → K.inv s' → Q (.ok a) s'
  | fail e, s => ∀ s', K.rely s s' → K.inv s' → Q (.error e) s'
  | op o k, s => ∀ s', K.rely s s' → K.inv s' → ∀ c, K.assume o c s' →
      K.inv (env.handle o c s').2 ∧ K.guar s' (env.handle o c s').2 ∧
        Meets env K Q (k (env.handle o c s').1) (env.handle o c s').2

variable {env : Env Op Res S C} {K : Contract Op S C} {s s' : S}

theorem Meets.later {Q : Except E α → S → Prop} {p : Prog Op Res E α} (h : Meets env K Q p s)
    (hR : K.rely s s') : Meets env K Q p s' := by
  cases p with
  | ret a => exact fun t ht hi => h t (K.rely_trans hR ht) hi
  | fail e => exact fun t ht hi => h t (K.rely_trans hR ht) hi
  | op o k => exact fun t ht hi => h t (K.rely_trans hR ht) hi

/-- It is enough to look at the states the others can leave behind. -/
theorem meets_of_later {Q : Except E α → S → Prop} {p : Prog Op Res E α}
    (h : ∀ t, K.rely s t → K.inv t → Meets env K Q p t) : Meets env K Q p s := by
  cases p with
  | ret a => exact fun t ht hi => h t ht hi t (K.rely_refl t) hi
  | fail e => exact fun t ht hi => h t ht hi t (K.rely_refl t) hi
  | op o k => exact fun t ht hi => h t ht hi t (K.rely_refl t) hi

section Rules

variable {Q Q' : Except E α → S → Prop}

theorem meets_pure {a : α} (h : ∀ t, K.rely s t → K.inv t → Q (.ok a) t) :
    Meets env K Q (pure a : Prog Op Res E α) s := h

theorem meets_fail {e : E} (h : ∀ t, K.rely s t → K.inv t → Q (.error e) t) :
    Meets env K Q (fail e : Prog Op Res E α) s := h

theorem Meets.mono {p : Prog Op Res E α} (h : Meets env K Q p s) (hQ : ∀ r t, Q r t → Q' r t) :
    Meets env K Q' p s := by
  induction p generalizing s with
  | ret a => exact fun t ht hi => hQ _ _ (h t ht hi)
  | fail e => exact fun t ht hi => hQ _ _ (h t ht hi)
  | op o k ih =>
      intro t ht hi c hc
      obtain ⟨hinv, hguar, hrest⟩ := h t ht hi c hc
      exact ⟨hinv, hguar, ih _ hrest⟩

theorem meets_ite {c : Prop} [Decidable c] {p q : Prog Op Res E α} (hp : c → Meets env K Q p s)
    (hq : ¬c → Meets env K Q q s) : Meets env K Q (if c then p else q) s := by
  split
  · next h => exact hp h
  · next h => exact hq h

end Rules

/-- The rule of composition. -/
theorem meets_bind {R : Except E α → S → Prop} {Q : Except E β → S → Prop} {p : Prog Op Res E α}
    {f : α → Prog Op Res E β} (h : Meets env K R p s)
    (hok : ∀ a t, R (.ok a) t → Meets env K Q (f a) t)
    (herr : ∀ e t, R (.error e) t → Q (.error e) t) : Meets env K Q (p >>= f) s := by
  induction p generalizing s with
  | ret a => exact meets_of_later fun t ht hi => hok a t (h t ht hi)
  | fail e => exact fun t ht hi => herr e t (h t ht hi)
  | op o k ih =>
      intro t ht hi c hc
      obtain ⟨hinv, hguar, hrest⟩ := h t ht hi c hc
      exact ⟨hinv, hguar, ih _ hrest⟩

theorem meets_perform {o : Op} {Q : Except E (Res o) → S → Prop}
    (h : ∀ t, K.rely s t → K.inv t → ∀ c, K.assume o c t →
      K.inv (env.handle o c t).2 ∧ K.guar t (env.handle o c t).2 ∧
        ∀ u, K.rely (env.handle o c t).2 u → K.inv u → Q (.ok (env.handle o c t).1) u) :
    Meets env K Q (perform o : Prog Op Res E (Res o)) s := h

/-- A postcondition that says nothing of failures. -/
def Answering (R : α → S → Prop) : Except E α → S → Prop
  | .ok a, s => R a s
  | .error _, _ => True

section Answering

variable {R : α → S → Prop} {Q : β → S → Prop}

theorem answers_fail {e : E} : Meets env K (Answering R) (fail e : Prog Op Res E α) s :=
  fun _ _ _ => trivial

theorem answers_pure {a : α} (h : ∀ t, K.rely s t → K.inv t → R a t) :
    Meets env K (Answering R) (pure a : Prog Op Res E α) s := h

theorem answers_bind {p : Prog Op Res E α} {f : α → Prog Op Res E β}
    (h : Meets env K (Answering R) p s) (hf : ∀ a t, R a t → Meets env K (Answering Q) (f a) t) :
    Meets env K (Answering Q) (p >>= f) s := meets_bind h hf fun _ _ _ => trivial

theorem answers_perform {o : Op} {R : Res o → S → Prop}
    (h : ∀ t, K.rely s t → K.inv t → ∀ c, K.assume o c t →
      K.inv (env.handle o c t).2 ∧ K.guar t (env.handle o c t).2 ∧
        ∀ u, K.rely (env.handle o c t).2 u → K.inv u → R (env.handle o c t).1 u) :
    Meets env K (Answering R) (perform o : Prog Op Res E (Res o)) s := h

end Answering

end Prog

namespace Prog

variable {Op : Type} {Res : Op → Type} {E α S C : Type} {env : Env Op Res S C} {K : Contract Op S C}
  {s : S}

/-- The frame rule: what neither the others nor the program itself can undo still holds at the end. -/
theorem Meets.frame {Q : Except E α → S → Prop} {F : S → Prop} {p : Prog Op Res E α}
    (h : Meets env K Q p s) (hrely : ∀ s t, K.rely s t → F s → F t)
    (hguar : ∀ s t, K.guar s t → F s → F t) (hs : F s) :
    Meets env K (fun r t => Q r t ∧ F t) p s := by
  induction p generalizing s with
  | ret a => exact fun t ht hi => ⟨h t ht hi, hrely s t ht hs⟩
  | fail e => exact fun t ht hi => ⟨h t ht hi, hrely s t ht hs⟩
  | op o k ih =>
      intro t ht hi c hc
      obtain ⟨hinv, hg, hrest⟩ := h t ht hi c hc
      exact ⟨hinv, hg, ih _ hrest (hguar _ _ hg (hrely s t ht hs))⟩

/-- A program of which every operation keeps the contract and a fact that the others cannot undo. -/
theorem meets_of_steps {ok : Op → Prop} {F : S → Prop} {p : Prog Op Res E α}
    (hstep : ∀ o c t, ok o → K.inv t → K.assume o c t → F t →
      K.inv (env.handle o c t).2 ∧ K.guar t (env.handle o c t).2 ∧ F (env.handle o c t).2)
    (hrely : ∀ s t, K.rely s t → F s → F t) (hp : p.Only ok) (hs : F s) :
    Meets env K (fun _ t => F t) p s := by
  induction p generalizing s with
  | ret a => exact fun t ht _ => hrely s t ht hs
  | fail e => exact fun t ht _ => hrely s t ht hs
  | op o k ih =>
      intro t ht hi c hc
      obtain ⟨ho, hrest⟩ := (only_op o k).1 hp
      obtain ⟨hinv, hguar, hF⟩ := hstep o c t ho hi hc (hrely s t ht hs)
      exact ⟨hinv, hguar, ih _ (hrest _) hF⟩

end Prog

namespace Prog

variable {Op : Type} {Res : Op → Type} {E α S C : Type} {env : Env Op Res S C} {K : Contract Op S C}
  {s : S}

/-- A program that goes on after a failure. -/
def attempt : Prog Op Res E α → Prog Op Res E (Except E α)
  | ret a => ret (.ok a)
  | fail e => ret (.error e)
  | op o k => op o fun r => attempt (k r)

theorem meets_attempt {Q : Except E α → S → Prop} {R : Except E (Except E α) → S → Prop}
    {p : Prog Op Res E α} (h : Meets env K Q p s) (hR : ∀ r t, Q r t → R (.ok r) t) :
    Meets env K R (attempt p) s := by
  induction p generalizing s with
  | ret a => exact fun t ht hi => hR _ _ (h t ht hi)
  | fail e => exact fun t ht hi => hR _ _ (h t ht hi)
  | op o k ih =>
      intro t ht hi c hc
      obtain ⟨hinv, hg, hrest⟩ := h t ht hi c hc
      exact ⟨hinv, hg, ih _ hrest⟩

end Prog

/-! ## Programs side by side -/

section Parallel

variable {ι Op : Type} {Res : Op → Type} {E α S C : Type} [DecidableEq ι]
  {env : ι → Prog.Env Op Res S C} {K : ι → Contract Op S C} {Q : ι → Except E α → S → Prop}
  {cfg : Config ι Op Res E α S}

/-- The contracts share the invariant, and each program does to the state only what the others
    count on. -/
structure Compatible (K : ι → Contract Op S C) (I : S → Prop) : Prop where
  inv : ∀ i s, (K i).inv s ↔ I s
  guar_rely : ∀ i j, i ≠ j → ∀ s t, I s → I t → (K i).guar s t → (K j).rely s t

/-- Every program keeps its contract from here on. -/
structure Fits (env : ι → Prog.Env Op Res S C) (K : ι → Contract Op S C) (I : S → Prop)
    (Q : ι → Except E α → S → Prop) (cfg : Config ι Op Res E α S) : Prop where
  inv : I cfg.state
  meets : ∀ i, (cfg.threads i).Meets (env i) (K i) (Q i) cfg.state

variable {I : S → Prop}

/-- What a move does when the contracts are kept. -/
theorem Fits.step_spec (hK : Compatible K I) (h : Fits env K I Q cfg) {m : ι × C}
    (hm : cfg.Performs (fun i => (K i).assume) m) :
    Fits env K I Q (cfg.step env m) ∧
      ((K m.1).guar cfg.state (cfg.step env m).state ∨ cfg.step env m = cfg) := by
  rcases Config.step_cases env cfg m with ⟨o, k, hop⟩ | hidle
  · have hmeets := h.meets m.1
    rw [hop] at hmeets
    obtain ⟨hinv, hguar, hrest⟩ := hmeets cfg.state ((K m.1).rely_refl _)
      ((hK.inv m.1 _).2 h.inv) m.2 (hm o k hop)
    have hI := (hK.inv m.1 _).1 hinv
    rw [Config.step_op hop]
    refine ⟨⟨hI, fun i => ?_⟩, Or.inl hguar⟩
    by_cases hi : i = m.1
    · subst hi
      simp only [Function.update_self]
      exact hrest
    · simp only [Function.update_of_ne hi]
      exact (h.meets i).later (hK.guar_rely m.1 i (Ne.symm hi) _ _ h.inv hI hguar)
  · rw [hidle]
    exact ⟨h, Or.inr rfl⟩

theorem Fits.step (hK : Compatible K I) (h : Fits env K I Q cfg) {m : ι × C}
    (hm : cfg.Performs (fun i => (K i).assume) m) : Fits env K I Q (cfg.step env m) :=
  (h.step_spec hK hm).1

/-- The parallel rule. -/
theorem Fits.run (hK : Compatible K I) (h : Fits env K I Q cfg) {ms : List (ι × C)}
    (hms : Along (Config.step env) (Config.Performs fun i => (K i).assume) cfg ms) :
    Fits env K I Q (cfg.run env ms) := by
  induction ms generalizing cfg with
  | nil => exact h
  | cons m ms ih => exact ih (h.step hK hms.1) hms.2

/-- What the steps of every program do to the state, a run does to it. -/
theorem Fits.run_rel (hK : Compatible K I) (h : Fits env K I Q cfg) {R : S → S → Prop}
    (hrefl : ∀ s, R s s) (htrans : ∀ {s t u}, R s t → R t u → R s u)
    (hguar : ∀ i s t, (K i).guar s t → R s t) {ms : List (ι × C)}
    (hms : Along (Config.step env) (Config.Performs fun i => (K i).assume) cfg ms) :
    R cfg.state (cfg.run env ms).state := by
  induction ms generalizing cfg with
  | nil => exact hrefl _
  | cons m ms ih =>
      obtain ⟨hfits, hstep⟩ := h.step_spec hK hms.1
      refine htrans ?_ (ih hfits hms.2)
      rcases hstep with hguar' | hidle
      · exact hguar m.1 _ _ hguar'
      · rw [hidle]
        exact hrefl _

omit [DecidableEq ι] in
/-- A program that has ended did so with what it promised. -/
theorem Fits.answer (hK : Compatible K I) (h : Fits env K I Q cfg) {i : ι} {a : α}
    (hi : cfg.threads i = .ret a) : Q i (.ok a) cfg.state := by
  have hmeets := h.meets i
  rw [hi] at hmeets
  exact hmeets cfg.state ((K i).rely_refl _) ((hK.inv i _).2 h.inv)

omit [DecidableEq ι] in
theorem Fits.failure (hK : Compatible K I) (h : Fits env K I Q cfg) {i : ι} {e : E}
    (hi : cfg.threads i = .fail e) : Q i (.error e) cfg.state := by
  have hmeets := h.meets i
  rw [hi] at hmeets
  exact hmeets cfg.state ((K i).rely_refl _) ((hK.inv i _).2 h.inv)

-- Contracts are proved by the rules above.
attribute [irreducible] Prog.Meets

end Parallel

/-! ## Histories -/

/-- What one operation did. -/
structure Event (ι Op S C : Type) where
  who : ι
  op : Op
  choice : C
  before : S
  after : S

/-- A state and how it came about. -/
structure Traced (ι Op S C : Type) where
  state : S
  log : List (Event ι Op S C)

namespace Traced

variable {ι Op : Type} {Res : Op → Type} {E α S C : Type}

def start (s : S) : Traced ι Op S C := ⟨s, []⟩

/-- The environment of one program, writing down what the program does. -/
def env (base : Prog.Env Op Res S C) (i : ι) : Prog.Env Op Res (Traced ι Op S C) C where
  handle o c t :=
    ((base.handle o c t.state).1,
      { state := (base.handle o c t.state).2
        log := t.log ++ [⟨i, o, c, t.state, (base.handle o c t.state).2⟩] })

variable {base : Prog.Env Op Res S C}

@[simp] theorem handle_res (i : ι) (o : Op) (c : C) (t : Traced ι Op S C) :
    ((env base i).handle o c t).1 = (base.handle o c t.state).1 := rfl

@[simp] theorem handle_state (i : ι) (o : Op) (c : C) (t : Traced ι Op S C) :
    ((env base i).handle o c t).2.state = (base.handle o c t.state).2 := rfl

@[simp] theorem handle_log (i : ι) (o : Op) (c : C) (t : Traced ι Op S C) :
    ((env base i).handle o c t).2.log
      = t.log ++ [⟨i, o, c, t.state, (base.handle o c t.state).2⟩] := rfl

/-- The state after a move, without its history. -/
theorem step_state [DecidableEq ι] {cfg : Config ι Op Res E α (Traced ι Op S C)} {m : ι × C} {o : Op}
    {k : Res o → Prog Op Res E α} (h : cfg.threads m.1 = .op o k) :
    (cfg.step (env base) m).state.state = (base.handle o m.2 cfg.state.state).2 := by
  rw [Config.step_op h, handle_state]

/-- The sum over the history. -/
def total (f : Event ι Op S C → Int) (t : Traced ι Op S C) : Int := (t.log.map f).sum

@[simp] theorem total_start (f : Event ι Op S C → Int) (s : S) :
    (start s : Traced ι Op S C).total f = 0 := rfl

@[simp] theorem total_handle (f : Event ι Op S C → Int) (i : ι) (o : Op) (c : C)
    (t : Traced ι Op S C) :
    ((env base i).handle o c t).2.total f
      = t.total f + f ⟨i, o, c, t.state, (base.handle o c t.state).2⟩ := by
  simp [total]

variable [DecidableEq ι]

/-- The events of one program. -/
def own (t : Traced ι Op S C) (i : ι) : List (Event ι Op S C) := t.log.filter fun e => e.who = i

theorem own_handle_self (i : ι) (o : Op) (c : C) (t : Traced ι Op S C) :
    ((env base i).handle o c t).2.own i
      = t.own i ++ [⟨i, o, c, t.state, (base.handle o c t.state).2⟩] := by
  simp [own]

theorem own_handle_other {i j : ι} (h : i ≠ j) (o : Op) (c : C) (t : Traced ι Op S C) :
    ((env base i).handle o c t).2.own j = t.own j := by
  simp [own, h]

end Traced

/-! ## Contracts on histories -/

/-- The latest events, down to one that counts. -/
theorem latest_append {β : Type} (p : β → Bool) (log : List β) (e : β) :
    (log ++ [e]).reverse.takeWhile (fun e => !p e)
      = if p e then [] else e :: log.reverse.takeWhile fun e => !p e := by
  rw [List.reverse_append, List.reverse_singleton, List.singleton_append, List.takeWhile_cons]
  cases p e <;> rfl

namespace Traced

variable {ι Op : Type} {Res : Op → Type} {S C : Type} {base : Prog.Env Op Res S C} {i : ι}
  {I : Traced ι Op S C → Prop} {A : ι → Op → C → Traced ι Op S C → Prop} {s t : Traced ι Op S C}

/-- Anything that the other programs may do. -/
def Others (base : Prog.Env Op Res S C) (i : ι) : Traced ι Op S C → Traced ι Op S C → Prop :=
  Relation.ReflTransGen fun s t => ∃ j o c, j ≠ i ∧ t = ((env base j).handle o c s).2

/-- What none of their operations undoes. -/
theorem Others.keeps {F : Traced ι Op S C → Prop} (h : Others base i s t)
    (hF : ∀ j o c s, j ≠ i → F s → F ((env base j).handle o c s).2) (hs : F s) : F t := by
  induction h with
  | refl => exact hs
  | tail _ hstep ih =>
      obtain ⟨j, o, c, hj, rfl⟩ := hstep
      exact hF j o c _ hj ih

/-- The contract of a program that counts on the invariant only: the others do whatever they do, and the
    program one operation at a time. -/
def contract (base : Prog.Env Op Res S C) (I : Traced ι Op S C → Prop)
    (A : ι → Op → C → Traced ι Op S C → Prop) (i : ι) : Contract Op (Traced ι Op S C) C where
  inv := I
  assume := A i
  rely := Others base i
  guar s t := ∃ o c, t = ((env base i).handle o c s).2
  rely_refl _ := .refl
  rely_trans := Relation.ReflTransGen.trans

theorem contract_guar (o : Op) (c : C) (s : Traced ι Op S C) :
    (contract base I A i).guar s ((env base i).handle o c s).2 := ⟨o, c, rfl⟩

theorem contract_compatible : Compatible (contract base I A) I where
  inv _ _ := Iff.rfl
  guar_rely i j hij s t _ _ h := by
    obtain ⟨o, c, rfl⟩ := h
    exact .single ⟨i, o, c, hij, rfl⟩

end Traced
