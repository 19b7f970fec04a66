import LesserHost.Lib.Program

set_option autoImplicit false

/-! # Runs of a step function

Rules for `as.foldl step s`, the state a list of actions leads to: an invariant, a relation between
the first and the last state, and the step at which a run enters a set of states it ends in. -/

namespace Run

variable {S A : Type} {step : S → A → S}

/-- The invariant rule. -/
theorem inv {I : S → Prop} (hstep : ∀ s a, I s → I (step s a)) {s : S} (hs : I s) (as : List A) :
    I (as.foldl step s) := by
  induction as generalizing s with
  | nil => exact hs
  | cons a as ih => exact ih (hstep s a hs)

/-- A property of the steps from the states of an invariant. -/
theorem along_of_inv {I : S → Prop} (hstep : ∀ s a, I s → I (step s a)) {P : S → A → Prop}
    (hP : ∀ s a, I s → P s a) {s : S} (hs : I s) (as : List A) : Along step P s as := by
  induction as generalizing s with
  | nil => trivial
  | cons a as ih => exact ⟨hP s a hs, ih (hstep s a hs)⟩

/-- What holds along a run and implies a relation of each state to the next one relates the first
    state to the last. -/
theorem related {R : S → S → Prop} (hrefl : ∀ s, R s s) (htrans : ∀ {s t u}, R s t → R t u → R s u)
    {P : S → A → Prop} (hP : ∀ s a, P s a → R s (step s a)) {s : S} {as : List A}
    (h : Along step P s as) : R s (as.foldl step s) := by
  induction as generalizing s with
  | nil => exact hrefl s
  | cons a as ih => exact htrans (hP s a h.1) (ih h.2)

theorem along_append {P : S → A → Prop} {s : S} {as bs : List A} :
    Along step P s (as ++ bs) ↔ Along step P s as ∧ Along step P (as.foldl step s) bs := by
  induction as generalizing s with
  | nil => simp [Along]
  | cons a as ih => simp [Along, ih, and_assoc]

/-- A run that ends in `P` has been there from the start, or it entered `P` by some step and has not
    left it since. -/
theorem entered {P : S → Prop} {s : S} {as : List A} (h : P (as.foldl step s)) :
    (P s ∧ Along step (fun t _ => P t) s as) ∨
    ∃ pre a post, as = pre ++ a :: post ∧ ¬ P (pre.foldl step s) ∧
      P (step (pre.foldl step s) a) ∧
      Along step (fun t _ => P t) (step (pre.foldl step s) a) post := by
  induction as generalizing s with
  | nil => exact Or.inl ⟨h, trivial⟩
  | cons a as ih =>
      rcases ih h with ⟨hnext, hall⟩ | ⟨pre, b, post, hsplit, hbefore, hafter, hall⟩
      · by_cases hs : P s
        · exact Or.inl ⟨hs, hs, hall⟩
        · exact Or.inr ⟨[], a, as, rfl, hs, hnext, hall⟩
      · exact Or.inr ⟨a :: pre, b, post, by rw [hsplit]; rfl, hbefore, hafter, hall⟩

/-- The same from a state outside `P`. -/
theorem entry {P : S → Prop} {s : S} {as : List A} (hs : ¬ P s) (h : P (as.foldl step s)) :
    ∃ pre a post, as = pre ++ a :: post ∧ ¬ P (pre.foldl step s) ∧
      P (step (pre.foldl step s) a) ∧
      Along step (fun t _ => P t) (step (pre.foldl step s) a) post :=
  (entered h).resolve_left fun hleft => hs hleft.1

end Run
