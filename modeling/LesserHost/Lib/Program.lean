import Mathlib.Logic.Basic

set_option autoImplicit false

/-! # Programs over the operations of an environment

A request handler reads and writes a store it does not own, one operation at a time. `Prog` is such
a handler: an answer, a failure, or an operation and what to do with its result. What an operation
does is fixed by an `Env`, which also takes a `choice` at each operation: what the environment decides
there, such as a fault, the time that passes, or the random bytes drawn.

`Prog.run` runs a handler for one sequence of choices, `Prog.wp` is its weakest precondition over all
of them. `Along` states a property of every step of a run of whole requests. -/

/-- A program with operations `Op`, their results `Res`, and failures `E`. -/
inductive Prog (Op : Type) (Res : Op → Type) (E α : Type) where
  | ret (a : α)
  | fail (e : E)
  | op (o : Op) (k : Res o → Prog Op Res E α)

namespace Prog

variable {Op : Type} {Res : Op → Type} {E α β : Type}

def bind : Prog Op Res E α → (α → Prog Op Res E β) → Prog Op Res E β
  | ret a, f => f a
  | fail e, _ => fail e
  | op o k, f => op o fun r => (k r).bind f

instance : Monad (Prog Op Res E) where
  pure := ret
  bind := bind

/-- Do one operation and return its result. -/
def perform (o : Op) : Prog Op Res E (Res o) := op o ret

@[simp] theorem pure_eq (a : α) : (pure a : Prog Op Res E α) = ret a := rfl

@[simp] theorem ret_bind (a : α) (f : α → Prog Op Res E β) : (ret a >>= f) = f a := rfl

@[simp] theorem op_bind (o : Op) (k : Res o → Prog Op Res E α) (f : α → Prog Op Res E β) :
    (op o k >>= f) = op o fun r => k r >>= f := rfl

theorem bind_assoc {γ : Type} (p : Prog Op Res E α) (f : α → Prog Op Res E β)
    (g : β → Prog Op Res E γ) : (p >>= f) >>= g = p >>= fun a => f a >>= g := by
  induction p with
  | ret a => rfl
  | fail e => rfl
  | op o k ih => exact congrArg (op o) (funext ih)

@[simp] theorem perform_bind (o : Op) (f : Res o → Prog Op Res E β) :
    ((perform o : Prog Op Res E (Res o)) >>= f) = op o f := rfl

/-! ## Running a program -/

/-- What the operations do in a state, for each choice the environment can make. -/
structure Env (Op : Type) (Res : Op → Type) (S C : Type) where
  handle : (o : Op) → C → S → Res o × S

variable {S C : Type}

/-- The answer and the final state when the environment chooses `ch 0`, `ch 1`, … in turn. -/
def run (env : Env Op Res S C) : Prog Op Res E α → (Nat → C) → S → Except E α × S
  | ret a, _, s => (.ok a, s)
  | fail e, _, s => (.error e, s)
  | op o k, ch, s =>
      run env (k (env.handle o (ch 0) s).1) (fun n => ch (n + 1)) (env.handle o (ch 0) s).2

/-- An environment that always makes the same choice. -/
theorem run_always (env : Env Op Res S C) (c : C) (p : Prog Op Res E α) (s : S) :
    run env p (fun _ => c) s = run ⟨fun o _ s => env.handle o c s⟩ p (fun _ => c) s := by
  induction p generalizing s with
  | ret a => rfl
  | fail e => rfl
  | op o k ih => exact ih _ _

/-- With these choices for its next operations, each of which satisfies `P`, the program comes to
    another one and the state to another state. -/
inductive Goes (env : Env Op Res S C) (P : Op → C → S → Prop) :
    Prog Op Res E α → List C → S → Prog Op Res E α → S → Prop where
  | nil (p : Prog Op Res E α) (s : S) : Goes env P p [] s p s
  | op {o : Op} {k : Res o → Prog Op Res E α} {c : C} {cs : List C} {s s' : S} {q : Prog Op Res E α}
      (hP : P o c s) (h : Goes env P (k (env.handle o c s).1) cs (env.handle o c s).2 q s') :
      Goes env P (op o k) (c :: cs) s q s'

/-- Whatever the environment chooses, the program ends with an answer and a state in `Q`. -/
def wp (env : Env Op Res S C) : Prog Op Res E α → (Except E α → S → Prop) → S → Prop
  | ret a, Q, s => Q (.ok a) s
  | fail e, Q, s => Q (.error e) s
  | op o k, Q, s => ∀ c, wp env (k (env.handle o c s).1) Q (env.handle o c s).2

section Rules

variable {env : Env Op Res S C} {Q Q' : Except E α → S → Prop} {s : S}

@[simp] theorem wp_ret (a : α) : wp env (ret a : Prog Op Res E α) Q s ↔ Q (.ok a) s := Iff.rfl

@[simp] theorem wp_pure (a : α) : wp env (pure a : Prog Op Res E α) Q s ↔ Q (.ok a) s := Iff.rfl

@[simp] theorem wp_fail (e : E) : wp env (fail e : Prog Op Res E α) Q s ↔ Q (.error e) s := Iff.rfl

theorem wp_op {o : Op} {k : Res o → Prog Op Res E α} :
    wp env (op o k) Q s ↔ ∀ c, wp env (k (env.handle o c s).1) Q (env.handle o c s).2 := Iff.rfl

theorem wp_ite {c : Prop} [Decidable c] {p q : Prog Op Res E α} (hp : c → wp env p Q s)
    (hq : ¬c → wp env q Q s) : wp env (if c then p else q) Q s := by
  split
  · next h => exact hp h
  · next h => exact hq h

theorem wp_mono {p : Prog Op Res E α} (h : wp env p Q s) (hQ : ∀ r s', Q r s' → Q' r s') :
    wp env p Q' s := by
  induction p generalizing s with
  | ret a => exact hQ _ _ h
  | fail e => exact hQ _ _ h
  | op o k ih => exact fun c => ih _ (h c)

theorem wp_bind {p : Prog Op Res E α} {f : α → Prog Op Res E β} {Q : Except E β → S → Prop} :
    wp env (p >>= f) Q s ↔
      wp env p (fun r s' => match r with
        | .ok a => wp env (f a) Q s'
        | .error e => Q (.error e) s') s := by
  induction p generalizing s with
  | ret a => exact Iff.rfl
  | fail e => exact Iff.rfl
  | op o k ih => exact forall_congr' fun c => ih _

/-- The rule of composition: a specification of the first program, and what follows from it. -/
theorem wp_bind_of {p : Prog Op Res E α} {f : α → Prog Op Res E β} {Q : Except E β → S → Prop}
    {R : Except E α → S → Prop} (h : wp env p R s) (hok : ∀ a s', R (.ok a) s' → wp env (f a) Q s')
    (herr : ∀ e s', R (.error e) s' → Q (.error e) s') : wp env (p >>= f) Q s := by
  rw [wp_bind]
  refine wp_mono h ?_
  rintro (e | a) s' hR
  · exact herr e s' hR
  · exact hok a s' hR

/-- What holds after every run holds after each one. -/
theorem run_of_wp {p : Prog Op Res E α} (h : wp env p Q s) (ch : Nat → C) :
    Q (run env p ch s).1 (run env p ch s).2 := by
  induction p generalizing s ch with
  | ret a => exact h
  | fail e => exact h
  | op o k ih => exact ih _ (h (ch 0)) _

end Rules

/-! ## Answers -/

/-- A failure leaves a state in `I`, an answer one in `P`. -/
def Ensures (env : Env Op Res S C) (I : S → Prop) (p : Prog Op Res E α) (P : α → S → Prop)
    (s : S) : Prop :=
  wp env p (fun r s' => match r with
    | .ok a => P a s'
    | .error _ => I s') s

section Ensures

variable {env : Env Op Res S C} {I : S → Prop} {P P' : α → S → Prop} {s : S}

theorem ensures_pure {a : α} (h : P a s) : Ensures env I (pure a : Prog Op Res E α) P s := h

theorem ensures_fail {e : E} (h : I s) : Ensures env I (fail e : Prog Op Res E α) P s := h

theorem ensures_perform {o : Op} {P : Res o → S → Prop}
    (h : ∀ c, P (env.handle o c s).1 (env.handle o c s).2) :
    Ensures env I (perform o : Prog Op Res E (Res o)) P s := h

theorem ensures_bind {p : Prog Op Res E α} {f : α → Prog Op Res E β} {R : α → S → Prop}
    {P : β → S → Prop} (h : Ensures env I p R s)
    (hf : ∀ a s', R a s' → Ensures env I (f a) P s') : Ensures env I (p >>= f) P s :=
  wp_bind_of h hf fun _ _ hI => hI

theorem ensures_ite {c : Prop} [Decidable c] {p q : Prog Op Res E α}
    (hp : c → Ensures env I p P s) (hq : ¬c → Ensures env I q P s) :
    Ensures env I (if c then p else q) P s := by
  split
  · next h => exact hp h
  · next h => exact hq h

theorem Ensures.mono {p : Prog Op Res E α} (h : Ensures env I p P s)
    (hP : ∀ a s', P a s' → P' a s') : Ensures env I p P' s := by
  refine wp_mono h ?_
  rintro (e | a) s' hr
  · exact hr
  · exact hP a s' hr

/-- What holds after every failure and every answer. -/
theorem Ensures.wp {p : Prog Op Res E α} (h : Ensures env I p (fun _ s' => I s') s) :
    p.wp env (fun _ s' => I s') s := by
  refine wp_mono h ?_
  rintro (e | a) s' hr
  · exact hr
  · exact hr

/-- A program that cannot fail. -/
theorem Ensures.total {p : Prog Op Res E α} {J : S → Prop}
    (h : Ensures env (fun _ => False) p (fun _ s' => J s') s) : p.wp env (fun _ s' => J s') s := by
  refine wp_mono h ?_
  rintro (e | a) s' hr
  · exact hr.elim
  · exact hr

theorem ensures_of_wp {p : Prog Op Res E α} {J : S → Prop} (h : p.wp env (fun _ s' => J s') s)
    (hJ : ∀ s', J s' → I s') : Ensures env I p (fun _ s' => J s') s := by
  refine wp_mono h ?_
  rintro (e | a) s' hr
  · exact hJ s' hr
  · exact hr

end Ensures

/-! ## Programs of a restricted kind -/

/-- Every operation the program can come to satisfies `ok`. -/
def Only (ok : Op → Prop) : Prog Op Res E α → Prop
  | ret _ => True
  | fail _ => True
  | op o k => ok o ∧ ∀ r, Only ok (k r)

section Only

variable {ok : Op → Prop}

@[simp] theorem only_ret (a : α) : Only ok (ret a : Prog Op Res E α) := trivial

@[simp] theorem only_pure (a : α) : Only ok (pure a : Prog Op Res E α) := trivial

@[simp] theorem only_fail (e : E) : Only ok (fail e : Prog Op Res E α) := trivial

@[simp] theorem only_op (o : Op) (k : Res o → Prog Op Res E α) :
    Only ok (op o k) ↔ ok o ∧ ∀ r, Only ok (k r) := Iff.rfl

@[simp] theorem only_perform (o : Op) : Only ok (perform o : Prog Op Res E (Res o)) ↔ ok o :=
  ⟨fun h => h.1, fun h => ⟨h, fun _ => trivial⟩⟩

theorem only_bind {p : Prog Op Res E α} {f : α → Prog Op Res E β} (hp : Only ok p)
    (hf : ∀ a, Only ok (f a)) : Only ok (p >>= f) := by
  induction p with
  | ret a => exact hf a
  | fail e => exact trivial
  | op o k ih => exact ⟨hp.1, fun r => ih r (hp.2 r)⟩

theorem only_ite {c : Prop} [Decidable c] {p q : Prog Op Res E α} (hp : Only ok p)
    (hq : Only ok q) : Only ok (if c then p else q) := by
  split
  · exact hp
  · exact hq

theorem Only.mono {ok' : Op → Prop} {p : Prog Op Res E α} (hp : Only ok p)
    (h : ∀ o, ok o → ok' o) : Only ok' p := by
  induction p with
  | ret a => exact trivial
  | fail e => exact trivial
  | op o k ih => exact ⟨h o hp.1, fun r => ih r (hp.2 r)⟩

/-- What each allowed operation keeps, the whole program keeps. -/
theorem wp_of_only {env : Env Op Res S C} {I : S → Prop}
    (hI : ∀ o, ok o → ∀ c s, I s → I (env.handle o c s).2) {p : Prog Op Res E α} {s : S}
    (hp : Only ok p) (hs : I s) : wp env p (fun _ s' => I s') s := by
  induction p generalizing s with
  | ret a => exact hs
  | fail e => exact hs
  | op o k ih => exact fun c => ih _ (hp.2 _) (hI o hp.1 c s hs)

end Only

/-- Every operation the program can come to satisfies `ok`, and every answer satisfies `R`. -/
def Yields (ok : Op → Prop) (R : α → Prop) : Prog Op Res E α → Prop
  | ret a => R a
  | fail _ => True
  | op o k => ok o ∧ ∀ r, Yields ok R (k r)

section Yields

variable {ok : Op → Prop} {R R' : α → Prop}

theorem yields_pure {a : α} (h : R a) : Yields ok R (pure a : Prog Op Res E α) := h

theorem yields_fail {e : E} : Yields ok R (fail e : Prog Op Res E α) := trivial

theorem yields_perform {o : Op} {R : Res o → Prop} (ho : ok o) (h : ∀ r, R r) :
    Yields ok R (perform o : Prog Op Res E (Res o)) := ⟨ho, h⟩

theorem yields_bind {p : Prog Op Res E α} {f : α → Prog Op Res E β} {Q : β → Prop}
    (hp : Yields ok R p) (hf : ∀ a, R a → Yields ok Q (f a)) : Yields ok Q (p >>= f) := by
  induction p with
  | ret a => exact hf a hp
  | fail e => exact trivial
  | op o k ih => exact ⟨hp.1, fun r => ih r (hp.2 r)⟩

theorem yields_ite {c : Prop} [Decidable c] {p q : Prog Op Res E α} (hp : c → Yields ok R p)
    (hq : ¬c → Yields ok R q) : Yields ok R (if c then p else q) := by
  split
  · next h => exact hp h
  · next h => exact hq h

theorem Yields.mono {p : Prog Op Res E α} (hp : Yields ok R p) (h : ∀ a, R a → R' a) :
    Yields ok R' p := by
  induction p with
  | ret a => exact h a hp
  | fail e => exact trivial
  | op o k ih => exact ⟨hp.1, fun r => ih r (hp.2 r)⟩

theorem Yields.only {p : Prog Op Res E α} (hp : Yields ok R p) : Only ok p := by
  induction p with
  | ret a => exact trivial
  | fail e => exact trivial
  | op o k ih => exact ⟨hp.1, fun r => ih r (hp.2 r)⟩

end Yields

-- Programs are taken apart by the lemmas above, not by unfolding what they compute.
attribute [irreducible] wp Ensures Only Yields

end Prog

/-! ## Runs of requests -/

section Along

variable {S A : Type}

/-- `P` holds of every state a run comes through and the action taken there. -/
def Along (step : S → A → S) (P : S → A → Prop) : S → List A → Prop
  | _, [] => True
  | s, a :: as => P s a ∧ Along step P (step s a) as

instance Along.decide (step : S → A → S) (P : S → A → Prop) [∀ s a, Decidable (P s a)] :
    (s : S) → (as : List A) → Decidable (Along step P s as)
  | _, [] => isTrue trivial
  | s, a :: as =>
      have := Along.decide step P (step s a) as
      inferInstanceAs (Decidable (P s a ∧ Along step P (step s a) as))

/-- The run rule: under `P`, an invariant is kept and `Q` follows from it. -/
theorem Along.of_inv {step : S → A → S} {I : S → Prop} {P Q : S → A → Prop}
    (hI : ∀ s a, I s → P s a → I (step s a)) (hQ : ∀ s a, I s → P s a → Q s a) {s : S}
    {as : List A} (hs : I s) (h : Along step P s as) : Along step Q s as := by
  induction as generalizing s with
  | nil => trivial
  | cons a as ih => exact ⟨hQ s a hs h.1, ih (hI s a hs h.1) h.2⟩

end Along
