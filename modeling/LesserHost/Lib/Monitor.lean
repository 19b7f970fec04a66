import LesserHost.Lib.Program

set_option autoImplicit false

/-! # What a program does after an event

An event is an operation and its result; `Prog.events` lists those of a run. A program `Halts` at an event when
all it does afterwards is silent. The rules follow the program: one for its end, one for an operation, and one for
composition. -/

namespace Prog

variable {Op : Type} {Res : Op → Type} {E α β : Type}

/-- The events of the run in which the operations are answered by `ch 0`, `ch 1`, … in turn. -/
def events : Prog Op Res E α → (Nat → (o : Op) → Res o) → List ((o : Op) × Res o)
  | ret _, _ => []
  | fail _, _ => []
  | op o k, ch => ⟨o, ch 0 o⟩ :: events (k (ch 0 o)) fun n => ch (n + 1)

/-- While every event satisfies `P`, the program ends in `R`; from a `final` event on it is `silent` and ends
in `L`. -/
def Halts (silent : Op → Prop) (P final : (o : Op) → Res o → Prop) (R L : α → Prop) : Prog Op Res E α → Prop
  | ret a => R a
  | fail _ => True
  | op o k => ∀ r, P o r → (final o r → Yields silent L (k r)) ∧ (¬ final o r → Halts silent P final R L (k r))

section Halts

variable {silent : Op → Prop} {P final : (o : Op) → Res o → Prop} {R R' L L' : α → Prop}

theorem halts_pure {a : α} (h : R a) : Halts silent P final R L (pure a : Prog Op Res E α) := h

theorem halts_fail {e : E} : Halts silent P final R L (fail e : Prog Op Res E α) := trivial

theorem halts_perform {o : Op} {R L : Res o → Prop}
    (h : ∀ r, P o r → (final o r → L r) ∧ (¬ final o r → R r)) :
    Halts silent P final R L (perform o : Prog Op Res E (Res o)) :=
  fun r hr => ⟨fun hfinal => yields_pure ((h r hr).1 hfinal), (h r hr).2⟩

theorem Halts.mono {p : Prog Op Res E α} (h : Halts silent P final R L p) (hR : ∀ a, R a → R' a)
    (hL : ∀ a, L a → L' a) : Halts silent P final R' L' p := by
  induction p with
  | ret a => exact hR a h
  | fail e => exact trivial
  | op o k ih => exact fun r hr => ⟨fun hfinal => ((h r hr).1 hfinal).mono hL, fun hgo => ih r ((h r hr).2 hgo)⟩

/-- The rule of composition: what follows after a final event is silent too. -/
theorem halts_bind {p : Prog Op Res E α} {f : α → Prog Op Res E β} {R' L' : β → Prop}
    (h : Halts silent P final R L p) (hR : ∀ a, R a → Halts silent P final R' L' (f a))
    (hL : ∀ a, L a → Yields silent L' (f a)) : Halts silent P final R' L' (p >>= f) := by
  induction p with
  | ret a => exact hR a h
  | fail e => exact trivial
  | op o k ih =>
      exact fun r hr => ⟨fun hfinal => yields_bind ((h r hr).1 hfinal) hL, fun hgo => ih r ((h r hr).2 hgo)⟩

theorem halts_ite {c : Prop} [Decidable c] {p q : Prog Op Res E α} (hp : c → Halts silent P final R L p)
    (hq : ¬ c → Halts silent P final R L q) : Halts silent P final R L (if c then p else q) := by
  split
  · next h => exact hp h
  · next h => exact hq h

/-- A program none of whose operations can be final. -/
theorem halts_of_only {ok : Op → Prop} (hok : ∀ o, ok o → ∀ r, P o r → ¬ final o r) {p : Prog Op Res E α}
    (h : Only ok p) : Halts silent P final (fun _ => True) L p := by
  induction p with
  | ret a => exact trivial
  | fail e => exact trivial
  | op o k ih =>
      rw [only_op] at h
      exact fun r hr => ⟨fun hfinal => absurd hfinal (hok o h.1 r hr), fun _ => ih r (h.2 r)⟩

theorem Only.events {ok : Op → Prop} {p : Prog Op Res E α} (h : Only ok p) (ch : Nat → (o : Op) → Res o) :
    ∀ e ∈ p.events ch, ok e.1 := by
  induction p generalizing ch with
  | ret a => exact fun e he => absurd he List.not_mem_nil
  | fail e => exact fun e he => absurd he List.not_mem_nil
  | op o k ih =>
      rw [only_op] at h
      intro e he
      rcases List.mem_cons.1 he with rfl | he
      · exact h.1
      · exact ih _ (h.2 _) _ e he

/-- In a run all of whose events satisfy `P`, what comes after a final event is silent. -/
theorem Halts.events {p : Prog Op Res E α} (h : Halts silent P final R L p) (ch : Nat → (o : Op) → Res o)
    (hP : ∀ e ∈ p.events ch, P e.1 e.2) :
    (p.events ch).Pairwise fun e e' => final e.1 e.2 → silent e'.1 := by
  induction p generalizing ch with
  | ret a => exact List.Pairwise.nil
  | fail e => exact List.Pairwise.nil
  | op o k ih =>
      rw [Prog.events] at hP ⊢
      obtain ⟨hstop, hgo⟩ := h (ch 0 o) (hP _ List.mem_cons_self)
      have hrest := fun e he => hP e (List.mem_cons_of_mem _ he)
      by_cases hfinal : final o (ch 0 o)
      · have hsilent := (hstop hfinal).only.events fun n => ch (n + 1)
        refine List.pairwise_cons.2 ⟨fun e' he' _ => hsilent e' he', ?_⟩
        exact List.pairwise_of_forall_mem_list fun _ _ e' he' _ => hsilent e' he'
      · exact List.pairwise_cons.2 ⟨fun _ _ h => absurd h hfinal, ih _ (hgo hfinal) _ hrest⟩

end Halts

-- Programs are taken apart by the rules above.
attribute [irreducible] Halts

end Prog
