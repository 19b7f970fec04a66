import Mathlib.Algebra.Order.BigOperators.Group.Finset
import Mathlib.Data.Fintype.BigOperators

set_option autoImplicit false

/-! # Reference counts

A finite set of keys, each of which may use one value, and a counter per value that is kept by
increments and decrements. The type carries the fact that the counter is exact. -/

namespace RefCount

variable {K V : Type} [Fintype K] [DecidableEq K] [DecidableEq V]

/-- How many keys use `w`. -/
def uses (f : K → Option V) (w : V) : ℕ := (Finset.univ.filter fun k => f k = some w).card

omit [DecidableEq K] in
theorem uses_pos {f : K → Option V} {k : K} {w : V} (h : f k = some w) : 0 < uses f w :=
  Finset.card_pos.2 ⟨k, by simp [h]⟩

/-- What giving one key another value does to the number of uses. -/
theorem uses_update (f : K → Option V) (k : K) (o : Option V) (w : V) :
    uses (Function.update f k o) w + (if f k = some w then 1 else 0)
      = uses f w + (if o = some w then 1 else 0) := by
  have hsum : ∀ g : K → Option V, uses g w = ∑ k, if g k = some w then 1 else 0 := by
    intro g
    rw [uses, Finset.card_filter]
  have hsplit : ∀ g : K → Option V, uses g w
      = (if g k = some w then 1 else 0)
        + ∑ j ∈ Finset.univ.erase k, if g j = some w then 1 else 0 := by
    intro g
    rw [hsum g]
    exact (Finset.add_sum_erase _ (fun j => if g j = some w then 1 else 0)
      (Finset.mem_univ k)).symm
  have hrest : (∑ j ∈ Finset.univ.erase k, if Function.update f k o j = some w then 1 else 0)
      = ∑ j ∈ Finset.univ.erase k, if f j = some w then 1 else 0 := by
    refine Finset.sum_congr rfl ?_
    intro j hj
    rw [Function.update_of_ne (Finset.ne_of_mem_erase hj)]
  rw [hsplit f, hsplit (Function.update f k o), hrest, Function.update_self]
  omega

end RefCount

/-- An assignment of values to keys together with its exact reference counts. -/
structure RefCount (K V : Type) [Fintype K] [DecidableEq V] where
  assign : K → Option V
  count : V → ℕ
  exact : ∀ w, count w = RefCount.uses assign w

namespace RefCount

variable {K V : Type} [Fintype K] [DecidableEq K] [DecidableEq V]

omit [DecidableEq K] in
/-- A value in use is counted, so its counter can be decremented. -/
theorem count_pos (r : RefCount K V) {k : K} {w : V} (h : r.assign k = some w) :
    0 < r.count w := by
  rw [r.exact w]
  exact uses_pos h

def empty : RefCount K V where
  assign _ := none
  count _ := 0
  exact w := by simp [uses]

/-- A key without a value gets one. -/
def add (r : RefCount K V) (k : K) (w : V) (h : r.assign k = none) : RefCount K V where
  assign := Function.update r.assign k (some w)
  count := Function.update r.count w (r.count w + 1)
  exact v := by
    have hv := uses_update r.assign k (some w) v
    simp only [h, reduceCtorEq, if_false, Option.some.injEq] at hv
    by_cases hw : v = w
    · subst hw
      rw [if_pos rfl] at hv
      rw [Function.update_self, r.exact v]
      omega
    · rw [if_neg (Ne.symm hw)] at hv
      rw [Function.update_of_ne hw, r.exact v]
      omega

/-- A key with a value gets another one. -/
def move (r : RefCount K V) (k : K) (old w : V) (h : r.assign k = some old) (hne : old ≠ w) :
    RefCount K V where
  assign := Function.update r.assign k (some w)
  count := Function.update (Function.update r.count old (r.count old - 1)) w (r.count w + 1)
  exact v := by
    have hv := uses_update r.assign k (some w) v
    have hpos := r.count_pos h
    simp only [h, Option.some.injEq] at hv
    by_cases hw : v = w
    · subst hw
      rw [if_pos rfl, if_neg hne] at hv
      rw [Function.update_self, r.exact v]
      omega
    · rw [if_neg (Ne.symm hw)] at hv
      rw [Function.update_of_ne hw]
      by_cases ho : v = old
      · subst ho
        rw [if_pos rfl] at hv
        rw [Function.update_self]
        have := r.exact v
        omega
      · rw [if_neg (Ne.symm ho)] at hv
        rw [Function.update_of_ne ho, r.exact v]
        omega

/-- A key keeps its value. -/
theorem assign_update_self (r : RefCount K V) {k : K} {w : V} (h : r.assign k = some w) :
    Function.update r.assign k (some w) = r.assign := by
  rw [← h, Function.update_eq_self]

end RefCount
