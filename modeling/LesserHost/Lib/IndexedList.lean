import Mathlib.Data.List.Nodup
import Mathlib.Logic.Function.Basic

set_option autoImplicit false

/-! # Lists with an index

A list of keys and, for every key, its position plus one, or zero for a key that is not in the list. A key is
appended, or removed by moving the last one into its place. The type carries the fact that the index is exact;
that the list has no duplicates follows. -/

/-- A list of keys together with its index. -/
structure IndexedList (K : Type) where
  keys : List K
  index : K → ℕ
  exact : ∀ k i, index k = i + 1 ↔ keys[i]? = some k

namespace IndexedList

variable {K : Type} {l : IndexedList K} {k : K}

theorem index_ne_zero : l.index k ≠ 0 ↔ k ∈ l.keys := by
  constructor
  · intro h
    obtain ⟨i, hi⟩ := Nat.exists_eq_succ_of_ne_zero h
    exact List.mem_of_getElem? ((l.exact k i).1 hi)
  · intro h
    obtain ⟨i, hi⟩ := List.mem_iff_getElem?.1 h
    rw [(l.exact k i).2 hi]
    exact Nat.succ_ne_zero i

/-- The index of a key leads back to it. -/
theorem getElem?_index (h : l.index k ≠ 0) : l.keys[l.index k - 1]? = some k :=
  (l.exact k _).1 (by omega)

theorem index_le (k : K) : l.index k ≤ l.keys.length := by
  by_cases h : l.index k = 0
  · omega
  · have := (List.getElem?_eq_some_iff.1 (getElem?_index h)).1
    omega

theorem nodup (l : IndexedList K) : l.keys.Nodup := by
  rw [List.nodup_iff_getElem?_ne_getElem?]
  intro i j hij hj same
  obtain ⟨k, hk⟩ : ∃ k, l.keys[j]? = some k := ⟨_, List.getElem?_eq_getElem hj⟩
  have hi := (l.exact k i).2 (same.trans hk)
  have := (l.exact k j).2 hk
  omega

def empty : IndexedList K where
  keys := []
  index _ := 0
  exact k i := by simp

variable [DecidableEq K]

/-- Append a key that is not there yet. -/
def push (l : IndexedList K) (k : K) (h : l.index k = 0) : IndexedList K where
  keys := l.keys ++ [k]
  index := Function.update l.index k (l.keys.length + 1)
  exact x i := by
    rw [List.getElem?_append]
    by_cases hx : x = k
    · subst hx
      rw [Function.update_self]
      split_ifs with inside
      · have absent : l.keys[i]? ≠ some x := fun found => by
          have := (l.exact x i).2 found
          omega
        simp only [absent, iff_false]
        omega
      · rw [List.getElem?_singleton]
        split_ifs <;> simp <;> omega
    · rw [Function.update_of_ne hx, l.exact]
      split_ifs with inside
      · rfl
      · rw [List.getElem?_eq_none (Nat.not_lt.1 inside), List.getElem?_singleton]
        split_ifs
        · simp [Ne.symm hx]
        · simp

/-- Remove a key: the last one takes its place. -/
def remove (l : IndexedList K) (k last : K) (h : l.index k ≠ 0)
    (hlast : l.keys[l.keys.length - 1]? = some last) : IndexedList K where
  keys := (l.keys.set (l.index k - 1) last).dropLast
  index := Function.update (Function.update l.index last (l.index k)) k 0
  exact x i := by
    have bound := l.index_le k
    have atEnd := (l.exact last _).2 hlast
    rw [List.getElem?_dropLast, List.getElem?_set, List.length_set]
    by_cases hx : x = k
    · subst hx
      rw [Function.update_self]
      split_ifs with inside here
      · have other : last ≠ x := fun same => by
          subst same
          omega
        simp [other]
      · omega
      · rw [← l.exact, false_iff]
        omega
      · simp
    · rw [Function.update_of_ne hx]
      by_cases hl : x = last
      · subst hl
        rw [Function.update_self]
        have other : l.index k ≠ l.index x := fun same => by
          rw [atEnd, l.exact, hlast] at same
          exact hx (Option.some.inj same)
        split_ifs with inside here
        · simp only [iff_true]
          omega
        · omega
        · rw [← l.exact]
          omega
        · simp only [iff_false]
          omega
      · rw [Function.update_of_ne hl, l.exact]
        split_ifs with inside here
        · have found : l.keys[i]? = some k := by
            rw [← here]
            exact getElem?_index h
          simp [found, Ne.symm hx, Ne.symm hl]
        · omega
        · rfl
        · have absent : l.keys[i]? ≠ some x := fun found => by
            have := (List.getElem?_eq_some_iff.1 found).1
            rw [show i = l.keys.length - 1 by omega, hlast] at found
            exact hl (Option.some.inj found).symm
          simp [absent]

variable {last : K} {h : l.index k ≠ 0} {hlast : l.keys[l.keys.length - 1]? = some last}

variable (h hlast) in
/-- The last key has no hole to fill. -/
theorem remove_last (atEnd : l.index k = l.keys.length) :
    (l.remove k last h hlast).keys = l.keys.dropLast ∧
      (l.remove k last h hlast).index = Function.update l.index k 0 := by
  have found := getElem?_index h
  rw [atEnd, hlast, Option.some.injEq] at found
  subst found
  have same : l.keys.set (l.keys.length - 1) last = l.keys := by
    rw [List.getElem?_eq_some_iff] at hlast
    obtain ⟨inside, eq⟩ := hlast
    conv_lhs => rw [← eq]
    exact List.set_getElem_self inside
  refine ⟨?_, ?_⟩
  · simp only [remove, atEnd, same]
  · simp only [remove, Function.update_idem]

/-- What is left is everything but the key. -/
theorem mem_remove (x : K) : x ∈ (l.remove k last h hlast).keys ↔ x ≠ k ∧ x ∈ l.keys := by
  rw [← index_ne_zero, ← index_ne_zero]
  simp only [remove]
  by_cases hx : x = k
  · simp [hx]
  · rw [Function.update_of_ne hx]
    by_cases hl : x = last
    · subst hl
      have present := (l.exact x _).2 hlast
      rw [Function.update_self]
      exact ⟨fun _ => ⟨hx, by omega⟩, fun _ => h⟩
    · rw [Function.update_of_ne hl]
      simp [hx]

end IndexedList
