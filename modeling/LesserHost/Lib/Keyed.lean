import Mathlib.Logic.Function.Basic

set_option autoImplicit false

/-! # Rows under their keys

A table that is written by rows, each under the key it computes to, and the set of rows it holds. -/

namespace Keyed

variable {K R : Type} [DecidableEq K] {key : R → K} {rows : K → Option R} {P Q : R → Prop}

def put (key : R → K) (rows : K → Option R) (r : R) : K → Option R :=
  Function.update rows (key r) (some r)

def delete (key : R → K) (rows : K → Option R) (r : R) : K → Option R :=
  Function.update rows (key r) none

/-- The rows of the table are those in `P`, each under its key. -/
def Holds (key : R → K) (rows : K → Option R) (P : R → Prop) : Prop :=
  ∀ k r, rows k = some r ↔ k = key r ∧ P r

omit [DecidableEq K] in
theorem Holds.congr (h : Holds key rows P) (hPQ : ∀ r, P r ↔ Q r) : Holds key rows Q :=
  fun k r => (h k r).trans (and_congr_right fun _ => hPQ r)

omit [DecidableEq K] in
theorem Holds.row (h : Holds key rows P) {r : R} (hr : P r) : rows (key r) = some r :=
  (h _ r).2 ⟨rfl, hr⟩

theorem Holds.put (h : Holds key rows P) (r : R) :
    Holds key (put key rows r) fun r' => r' = r ∨ P r' ∧ key r' ≠ key r := by
  intro k r'
  unfold Keyed.put
  by_cases hk : k = key r
  · subst hk
    rw [Function.update_self]
    constructor
    · intro hsame
      cases hsame
      exact ⟨rfl, Or.inl rfl⟩
    · rintro ⟨hkey, rfl | ⟨-, hne⟩⟩
      · rfl
      · exact absurd hkey.symm hne
  · rw [Function.update_of_ne hk, h k r']
    constructor
    · rintro ⟨rfl, hP⟩
      exact ⟨rfl, Or.inr ⟨hP, hk⟩⟩
    · rintro ⟨rfl, rfl | ⟨hP, -⟩⟩
      · exact absurd rfl hk
      · exact ⟨rfl, hP⟩

theorem Holds.delete (h : Holds key rows P) (r : R) :
    Holds key (delete key rows r) fun r' => P r' ∧ key r' ≠ key r := by
  intro k r'
  unfold Keyed.delete
  by_cases hk : k = key r
  · subst hk
    rw [Function.update_self]
    constructor
    · intro hnone
      cases hnone
    · rintro ⟨hkey, -, hne⟩
      exact absurd hkey.symm hne
  · rw [Function.update_of_ne hk, h k r']
    constructor
    · rintro ⟨rfl, hP⟩
      exact ⟨rfl, hP, hk⟩
    · rintro ⟨rfl, hP, -⟩
      exact ⟨rfl, hP⟩

theorem Holds.deleteAll (h : Holds key rows P) (rs : List R) :
    Holds key (rs.foldl (Keyed.delete key) rows) fun r' => P r' ∧ ∀ r ∈ rs, key r' ≠ key r := by
  induction rs generalizing rows P with
  | nil => exact h.congr fun r => by simp
  | cons r rs ih =>
      refine (ih (h.delete r)).congr fun r' => ?_
      rw [List.forall_mem_cons, and_assoc]

/-- Rows that agree where their keys do. -/
theorem Holds.putAll (h : Holds key rows P) {rs : List R}
    (hrs : ∀ r ∈ rs, ∀ r' ∈ rs, key r = key r' → r = r') :
    Holds key (rs.foldl (Keyed.put key) rows) fun r' => r' ∈ rs ∨ P r' ∧ ∀ r ∈ rs, key r' ≠ key r := by
  induction rs generalizing rows P with
  | nil => exact h.congr fun r => by simp
  | cons r rs ih =>
      have hrest := ih (h.put r) fun a ha b hb =>
        hrs a (List.mem_cons_of_mem _ ha) b (List.mem_cons_of_mem _ hb)
      refine hrest.congr fun r' => ?_
      rw [List.mem_cons, List.forall_mem_cons]
      constructor
      · rintro (hmem | ⟨rfl | ⟨hP, hne⟩, hall⟩)
        · exact Or.inl (Or.inr hmem)
        · exact Or.inl (Or.inl rfl)
        · exact Or.inr ⟨hP, hne, hall⟩
      · rintro ((rfl | hmem) | ⟨hP, hne, hall⟩)
        · by_cases hmem : r' ∈ rs
          · exact Or.inl hmem
          · refine Or.inr ⟨Or.inl rfl, fun a ha hkey => hmem ?_⟩
            rw [hrs r' List.mem_cons_self a (List.mem_cons_of_mem _ ha) hkey]
            exact ha
        · exact Or.inl hmem
        · exact Or.inr ⟨Or.inr ⟨hP, hne⟩, hall⟩

/-- The rows of one owner are deleted, all of them. -/
theorem Holds.deleteOwned {A : Type} (h : Holds key rows P) (owner : R → A) (a : A) (rs : List R)
    (hkey : ∀ r r', key r = key r' → owner r = owner r') (hrs : ∀ r ∈ rs, owner r = a)
    (hall : ∀ r, P r → owner r = a → ∃ r' ∈ rs, key r = key r') :
    Holds key (rs.foldl (Keyed.delete key) rows) fun r => P r ∧ owner r ≠ a := by
  refine (h.deleteAll rs).congr fun r => and_congr_right fun hr => ?_
  constructor
  · intro hne howner
    obtain ⟨r', hr', hsame⟩ := hall r hr howner
    exact hne r' hr' hsame
  · intro howner r' hr' hsame
    exact howner ((hkey r r' hsame).trans (hrs r' hr'))

end Keyed
