import LesserHost.Merkle.Tree
import Mathlib.Data.Set.Function

set_option autoImplicit false

/-! # What a root opens

`Verify` is given neither the number of leaves nor the height of the tree. For a hash function that is injective
on pairs and never yields a leaf, the pairs on the way up have to be those of the tree, so an accepted proof is as
long as the tree is high and its leaf is one of the tree.

The position is another matter. A last node that is its own sibling opens at the index of both, and index bits
above the height are not looked at: an index that is out of range opens the leaf at `reach`, not nothing. -/

namespace LesserHost.Merkle

/-- The leaf that `index` leads to in a tree with `n` leaves. -/
def reach (n index : Nat) : Nat :=
  if n ≤ 1 then 0 else min (2 * reach ((n + 1) / 2) (index / 2) + index % 2) (n - 1)
termination_by n

theorem reach_of_lt (n : Nat) {index : Nat} (h : index < n) : reach n index = index := by
  induction n using Nat.strong_induction_on generalizing index with
  | _ n ih =>
    rw [reach]
    split_ifs with small
    · omega
    · rw [ih ((n + 1) / 2) (by omega) (by omega)]
      omega

section Climb

variable {Hash : Type} (parentHash : Hash → Hash → Hash)

def IsParent (hash : Hash) : Prop := ∃ left right, parentHash left right = hash

variable {parentHash} {cur : List Hash}

theorem climb_append (hash : Hash) (idx : Nat) (proof : List Hash) (node : Hash) :
    climb parentHash hash idx (proof ++ [node]) =
      if idx / 2 ^ proof.length % 2 = 0 then parentHash (climb parentHash hash idx proof) node
      else parentHash node (climb parentHash hash idx proof) := by
  induction proof generalizing hash idx with
  | nil => simp [climb]
  | cons first proof ih =>
    rw [List.cons_append, climb, ih, climb, Nat.div_div_eq_div_mul, List.length_cons, pow_succ']

/-- The last step of a climb hashes a pair. -/
theorem climb_isParent (hash : Hash) (idx : Nat) {proof : List Hash} (h : proof ≠ []) :
    IsParent parentHash (climb parentHash hash idx proof) := by
  rw [← List.dropLast_append_getLast h, climb_append]
  split_ifs
  · exact ⟨_, _, rfl⟩
  · exact ⟨_, _, rfl⟩

theorem mem_pairUp {hash : Hash} (h : hash ∈ pairUp parentHash cur) :
    ∃ left ∈ cur, ∃ right ∈ cur, parentHash left right = hash := by
  induction cur using pairUp.induct with
  | case1 left right rest ih =>
    rcases List.mem_cons.1 h with rfl | above
    · exact ⟨left, by simp, right, by simp, rfl⟩
    · obtain ⟨a, ha, b, hb, eq⟩ := ih above
      exact ⟨a, by simp [ha], b, by simp [hb], eq⟩
  | case2 left => exact ⟨left, by simp, left, by simp, (List.mem_singleton.1 h).symm⟩
  | case3 => exact absurd h List.not_mem_nil

/-- A climb that ends in a node of the level above came through this level. -/
theorem climb_mem_below (inj : Function.Injective2 parentHash) {hash node : Hash} {idx : Nat} {proof : List Hash}
    (h : climb parentHash hash idx (proof ++ [node]) ∈ pairUp parentHash cur) :
    climb parentHash hash idx proof ∈ cur := by
  obtain ⟨left, hleft, right, hright, eq⟩ := mem_pairUp h
  rw [climb_append] at eq
  split_ifs at eq
  · obtain ⟨rfl, -⟩ := inj eq
    exact hleft
  · obtain ⟨-, rfl⟩ := inj eq
    exact hright

end Climb

section Sound

variable {Hash : Type} [Inhabited Hash] {parentHash : Hash → Hash → Hash} {cur : List Hash}

/-- A climb to the root from a leaf is at least as long as the tree is high, and passes each of its levels. -/
theorem climb_through (inj : Function.Injective2 parentHash) {leaf : Hash} (isLeaf : ¬ IsParent parentHash leaf)
    {idx : Nat} {proof : List Hash} (nonempty : cur ≠ [])
    (h : climb parentHash leaf idx proof = Tree.Root ⟨levelsFrom parentHash cur⟩) :
    (levelsFrom parentHash cur).length ≤ proof.length + 1 ∧
      climb parentHash leaf idx (proof.take (proof.length + 1 - (levelsFrom parentHash cur).length)) ∈ cur := by
  induction cur using levels_induction parentHash with
  | single cur small =>
    have one : cur.length = 1 := by
      have := List.length_pos_iff.2 nonempty
      omega
    obtain ⟨root, rfl⟩ := List.length_eq_one_iff.1 one
    rw [Root_single] at h
    simp [levelsFrom_single, h]
  | pair cur large ih =>
    have above : pairUp parentHash cur ≠ [] := by
      rw [← List.length_pos_iff, length_pairUp]
      omega
    rw [Root_pair large] at h
    obtain ⟨long, passed⟩ := ih above h
    rw [levelsFrom_pair large, List.length_cons]
    set height := (levelsFrom parentHash (pairUp parentHash cur)).length with hheight
    by_cases short : proof.length + 1 = height
    · -- the climb would have to start in the level above
      rw [short, Nat.sub_self, List.take_zero, climb] at passed
      obtain ⟨left, -, right, -, eq⟩ := mem_pairUp passed
      exact absurd ⟨left, right, eq⟩ isLeaf
    · refine ⟨by omega, ?_⟩
      have inside : proof.length + 1 - (height + 1) < proof.length := by
        have : 0 < height := List.length_pos_iff.2 (levelsFrom_ne_nil _)
        omega
      have step : proof.length + 1 - height = proof.length + 1 - (height + 1) + 1 := by omega
      rw [step, List.take_succ_eq_append_getElem inside] at passed
      exact climb_mem_below inj passed

/-- A climb of the tree's height starts at the leaf its index leads to. -/
theorem climb_reach (inj : Function.Injective2 parentHash) {leaf : Hash} {idx : Nat} {proof : List Hash}
    (nonempty : cur ≠ []) (height : (levelsFrom parentHash cur).length = proof.length + 1)
    (h : climb parentHash leaf idx proof = Tree.Root ⟨levelsFrom parentHash cur⟩) :
    cur[reach cur.length idx]? = some leaf := by
  induction cur using levels_induction parentHash generalizing leaf idx proof with
  | single cur small =>
    have one : cur.length = 1 := by
      have := List.length_pos_iff.2 nonempty
      omega
    obtain ⟨root, rfl⟩ := List.length_eq_one_iff.1 one
    rw [levelsFrom_single small] at height
    obtain rfl : proof = [] := List.length_eq_zero_iff.1 (by simpa using height.symm)
    rw [Root_single] at h
    simp [reach, ← h, climb]
  | pair cur large ih =>
    have above : pairUp parentHash cur ≠ [] := by
      rw [← List.length_pos_iff, length_pairUp]
      omega
    rw [levelsFrom_pair large, List.length_cons] at height
    cases proof with
    | nil => exact absurd (List.length_eq_zero_iff.1 (by simpa using height)) (levelsFrom_ne_nil _)
    | cons node proof =>
      rw [Root_pair large, climb] at h
      have found := ih above (by simpa using height) h
      set k := reach (pairUp parentHash cur).length (idx / 2) with hk
      have reached : reach cur.length idx = min (2 * k + idx % 2) (cur.length - 1) := by
        rw [hk, length_pairUp, reach, if_neg (by omega)]
      rw [getElem?_pairUp, Option.map_eq_some_iff] at found
      obtain ⟨left, atLeft, eq⟩ := found
      have inside : 2 * k < cur.length := (List.getElem?_eq_some_iff.1 atLeft).1
      rcases Nat.mod_two_eq_zero_or_one idx with even | odd
      · rw [if_pos even] at eq
        obtain ⟨rfl, -⟩ := inj eq
        rw [reached, even, Nat.add_zero, Nat.min_eq_left (by omega), atLeft]
      · rw [if_neg (by omega)] at eq
        obtain ⟨-, rfl⟩ := inj eq
        rw [reached, odd]
        by_cases next : 2 * k + 1 < cur.length
        · rw [Nat.min_eq_left (by omega), List.getElem?_eq_getElem next, Option.getD_some]
        · -- the last node of an odd level is its own sibling
          rw [Nat.min_eq_right (by omega), show cur.length - 1 = 2 * k by omega, atLeft,
            List.getElem?_eq_none (by omega), Option.getD_none]

/-- An accepted opening has the height of the tree and shows the leaf its index leads to: for an index in range
the leaf at that index. -/
theorem opens_leaf [DecidableEq Hash] (inj : Function.Injective2 parentHash) (leaves : List Hash) (leaf : Hash)
    (index : Int) (proof : List Hash) (nonempty : leaves ≠ [])
    (values : ∀ value, value = leaf ∨ value ∈ leaves → ¬ IsParent parentHash value)
    (opened : Verify parentHash leaf index proof (Build parentHash leaves).Root = true) :
    (Build parentHash leaves).Levels.length = proof.length + 1 ∧ 0 ≤ index ∧
      leaves[reach leaves.length index.toNat]? = some leaf ∧
      (index < leaves.length → leaves[index.toNat]? = some leaf) := by
  have some_leaf : leaves.length ≠ 0 := fun h => nonempty (List.length_eq_zero_iff.1 h)
  have nonneg : 0 ≤ index := by
    by_contra negative
    simp [Verify, Int.not_le.1 negative] at opened
  rw [Verify, if_neg (Int.not_lt.2 nonneg), Build, if_neg some_leaf, beq_iff_eq] at opened
  obtain ⟨long, passed⟩ := climb_through inj (values leaf (.inl rfl)) nonempty opened
  have height : (levelsFrom parentHash leaves).length = proof.length + 1 := by
    by_contra other
    refine values _ (.inr passed) (climb_isParent _ _ fun h => ?_)
    rcases List.take_eq_nil_iff.1 h with none | rfl
    · omega
    · have : 0 < (levelsFrom parentHash leaves).length := List.length_pos_iff.2 (levelsFrom_ne_nil _)
      simp only [List.length_nil] at long other
      omega
  have found := climb_reach inj nonempty height opened
  refine ⟨by rw [Build, if_neg some_leaf, height], nonneg, found, fun inRange => ?_⟩
  rwa [reach_of_lt leaves.length (by omega)] at found

end Sound

/-! ## What a root stands for -/

section Snapshots

variable {Hash : Type} {parentHash : Hash → Hash → Hash} {cur : List Hash}

/-- The pairs that are hashed for the level above. -/
def pairs : List Hash → List (Hash × Hash)
  | left :: right :: rest => (left, right) :: pairs rest
  | [left] => [(left, left)]
  | [] => []

theorem pairUp_eq (cur : List Hash) : pairUp parentHash cur = (pairs cur).map (Function.uncurry parentHash) := by
  induction cur using pairUp.induct with
  | case1 left right rest ih => rw [pairUp, pairs, List.map_cons, ih, Function.uncurry_apply_pair]
  | case2 left => rfl
  | case3 => rfl

theorem pairs_injective {cur' : List Hash} (count : cur.length = cur'.length) (h : pairs cur = pairs cur') :
    cur = cur' := by
  induction cur using pairUp.induct generalizing cur' with
  | case1 left right rest ih =>
    obtain ⟨left', above', rfl⟩ := List.exists_cons_of_length_eq_add_one count.symm
    obtain ⟨right', rest', rfl⟩ := List.exists_cons_of_length_eq_add_one (Nat.succ.inj count).symm
    simp only [pairs, List.cons.injEq, Prod.mk.injEq] at h
    obtain ⟨⟨rfl, rfl⟩, above⟩ := h
    rw [ih (by simpa using count) above]
  | case2 left =>
    obtain ⟨left', rfl⟩ := List.length_eq_one_iff.1 count.symm
    simpa [pairs] using h
  | case3 => exact (List.length_eq_zero_iff.1 count.symm).symm

/-- All the pairs that are hashed in a tree. -/
def Tree.pairs (t : Tree Hash) : List (Hash × Hash) := t.Levels.dropLast.flatMap Merkle.pairs

variable [Inhabited Hash]

theorem levels_injective {hashed : Set (Hash × Hash)} (inj : Set.InjOn (Function.uncurry parentHash) hashed)
    {cur' : List Hash} (count : cur.length = cur'.length)
    (h : ∀ pair ∈ Tree.pairs ⟨levelsFrom parentHash cur⟩, pair ∈ hashed)
    (h' : ∀ pair ∈ Tree.pairs ⟨levelsFrom parentHash cur'⟩, pair ∈ hashed)
    (same : Tree.Root ⟨levelsFrom parentHash cur⟩ = Tree.Root ⟨levelsFrom parentHash cur'⟩) : cur = cur' := by
  induction cur using levels_induction parentHash generalizing cur' with
  | single cur small =>
    rcases Nat.le_one_iff_eq_zero_or_eq_one.1 small with none | one
    · obtain rfl := List.length_eq_zero_iff.1 none
      exact (List.length_eq_zero_iff.1 count.symm).symm
    · obtain ⟨root, rfl⟩ := List.length_eq_one_iff.1 one
      obtain ⟨root', rfl⟩ := List.length_eq_one_iff.1 count.symm
      rw [Root_single, Root_single] at same
      rw [same]
  | pair cur large ih =>
    have large' : 1 < cur'.length := count ▸ large
    rw [Root_pair large, Root_pair large'] at same
    simp only [Tree.pairs, dropLast_levelsFrom large, dropLast_levelsFrom large', List.flatMap_cons,
      List.forall_mem_append] at h h'
    have above := ih (by rw [length_pairUp, length_pairUp, count]) h.2 h'.2 same
    have back : ∀ l : List (Hash × Hash), (∀ pair ∈ l, pair ∈ hashed) →
        (l.map (Function.uncurry parentHash)).map (Function.invFunOn (Function.uncurry parentHash) hashed) = l := by
      intro l inside
      rw [List.map_map]
      exact (List.map_congr_left fun pair mem => inj.leftInvOn_invFunOn (inside pair mem)).trans (List.map_id l)
    rw [pairUp_eq, pairUp_eq] at above
    exact pairs_injective count (by rw [← back _ h.1, above, back _ h'.1])

/-- **A root and a count stand for one list of leaves**, as far as the hash function has told apart what was
hashed for it. -/
theorem same_root {hashed : Set (Hash × Hash)} (inj : Set.InjOn (Function.uncurry parentHash) hashed)
    (leaves leaves' : List Hash) (count : leaves.length = leaves'.length)
    (h : ∀ pair ∈ (Build parentHash leaves).pairs ++ (Build parentHash leaves').pairs, pair ∈ hashed) :
    (Build parentHash leaves).Root = (Build parentHash leaves').Root ↔ leaves = leaves' := by
  refine ⟨fun same => ?_, fun same => by rw [same]⟩
  rw [List.forall_mem_append] at h
  by_cases none : leaves.length = 0
  · obtain rfl := List.length_eq_zero_iff.1 none
    exact (List.length_eq_zero_iff.1 count.symm).symm
  · rw [Build, Build, if_neg none, if_neg (count ▸ none)] at h same
    exact levels_injective inj count h.1 h.2 same

end Snapshots

/-! ## A free hash function -/

/-- Hashes as the terms they are made from. -/
inductive Term where
  | leaf (n : Nat)
  | pair (left right : Term)
  deriving DecidableEq, Inhabited

theorem pair_injective : Function.Injective2 Term.pair := by
  rintro a b c d eq
  injection eq with first second
  exact ⟨first, second⟩

theorem leaf_not_isParent (n : Nat) : ¬ IsParent Term.pair (.leaf n) := by
  rintro ⟨left, right, eq⟩
  cases eq

/-- Two of three leaves have changed places. -/
theorem same_root_three :
    (Build Term.pair [.leaf 0, .leaf 1, .leaf 2]).Root = (Build Term.pair [.leaf 0, .leaf 2, .leaf 1]).Root ↔
      [Term.leaf 0, .leaf 1, .leaf 2] = [.leaf 0, .leaf 2, .leaf 1] :=
  same_root pair_injective.uncurry.injOn _ _ rfl fun pair _ => Set.mem_univ pair

/-- The last of three leaves, opened at its own index. -/
theorem opens_last :
    (Build Term.pair [.leaf 0, .leaf 1, .leaf 2]).Levels.length = 3 ∧
      [Term.leaf 0, .leaf 1, .leaf 2][reach 3 2]? = some (.leaf 2) := by
  have opened := opens_leaf pair_injective [.leaf 0, .leaf 1, .leaf 2] (.leaf 2) 2
    [.leaf 2, .pair (.leaf 0) (.leaf 1)] (by simp)
    (by rintro value (rfl | h)
        · exact leaf_not_isParent 2
        · simp only [List.mem_cons, List.not_mem_nil, or_false] at h
          rcases h with rfl | rfl | rfl <;> exact leaf_not_isParent _)
    (by simp [Verify, climb, Build, levelsFrom, pairUp, Tree.Root])
  exact ⟨opened.1, opened.2.2.1⟩

/-- The same leaf at the index after the last. -/
theorem opens_past_the_end :
    Function.Injective2 Term.pair ∧ (∀ n, ¬ IsParent Term.pair (.leaf n)) ∧
      Verify Term.pair (.leaf 2) 3 [.leaf 2, .pair (.leaf 0) (.leaf 1)]
        (Build Term.pair [.leaf 0, .leaf 1, .leaf 2]).Root = true ∧
      ¬ (3 : Int) < [Term.leaf 0, .leaf 1, .leaf 2].length :=
  ⟨pair_injective, leaf_not_isParent,
    by simp [Verify, climb, Build, levelsFrom, pairUp, Tree.Root], by decide⟩

end LesserHost.Merkle
