import Mathlib.Data.List.Basic
import Mathlib.Data.Nat.Bitwise
import Mathlib.Tactic.SplitIfs

set_option autoImplicit false

/-! # Merkle trees

`internal/merkle/tree.go`, over any hash function for pairs: the levels of a tree, the siblings on the way up
from a leaf, and the check of an opening. A level of odd length pairs its last node with itself.

`proof_verifies`: the three loops agree on the shape of the tree at every level. -/

namespace LesserHost.Merkle

/-- An error that is returned, or an access out of bounds. -/
inductive Failure where
  | error (text : String)
  | panic
  deriving DecidableEq

section Model

variable {Hash : Type} (parentHash : Hash → Hash → Hash)

/-- `Levels[0]` are the leaves, the only node of the last level is the root. -/
structure Tree (Hash : Type) where
  Levels : List (List Hash)

/-- The level above. -/
def pairUp : List Hash → List Hash
  | left :: right :: rest => parentHash left right :: pairUp rest
  | [left] => [parentHash left left]
  | [] => []

theorem length_pairUp (cur : List Hash) : (pairUp parentHash cur).length = (cur.length + 1) / 2 := by
  induction cur using pairUp.induct with
  | case1 left right rest ih =>
    simp only [pairUp, List.length_cons, ih]
    omega
  | case2 left => simp [pairUp]
  | case3 => simp [pairUp]

/-- The levels from `cur` up. -/
def levelsFrom (cur : List Hash) : List (List Hash) :=
  if cur.length > 1 then cur :: levelsFrom (pairUp parentHash cur) else [cur]
termination_by cur.length
decreasing_by rw [length_pairUp]; omega

def Build (leaves : List Hash) : Tree Hash :=
  if leaves.length = 0 then ⟨[[]]⟩ else ⟨levelsFrom parentHash leaves⟩

/-- The zero hash where there is no root. -/
def Tree.Root [Inhabited Hash] (t : Tree Hash) : Hash :=
  match t.Levels.getLast? with
  | none => default
  | some last => last.headD default

/-- The position of a node's sibling; the last node of an odd level is its own. -/
def sib (n idx : Nat) : Nat := if idx ^^^ 1 ≥ n then idx else idx ^^^ 1

/-- The siblings of the node at `idx`, one for each level but the last. -/
def siblings : List (List Hash) → Nat → Except Failure (List Hash)
  | [], _ => .ok []
  | nodes :: levels, idx => do
      match nodes[sib nodes.length idx]? with
      | none => .error .panic
      | some node => do
          let proof ← siblings levels (idx / 2)
          return node :: proof

def Tree.Proof (t : Tree Hash) (index : Int) : Except Failure (List Hash) :=
  match t.Levels with
  | [] => .error (.error "tree is nil")
  | leaves :: _ =>
      if index < 0 then .error (.error "invalid index")
      else if leaves.length = 0 then .error (.error "empty tree")
      else if index ≥ leaves.length then .error (.error "index out of range")
      else siblings t.Levels.dropLast index.toNat

/-- The hash that the siblings lead to. -/
def climb (hash : Hash) (idx : Nat) : List Hash → Hash
  | [] => hash
  | sib :: proof =>
      climb (if idx % 2 = 0 then parentHash hash sib else parentHash sib hash) (idx / 2) proof

def Verify [DecidableEq Hash] (leaf : Hash) (index : Int) (proof : List Hash) (root : Hash) : Bool :=
  if index < 0 then false else climb parentHash leaf index.toNat proof == root

end Model

/-! ## The shape of a tree -/

section Shape

variable {Hash : Type} {parentHash : Hash → Hash → Hash} {cur : List Hash}

theorem levelsFrom_single (h : cur.length ≤ 1) : levelsFrom parentHash cur = [cur] := by
  rw [levelsFrom, if_neg (Nat.not_lt.2 h)]

theorem levelsFrom_pair (h : 1 < cur.length) :
    levelsFrom parentHash cur = cur :: levelsFrom parentHash (pairUp parentHash cur) := by
  rw [levelsFrom, if_pos h]

variable (parentHash) in
/-- Induction along the levels of a tree. -/
theorem levels_induction {P : List Hash → Prop} (single : ∀ cur, cur.length ≤ 1 → P cur)
    (pair : ∀ cur, 1 < cur.length → P (pairUp parentHash cur) → P cur) (cur : List Hash) : P cur := by
  induction cur using levelsFrom.induct parentHash with
  | case1 cur h ih => exact pair cur h ih
  | case2 cur h => exact single cur (Nat.not_lt.1 h)

theorem levelsFrom_ne_nil (cur : List Hash) : levelsFrom parentHash cur ≠ [] := by
  rw [levelsFrom]
  split_ifs <;> exact List.cons_ne_nil _ _

/-- Over the levels of a longer list there is at least one more. -/
theorem dropLast_levelsFrom (h : 1 < cur.length) :
    (levelsFrom parentHash cur).dropLast = cur :: (levelsFrom parentHash (pairUp parentHash cur)).dropLast := by
  rw [levelsFrom_pair h, List.dropLast_cons_of_ne_nil (levelsFrom_ne_nil _)]

variable (parentHash) in
@[simp] theorem head?_levelsFrom (cur : List Hash) : (levelsFrom parentHash cur).head? = some cur := by
  rw [levelsFrom]
  split_ifs <;> rfl

/-- What the loop of `Build` puts at a position of the next level. -/
theorem getElem?_pairUp (cur : List Hash) (k : Nat) :
    (pairUp parentHash cur)[k]? =
      cur[2 * k]?.map fun left => parentHash left (cur[2 * k + 1]?.getD left) := by
  induction cur using pairUp.induct generalizing k with
  | case1 left right rest ih =>
    cases k with
    | zero => simp [pairUp]
    | succ k =>
      rw [pairUp, List.getElem?_cons_succ, ih]
      simp [show 2 * (k + 1) = 2 * k + 1 + 1 by omega]
  | case2 left =>
    cases k with
    | zero => simp [pairUp]
    | succ k => simp [pairUp, show 2 * (k + 1) = 2 * k + 1 + 1 by omega]
  | case3 => simp [pairUp]

theorem sib_odd {n i : Nat} (hi : i < n) (odd : i % 2 = 1) : sib n i = i - 1 := by
  have flipped : i ^^^ 1 = i - 1 := Nat.xor_one_of_odd (Nat.odd_iff.2 odd)
  rw [sib, flipped, if_neg (by omega)]

theorem sib_even {n i : Nat} (even : i % 2 = 0) : sib n i = if i + 1 < n then i + 1 else i := by
  have flipped : i ^^^ 1 = i + 1 := Nat.xor_one_of_even (Nat.even_iff.2 even)
  rw [sib, flipped]
  split_ifs <;> omega

variable (parentHash) in
/-- A node of the level above is the hash of a node and its sibling, the one at the even position first. -/
theorem pairUp_above {i : Nat} (h : i < cur.length) :
    ∃ node, cur[sib cur.length i]? = some node ∧
      (pairUp parentHash cur)[i / 2]? =
        some (if i % 2 = 0 then parentHash cur[i] node else parentHash node cur[i]) := by
  rcases Nat.mod_two_eq_zero_or_one i with even | odd
  · have half : 2 * (i / 2) = i := by omega
    rw [getElem?_pairUp, half, List.getElem?_eq_getElem h, sib_even even]
    by_cases next : i + 1 < cur.length
    · exact ⟨cur[i + 1], by simp [next], by simp [next, even]⟩
    · exact ⟨cur[i], by simp [next, h], by simp [next, even]⟩
  · have before : i - 1 < cur.length := by omega
    have half : 2 * (i / 2) = i - 1 := by omega
    have here : i - 1 + 1 = i := by omega
    rw [getElem?_pairUp, half, here, List.getElem?_eq_getElem before, sib_odd h odd]
    exact ⟨cur[i - 1], List.getElem?_eq_getElem before, by simp [h, odd]⟩

end Shape

/-! ## Completeness -/

section Complete

variable {Hash : Type} [Inhabited Hash] {parentHash : Hash → Hash → Hash}

theorem Root_single (leaf : Hash) : Tree.Root ⟨levelsFrom parentHash [leaf]⟩ = leaf := by
  rw [levelsFrom_single (by simp)]
  rfl

theorem Root_pair {cur : List Hash} (h : 1 < cur.length) :
    Tree.Root ⟨levelsFrom parentHash cur⟩ = Tree.Root ⟨levelsFrom parentHash (pairUp parentHash cur)⟩ := by
  rw [Tree.Root, Tree.Root, levelsFrom_pair h, List.getLast?_cons]
  cases last : (levelsFrom parentHash (pairUp parentHash cur)).getLast? with
  | none => exact absurd (List.getLast?_eq_none_iff.1 last) (levelsFrom_ne_nil _)
  | some nodes => rfl

variable (parentHash) in
/-- From any level, the siblings lead to the root. -/
theorem siblings_climb (cur : List Hash) (i : Nat) (h : i < cur.length) :
    ∃ proof, siblings (levelsFrom parentHash cur).dropLast i = .ok proof ∧
      climb parentHash cur[i] i proof = Tree.Root ⟨levelsFrom parentHash cur⟩ := by
  induction cur using levels_induction parentHash generalizing i with
  | single cur small =>
    obtain ⟨leaf, rfl⟩ := List.length_eq_one_iff.1 (show cur.length = 1 by omega)
    obtain rfl : i = 0 := by simpa using h
    exact ⟨[], by rw [levelsFrom_single (by simp)]; rfl, (Root_single leaf).symm⟩
  | pair cur large ih =>
    obtain ⟨node, atSib, above⟩ := pairUp_above parentHash h
    have inside : i / 2 < (pairUp parentHash cur).length := by rw [length_pairUp]; omega
    obtain ⟨proof, ok, root⟩ := ih (i / 2) inside
    rw [List.getElem?_eq_getElem inside, Option.some.injEq] at above
    refine ⟨node :: proof, ?_, ?_⟩
    · rw [dropLast_levelsFrom large, siblings, atSib, ok]
      rfl
    · rw [climb, ← above, root, Root_pair large]

/-- The proof of every leaf opens the root at its position. -/
theorem proof_verifies [DecidableEq Hash] (leaves : List Hash) (i : Nat) (h : i < leaves.length) :
    ∃ proof, (Build parentHash leaves).Proof i = .ok proof ∧
      Verify parentHash leaves[i] i proof (Build parentHash leaves).Root = true := by
  have nonempty : leaves.length ≠ 0 := by omega
  obtain ⟨proof, ok, root⟩ := siblings_climb parentHash leaves i h
  refine ⟨proof, ?_, ?_⟩
  · have first := head?_levelsFrom parentHash leaves
    rw [Build, if_neg nonempty, Tree.Proof]
    cases levels : levelsFrom parentHash leaves with
    | nil => exact absurd levels (levelsFrom_ne_nil _)
    | cons level rest =>
      rw [levels] at first ok
      obtain rfl : level = leaves := by simpa using first
      simp only [if_neg (Int.not_lt.2 (Int.natCast_nonneg i)), if_neg nonempty]
      rw [if_neg (by omega), Int.toNat_natCast, ok]
  · rw [Verify, if_neg (Int.not_lt.2 (Int.natCast_nonneg i)), Int.toNat_natCast, root, Build,
      if_neg nonempty]
    exact beq_self_eq_true _

end Complete

/-- The last of three leaves, whose sibling on the lowest level is itself. -/
theorem proof_verifies_last :
    ∃ proof, (Build (fun a b : Nat => 2 ^ a * 3 ^ b) [1, 2, 3]).Proof (2 : Nat) = .ok proof ∧
      Verify (fun a b : Nat => 2 ^ a * 3 ^ b) 3 (2 : Nat) proof
        (Build (fun a b : Nat => 2 ^ a * 3 ^ b) [1, 2, 3]).Root = true :=
  proof_verifies [1, 2, 3] 2 (by decide)

end LesserHost.Merkle
