import Mathlib.Algebra.BigOperators.Fin
import Mathlib.Algebra.Order.Ring.Int
import Mathlib.Data.Fintype.BigOperators

set_option autoImplicit false

/-! # Solidity words, addresses and reverts

Addresses and 32-byte words are finite types, so a mapping is a total function and "the sum over all
addresses" is a finite sum. A `uint256` is a natural number; the checked operations of Solidity 0.8
revert where the exact result does not fit. A function that can revert returns `Except Revert`. -/

namespace LesserHost.Solidity

abbrev Address := Fin (2 ^ 160)

abbrev Bytes32 := Fin (2 ^ 256)

instance Address.neZero : NeZero (2 ^ 160) := inferInstance

instance Bytes32.neZero : NeZero (2 ^ 256) := inferInstance

instance uint8.neZero : NeZero 256 := inferInstance

/-- Why an execution reverted. -/
inductive Revert where
  /-- `require(_, reason)` and `revert(reason)` -/
  | reason (text : String)
  /-- a custom error of an inherited contract -/
  | custom (name : String)
  /-- a compiler-inserted check: overflow, underflow -/
  | panic
  /-- a callee reverted, had no code, or the call carried value the function does not take -/
  | failedCall
  deriving DecidableEq, Repr

abbrev Exec := Except Revert

def require (c : Prop) [Decidable c] (e : Revert) : Exec Unit :=
  if c then .ok () else .error e

/-- `a + b` on `uint256`. -/
def checkedAdd (a b : Nat) : Exec Nat :=
  if a + b < 2 ^ 256 then .ok (a + b) else .error .panic

/-- `a - b` on `uint256`. -/
def checkedSub (a b : Nat) : Exec Nat :=
  if b ≤ a then .ok (a - b) else .error .panic

/-- `a * b` on `uint256`. -/
def checkedMul (a b : Nat) : Exec Nat :=
  if a * b < 2 ^ 256 then .ok (a * b) else .error .panic

/-- `m[k] += n`. -/
def addAt {K : Type} [DecidableEq K] (m : K → Nat) (k : K) (n : Nat) : Exec (K → Nat) := do
  let v ← checkedAdd (m k) n
  return Function.update m k v

/-- `m[k] -= n`. -/
def subAt {K : Type} [DecidableEq K] (m : K → Nat) (k : K) (n : Nat) : Exec (K → Nat) := do
  let v ← checkedSub (m k) n
  return Function.update m k v

/-! ## Successful executions -/

section Ok

variable {α β : Type}

@[simp] theorem bind_ok {x : Exec α} {f : α → Exec β} {b : β} :
    (x >>= f) = .ok b ↔ ∃ a, x = .ok a ∧ f a = .ok b := by
  cases x with
  | error e => constructor <;> (intro h; simp [bind, Except.bind] at h)
  | ok a => simp [bind, Except.bind]

@[simp] theorem pure_ok {a b : α} : (pure a : Exec α) = .ok b ↔ a = b := by
  simp [pure, Except.pure]

@[simp] theorem require_ok {c : Prop} [Decidable c] {e : Revert} {u : Unit} :
    require c e = .ok u ↔ c := by
  unfold require
  split <;> simp_all

@[simp] theorem checkedAdd_ok {a b c : Nat} :
    checkedAdd a b = .ok c ↔ a + b < 2 ^ 256 ∧ c = a + b := by
  unfold checkedAdd
  split <;> grind

@[simp] theorem checkedSub_ok {a b c : Nat} : checkedSub a b = .ok c ↔ b ≤ a ∧ c = a - b := by
  unfold checkedSub
  split <;> grind

@[simp] theorem checkedMul_ok {a b c : Nat} :
    checkedMul a b = .ok c ↔ a * b < 2 ^ 256 ∧ c = a * b := by
  unfold checkedMul
  split <;> grind

variable {K : Type} [DecidableEq K]

@[simp] theorem addAt_ok {m m' : K → Nat} {k : K} {n : Nat} :
    addAt m k n = .ok m' ↔ m k + n < 2 ^ 256 ∧ m' = Function.update m k (m k + n) := by
  unfold addAt
  simp only [bind_ok, checkedAdd_ok, pure_ok]
  grind

@[simp] theorem subAt_ok {m m' : K → Nat} {k : K} {n : Nat} :
    subAt m k n = .ok m' ↔ n ≤ m k ∧ m' = Function.update m k (m k - n) := by
  unfold subAt
  simp only [bind_ok, checkedSub_ok, pure_ok]
  grind

end Ok

end LesserHost.Solidity
