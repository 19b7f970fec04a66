import Mathlib.Algebra.BigOperators.Fin
import Mathlib.Algebra.Order.BigOperators.Group.Finset
import Mathlib.Data.Fintype.BigOperators

set_option autoImplicit false

/-! # Escrow

Money held for others: `owed` says how much belongs to each account, `reserve` how much there is.
The type carries its solvency, so every operation is also the proof that it keeps the escrow
solvent. -/

namespace Escrow

variable {A : Type} [DecidableEq A]

/-- Add `n` to the entry of `a`. -/
def creditOne (f : A → ℕ) (a : A) (n : ℕ) : A → ℕ := Function.update f a (f a + n)

/-- Add every share of the list; accounts may occur several times. -/
def creditAll (f : A → ℕ) (shares : List (A × ℕ)) : A → ℕ :=
  shares.foldl (fun g t => creditOne g t.1 t.2) f

@[simp] theorem creditAll_nil (f : A → ℕ) : creditAll f [] = f := rfl

@[simp] theorem creditAll_cons (f : A → ℕ) (t : A × ℕ) (shares : List (A × ℕ)) :
    creditAll f (t :: shares) = creditAll (creditOne f t.1 t.2) shares := rfl

theorem creditAll_append (f : A → ℕ) (xs ys : List (A × ℕ)) :
    creditAll f (xs ++ ys) = creditAll (creditAll f xs) ys := by
  simp [creditAll]

/-- Crediting commutes with a pointwise sum. -/
theorem creditOne_add (f g : A → ℕ) (a : A) (n : ℕ) :
    creditOne (f + g) a n = creditOne f a n + g := by
  funext b
  by_cases h : b = a
  · subst h; simp [creditOne]; omega
  · simp [creditOne, h]

theorem creditAll_add (f g : A → ℕ) (shares : List (A × ℕ)) :
    creditAll (f + g) shares = creditAll f shares + g := by
  induction shares generalizing f with
  | nil => rfl
  | cons t shares ih => rw [creditAll_cons, creditAll_cons, creditOne_add, ih]

section Sum

variable [Fintype A]

theorem sum_creditOne (f : A → ℕ) (a : A) (n : ℕ) :
    ∑ b, creditOne f a n b = ∑ b, f b + n := by
  have h1 : ∑ b, creditOne f a n b = (f a + n) + ∑ b ∈ Finset.univ \ {a}, f b :=
    Finset.sum_update_of_mem (Finset.mem_univ a) f (f a + n)
  have h2 : f a + ∑ b ∈ Finset.univ \ {a}, f b = ∑ b, f b := by
    rw [← Finset.sum_update_of_mem (Finset.mem_univ a) f (f a), Function.update_eq_self]
  omega

theorem sum_creditAll (f : A → ℕ) (shares : List (A × ℕ)) :
    ∑ b, creditAll f shares b = ∑ b, f b + (shares.map Prod.snd).sum := by
  induction shares generalizing f with
  | nil => simp
  | cons t shares ih =>
      rw [creditAll_cons, ih, sum_creditOne, List.map_cons, List.sum_cons]
      omega

theorem sum_clear (f : A → ℕ) (a : A) :
    ∑ b, Function.update f a 0 b + f a = ∑ b, f b := by
  have h := sum_creditOne (Function.update f a 0) a (f a)
  have hf : creditOne (Function.update f a 0) a (f a) = f := by
    simp [creditOne]
  rw [hf] at h
  exact h.symm

omit [DecidableEq A] in
theorem le_sum (f : A → ℕ) (a : A) : f a ≤ ∑ b, f b :=
  Finset.single_le_sum (fun _ _ => Nat.zero_le _) (Finset.mem_univ a)

end Sum

end Escrow

/-- Accounts with claims, and a reserve that covers all of them. -/
structure Escrow (A : Type) [Fintype A] where
  owed : A → ℕ
  reserve : ℕ
  solvent : ∑ a, owed a ≤ reserve

namespace Escrow

variable {A : Type} [DecidableEq A] [Fintype A]

def empty (reserve : ℕ) : Escrow A := ⟨fun _ => 0, reserve, by simp⟩

/-- Money arrives and all of it is split into shares. -/
def deposit (e : Escrow A) (shares : List (A × ℕ)) : Escrow A where
  owed := creditAll e.owed shares
  reserve := e.reserve + (shares.map Prod.snd).sum
  solvent := by rw [sum_creditAll]; exact Nat.add_le_add_right e.solvent _

/-- Money that is already there, and owed to nobody, is split into shares. -/
def allot (e : Escrow A) (shares : List (A × ℕ))
    (h : ∑ a, e.owed a + (shares.map Prod.snd).sum ≤ e.reserve) : Escrow A where
  owed := creditAll e.owed shares
  reserve := e.reserve
  solvent := by rw [sum_creditAll]; exact h

/-- Money arrives that is owed to nobody. -/
def gift (e : Escrow A) (n : ℕ) : Escrow A where
  owed := e.owed
  reserve := e.reserve + n
  solvent := e.solvent.trans (Nat.le_add_right _ _)

/-- An account takes all it is owed. -/
def payout (e : Escrow A) (a : A) : Escrow A where
  owed := Function.update e.owed a 0
  reserve := e.reserve - e.owed a
  solvent := by
    have h := sum_clear e.owed a
    have := e.solvent
    omega

/-- What exceeds the claims is taken out. -/
def sweep (e : Escrow A) : Escrow A where
  owed := e.owed
  reserve := ∑ a, e.owed a
  solvent := le_rfl

section Fields

variable (e : Escrow A) (shares : List (A × ℕ)) (a : A)

@[simp] theorem deposit_owed : (e.deposit shares).owed = creditAll e.owed shares := rfl

@[simp] theorem deposit_reserve :
    (e.deposit shares).reserve = e.reserve + (shares.map Prod.snd).sum := rfl

@[simp] theorem allot_owed (h) : (e.allot shares h).owed = creditAll e.owed shares := rfl

@[simp] theorem allot_reserve (h) : (e.allot shares h).reserve = e.reserve := rfl

omit [DecidableEq A] in
@[simp] theorem gift_owed (n : ℕ) : (e.gift n).owed = e.owed := rfl

omit [DecidableEq A] in
@[simp] theorem gift_reserve (n : ℕ) : (e.gift n).reserve = e.reserve + n := rfl

@[simp] theorem payout_owed : (e.payout a).owed = Function.update e.owed a 0 := rfl

@[simp] theorem payout_reserve : (e.payout a).reserve = e.reserve - e.owed a := rfl

omit [DecidableEq A] in
@[simp] theorem sweep_owed : e.sweep.owed = e.owed := rfl

omit [DecidableEq A] in
@[simp] theorem sweep_reserve : e.sweep.reserve = ∑ a, e.owed a := rfl

end Fields

omit [DecidableEq A] in
theorem owed_le_reserve (e : Escrow A) (a : A) : e.owed a ≤ e.reserve :=
  (le_sum e.owed a).trans e.solvent

end Escrow
