import LesserHost.Go.Text
import Mathlib.Order.Bounds.Basic

set_option autoImplicit false

/-! # Prices in credits and cents

`PricedCredits` multiplies a price by basis points and `creditsAmountCents` turns credits into cents. Both
round up. A product that does not fit in 64 bits is not computed: it is priced at the largest number there
is, even where the price after the division would have been small. -/

namespace LesserHost.Billing

open LesserHost.Go

def maxInt64 : Int := 2 ^ 63 - 1

def IsInt64 (n : Int) : Prop := -2 ^ 63 ≤ n ∧ n ≤ maxInt64

instance (n : Int) : Decidable (IsInt64 n) := inferInstanceAs (Decidable (_ ∧ _))

theorem isInt64_of_nonneg {n : Int} (hlow : 0 ≤ n) (hhigh : n ≤ maxInt64) : IsInt64 n :=
  ⟨le_trans (by decide) hlow, hhigh⟩

/-! ## Rounding up -/

/-- The quotient, rounded up. -/
def ceilDiv (a d : Int) : Int := -(-a / d)

section Ceil

variable {a b d q : Int}

theorem ceilDiv_isLeast (hd : 0 < d) (a : Int) : IsLeast {q | a ≤ q * d} (ceilDiv a d) := by
  constructor
  · have h := Int.ediv_mul_le (-a) (ne_of_gt hd)
    change a ≤ -(-a / d) * d
    rw [Int.neg_mul]
    omega
  · intro q hq
    have h : -q ≤ -a / d := (Int.le_ediv_iff_mul_le hd).2 (by rw [Int.neg_mul]; exact neg_le_neg hq)
    rw [ceilDiv]
    omega

theorem ceilDiv_le_iff (hd : 0 < d) : ceilDiv a d ≤ q ↔ a ≤ q * d := by
  refine ⟨fun h => ?_, fun h => (ceilDiv_isLeast hd a).2 h⟩
  exact (ceilDiv_isLeast hd a).1.trans (Int.mul_le_mul_of_nonneg_right h (le_of_lt hd))

theorem ceilDiv_mono (hd : 0 < d) (h : a ≤ b) : ceilDiv a d ≤ ceilDiv b d :=
  (ceilDiv_le_iff hd).2 (h.trans (ceilDiv_isLeast hd b).1)

/-- Adding the divisor less one and cutting off rounds up. -/
theorem add_ediv_eq_ceilDiv (hd : 0 < d) : (a + (d - 1)) / d = ceilDiv a d := by
  refine le_antisymm ?_ ((ceilDiv_le_iff hd).2 ?_)
  · have hleast : a ≤ ceilDiv a d * d := (ceilDiv_isLeast hd a).1
    refine Int.le_of_lt_add_one ((Int.ediv_lt_iff_lt_mul hd).2 ?_)
    rw [Int.add_mul]
    omega
  · have h := Int.lt_ediv_add_one_mul_self (a + (d - 1)) hd
    rw [Int.add_mul] at h
    omega

end Ceil

/-! ## Prices -/

/-- `PricedCredits`, with what becomes of the results of its arithmetic. -/
def PricedCreditsWith (int64 : Int → Int) (base multiplierBps : Int) : Int :=
  if base ≤ 0 then 0
  else if multiplierBps ≤ 0 then base
  else if multiplierBps = 10000 then base
  else if (maxInt64 - 9999).tdiv multiplierBps < base then maxInt64
  else (int64 (int64 (base * multiplierBps) + 9999)).tdiv 10000

def PricedCredits (base multiplierBps : Int) : Int := PricedCreditsWith int64 base multiplierBps

/-- `creditsAmountCents`, with what becomes of the results of its arithmetic. -/
def creditsAmountCentsWith (int64 : Int → Int) (credits centsPer1000 : Int) : Except String Int :=
  if credits ≤ 0 then .error "credits must be > 0"
  else if centsPer1000 ≤ 0 then .error "pricing is not configured"
  else if 1000000000 < credits then .error "credits too large"
  else .ok ((int64 (int64 (credits * centsPer1000) + 999)).tdiv 1000)

def creditsAmountCents (credits centsPer1000 : Int) : Except String Int :=
  creditsAmountCentsWith int64 credits centsPer1000

/-- Arithmetic that is exact on 64 bits, whatever it does beyond them. -/
def ExactOn64 (int64 : Int → Int) : Prop := ∀ n, IsInt64 n → int64 n = n

theorem int64_exact : ExactOn64 int64 := fun _ h => int64_eq h.1 (Int.lt_of_le_sub_one h.2)

section Priced

variable {base other multiplierBps multiplier' : Int} {wrap : Int → Int}

/-- The products that are computed fit. -/
theorem guard_iff (hmultiplier : 0 < multiplierBps) :
    ¬ (maxInt64 - 9999).tdiv multiplierBps < base ↔ base * multiplierBps + 9999 ≤ maxInt64 := by
  have hnonneg : 0 ≤ maxInt64 - 9999 := by decide
  rw [Int.tdiv_eq_ediv_of_nonneg hnonneg, not_lt, Int.le_ediv_iff_mul_le hmultiplier]
  omega

theorem priced_exact (hwrap : ExactOn64 wrap) (hbase : 0 < base) (hmultiplier : 0 < multiplierBps)
    (hfits : base * multiplierBps + 9999 ≤ maxInt64) :
    PricedCreditsWith wrap base multiplierBps = ceilDiv (base * multiplierBps) 10000 := by
  have hpos := Int.mul_pos hbase hmultiplier
  rw [PricedCreditsWith, if_neg (by omega), if_neg (by omega), if_neg ((guard_iff hmultiplier).2 hfits)]
  split_ifs with hplain
  · rw [hplain]
    refine le_antisymm ?_ ((ceilDiv_le_iff (by decide)).2 le_rfl)
    have hleast := (ceilDiv_isLeast (d := 10000) (by decide) (base * 10000)).1
    exact Int.le_of_mul_le_mul_right hleast (by decide)
  · rw [hwrap (base * multiplierBps) (isInt64_of_nonneg (by omega) (by omega)),
      hwrap _ (isInt64_of_nonneg (by omega) hfits),
      Int.tdiv_eq_ediv_of_nonneg (by omega)]
    exact add_ediv_eq_ceilDiv (d := 10000) (by decide)

theorem priced_saturated (hbase : 0 < base) (hmultiplier : 0 < multiplierBps)
    (hlarge : maxInt64 < base * multiplierBps + 9999) :
    PricedCreditsWith wrap base multiplierBps = if multiplierBps = 10000 then base else maxInt64 := by
  rw [PricedCreditsWith, if_neg (by omega), if_neg (by omega)]
  have hguard : (maxInt64 - 9999).tdiv multiplierBps < base := by
    by_contra h
    exact absurd ((guard_iff hmultiplier).1 h) (by omega)
  rw [if_pos hguard]

/-- What a price is, for a base price and a multiplier. -/
structure Priced (base multiplierBps price : Int) : Prop where
  int64 : IsInt64 price
  free : base ≤ 0 → price = 0
  unpriced : 0 < base → multiplierBps ≤ 0 → price = base
  exact : 0 < base → 0 < multiplierBps → base * multiplierBps + 9999 ≤ maxInt64 →
    price = ceilDiv (base * multiplierBps) 10000
  saturated : 0 < base → 0 < multiplierBps → maxInt64 < base * multiplierBps + 9999 →
    price = if multiplierBps = 10000 then base else maxInt64
  covers : 0 < base → min (ceilDiv (base * multiplierBps) 10000) maxInt64 ≤ price

theorem ceilDiv_range {a d : Int} (hd : 0 < d) (ha : 0 ≤ a) (hfits : a ≤ maxInt64) :
    0 ≤ ceilDiv a d ∧ ceilDiv a d ≤ maxInt64 := by
  constructor
  · by_contra hneg
    have hleast : a ≤ ceilDiv a d * d := (ceilDiv_isLeast hd a).1
    have hprod := Int.mul_neg_of_neg_of_pos (not_le.1 hneg) hd
    omega
  · refine (ceilDiv_le_iff hd).2 (hfits.trans ?_)
    have h := Int.mul_le_mul_of_nonneg_left (show 1 ≤ d from hd) (show 0 ≤ maxInt64 by decide)
    omega

theorem priced (hbase : IsInt64 base) : Priced base multiplierBps (PricedCredits base multiplierBps) := by
  have hfree : base ≤ 0 → PricedCredits base multiplierBps = 0 := fun h => if_pos h
  have hunpriced : 0 < base → multiplierBps ≤ 0 → PricedCredits base multiplierBps = base := by
    intro hpos hmultiplier
    rw [PricedCredits, PricedCreditsWith, if_neg (by omega), if_pos hmultiplier]
  have hexact : 0 < base → 0 < multiplierBps → base * multiplierBps + 9999 ≤ maxInt64 →
      PricedCredits base multiplierBps = ceilDiv (base * multiplierBps) 10000 := priced_exact int64_exact
  have hsaturated : 0 < base → 0 < multiplierBps → maxInt64 < base * multiplierBps + 9999 →
      PricedCredits base multiplierBps = if multiplierBps = 10000 then base else maxInt64 :=
    priced_saturated
  refine ⟨?_, hfree, hunpriced, hexact, hsaturated, fun hpos => ?_⟩
  · rcases le_or_gt base 0 with h | hpos
    · rw [hfree h]
      exact isInt64_of_nonneg le_rfl (by decide)
    · rcases le_or_gt multiplierBps 0 with h | hmultiplier
      · rwa [hunpriced hpos h]
      · rcases le_or_gt (base * multiplierBps + 9999) maxInt64 with hfits | hlarge
        · have hproduct := Int.mul_pos hpos hmultiplier
          obtain ⟨hlow, hhigh⟩ := ceilDiv_range (a := base * multiplierBps) (d := 10000) (by decide)
            (by omega) (by omega)
          rw [hexact hpos hmultiplier hfits]
          exact isInt64_of_nonneg hlow hhigh
        · rw [hsaturated hpos hmultiplier hlarge]
          split_ifs
          · exact hbase
          · exact isInt64_of_nonneg (by decide) le_rfl
  · rcases le_or_gt multiplierBps 0 with h | hmultiplier
    · rw [hunpriced hpos h]
      refine (min_le_left _ _).trans ((ceilDiv_le_iff (by decide)).2 ?_)
      have hproduct := Int.mul_nonpos_of_nonneg_of_nonpos (le_of_lt hpos) h
      omega
    · rcases le_or_gt (base * multiplierBps + 9999) maxInt64 with hfits | hlarge
      · rw [hexact hpos hmultiplier hfits]
        exact min_le_left _ _
      · rw [hsaturated hpos hmultiplier hlarge]
        split_ifs with hplain
        · refine (min_le_left _ _).trans ((ceilDiv_le_iff (by decide)).2 ?_)
          rw [hplain]
        · exact min_le_right _ _

/-- A larger base price is not cheaper. -/
theorem priced_mono_base (multiplierBps : Int) (hother : IsInt64 other) (h : base ≤ other) :
    PricedCredits base multiplierBps ≤ PricedCredits other multiplierBps := by
  have hbase : base ≤ maxInt64 := h.trans hother.2
  rcases le_or_gt base 0 with hfree | hpos
  · rw [PricedCredits, PricedCreditsWith, if_pos hfree]
    rcases le_or_gt other 0 with hnone | hsome
    · rw [PricedCredits, PricedCreditsWith, if_pos hnone]
    · have hpriced : Priced other multiplierBps (PricedCredits other multiplierBps) := priced hother
      have hcovers := hpriced.covers hsome
      rcases le_or_gt multiplierBps 0 with hle | hmultiplier
      · rw [(priced hother).unpriced hsome hle]
        exact le_of_lt hsome
      · refine le_trans (le_min ?_ (by decide)) hcovers
        by_contra hneg
        have hleast : other * multiplierBps ≤ ceilDiv (other * multiplierBps) 10000 * 10000 :=
          (ceilDiv_isLeast (by decide) _).1
        have hproduct := Int.mul_pos hsome hmultiplier
        omega
  · have hsome : 0 < other := by omega
    have hrange : IsInt64 base := isInt64_of_nonneg (le_of_lt hpos) hbase
    rcases le_or_gt multiplierBps 0 with hle | hmultiplier
    · rw [(priced hrange).unpriced hpos hle, (priced hother).unpriced hsome hle]
      exact h
    · have hproducts := Int.mul_le_mul_of_nonneg_right h (le_of_lt hmultiplier)
      rcases le_or_gt (other * multiplierBps + 9999) maxInt64 with hfits | hlarge
      · rw [(priced hrange).exact hpos hmultiplier (by omega), (priced hother).exact hsome hmultiplier hfits]
        exact ceilDiv_mono (by decide) hproducts
      · rw [(priced hother).saturated hsome hmultiplier hlarge]
        split_ifs with hplain
        · rw [PricedCredits, PricedCreditsWith, if_neg (by omega), if_neg (by omega), if_pos hplain]
          exact h
        · exact (priced hrange).int64.2

/-- A larger multiplier is not cheaper, unless it is the plain one and the other product does not fit. -/
theorem priced_mono_multiplier (hbase : IsInt64 base) (hmultiplier : 0 < multiplierBps)
    (h : multiplierBps ≤ multiplier')
    (hfits : multiplier' = 10000 → base * multiplierBps + 9999 ≤ maxInt64) :
    PricedCredits base multiplierBps ≤ PricedCredits base multiplier' := by
  rcases le_or_gt base 0 with hfree | hpos
  · rw [(priced hbase).free hfree, (priced hbase).free hfree]
  · have hother : 0 < multiplier' := by omega
    have hproducts := Int.mul_le_mul_of_nonneg_left h (le_of_lt hpos)
    rcases le_or_gt (base * multiplier' + 9999) maxInt64 with hsmall | hlarge
    · rw [(priced hbase).exact hpos hmultiplier (by omega), (priced hbase).exact hpos hother hsmall]
      exact ceilDiv_mono (by decide) hproducts
    · rw [(priced hbase).saturated hpos hother hlarge]
      split_ifs with hplain
      · rw [(priced hbase).exact hpos hmultiplier (hfits hplain)]
        refine (ceilDiv_le_iff (by decide)).2 ?_
        rwa [hplain] at hproducts
      · exact (priced hbase).int64.2

end Priced

/-- The amount of an accepted purchase whose product fits. -/
theorem amount_exact {wrap : Int → Int} {credits centsPer1000 : Int} (hwrap : ExactOn64 wrap)
    (hcredits : 0 < credits) (hmost : credits ≤ 1000000000) (hprice : 0 < centsPer1000)
    (hfits : credits * centsPer1000 + 999 ≤ maxInt64) :
    creditsAmountCentsWith wrap credits centsPer1000 = .ok (ceilDiv (credits * centsPer1000) 1000) := by
  have hpos := Int.mul_pos hcredits hprice
  rw [creditsAmountCentsWith, if_neg (by omega), if_neg (by omega), if_neg (by omega),
    hwrap (credits * centsPer1000) (isInt64_of_nonneg (by omega) (by omega)),
    hwrap _ (isInt64_of_nonneg (by omega) hfits), Int.tdiv_eq_ediv_of_nonneg (by omega)]
  exact congrArg _ (add_ediv_eq_ceilDiv (d := 1000) (by decide))

/-- Nothing that is computed leaves the 64 bits: the arithmetic may do there what it likes. -/
theorem priced_no_overflow {wrap : Int → Int} (hwrap : ExactOn64 wrap) (base multiplierBps : Int) :
    PricedCreditsWith wrap base multiplierBps = PricedCredits base multiplierBps := by
  rcases le_or_gt base 0 with hfree | hpos
  · rw [PricedCredits, PricedCreditsWith, PricedCreditsWith, if_pos hfree, if_pos hfree]
  · rcases le_or_gt multiplierBps 0 with hle | hmultiplier
    · rw [PricedCredits, PricedCreditsWith, PricedCreditsWith, if_neg (by omega), if_pos hle,
        if_neg (by omega), if_pos hle]
    · rcases le_or_gt (base * multiplierBps + 9999) maxInt64 with hfits | hlarge
      · exact (priced_exact hwrap hpos hmultiplier hfits).trans
          (priced_exact int64_exact hpos hmultiplier hfits).symm
      · exact (priced_saturated hpos hmultiplier hlarge).trans
          (priced_saturated hpos hmultiplier hlarge).symm

/-- Prices never overflow; they are exact, rounded up, while the product fits, and the largest number where
it does not. They grow with the base price, and with the multiplier as long as products fit. -/
theorem credits_priced :
    (∀ wrap base multiplierBps, ExactOn64 wrap →
      PricedCreditsWith wrap base multiplierBps = PricedCredits base multiplierBps) ∧
    (∀ base multiplierBps, IsInt64 base → Priced base multiplierBps (PricedCredits base multiplierBps)) ∧
    (∀ base other multiplierBps, IsInt64 other → base ≤ other →
      PricedCredits base multiplierBps ≤ PricedCredits other multiplierBps) ∧
    (∀ base multiplierBps multiplier', IsInt64 base → 0 < multiplierBps → multiplierBps ≤ multiplier' →
      (multiplier' = 10000 → base * multiplierBps + 9999 ≤ maxInt64) →
      PricedCredits base multiplierBps ≤ PricedCredits base multiplier') ∧
    ∀ wrap credits centsPer1000, ExactOn64 wrap → 0 < credits → credits ≤ 1000000000 → 0 < centsPer1000 →
      credits * centsPer1000 + 999 ≤ maxInt64 →
      creditsAmountCentsWith wrap credits centsPer1000 = .ok (ceilDiv (credits * centsPer1000) 1000) :=
  ⟨fun _ base multiplierBps hwrap => priced_no_overflow hwrap base multiplierBps,
    fun _ _ => priced, fun _ _ multiplierBps => priced_mono_base multiplierBps,
    fun _ _ _ => priced_mono_multiplier, fun _ _ _ => amount_exact⟩

/-- Three quarters more on ten credits, and three cents for a credit. -/
theorem credits_priced_small :
    PricedCreditsWith id 10 17500 = PricedCredits 10 17500 ∧
      PricedCredits 10 17500 = ceilDiv (10 * 17500) 10000 ∧ PricedCredits 10 17500 = 18 ∧
      PricedCredits 9 17500 ≤ PricedCredits 10 17500 ∧ PricedCredits 10 9999 ≤ PricedCredits 10 10000 ∧
      creditsAmountCents 1 3000 = .ok 3 := by
  obtain ⟨hexact, hpriced, hbase, hmultiplier, hamount⟩ := credits_priced
  refine ⟨hexact id 10 17500 fun _ _ => rfl, (hpriced 10 17500 (by decide)).exact (by decide) (by decide) (by decide), by decide,
    hbase 9 10 17500 (by decide) (by decide),
    hmultiplier 10 9999 10000 (by decide) (by decide) (by decide) (by decide), ?_⟩
  exact (hamount int64 1 3000 int64_exact (by decide) (by decide) (by decide) (by decide)).trans (by decide)

/-- A price that would fit after the division is saturated before it, and a larger multiplier is cheaper. -/
theorem not_credits_priced :
    PricedCredits 1000000000000000000 9999 = maxInt64 ∧
      ceilDiv (1000000000000000000 * 9999) 10000 = 999900000000000000 ∧
      PricedCredits 1000000000000000000 10000 = 1000000000000000000 ∧
      PricedCredits 1000000000000000000 10000 < PricedCredits 1000000000000000000 9999 := by
  decide

end LesserHost.Billing
