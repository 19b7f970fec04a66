import Mathlib.Data.List.DropRight
import Mathlib.Data.Nat.Find
import LesserHost.Go.Bytes
import LesserHost.Go.Text

set_option autoImplicit false

/-! # The order of written times

Texts are compared byte by byte. A time of the years 0 to 9999 that is written with all nine digits of its
second is below every later one. `time.RFC3339Nano` leaves out the zeros at the end, and then the order is
that of the times unless the earlier time is the later one truncated to some digit: what is left of it is
the start of the later one, and the `Z` that follows is above every digit and above the point.

The date is read off the days by cutting them at leap days, so that years follow each other as their first
days do; the rest is digits of fixed width. -/

namespace LesserHost.Go

/-! ## Texts that differ first at an ASCII character -/

def Before (s t : List Char) : Prop :=
  ∃ (p : List Char) (x y : Char) (u v : List Char),
    s = p ++ x :: u ∧ t = p ++ y :: v ∧ x.toNat < y.toNat ∧ y.toNat < 128

section Before

variable {s t : List Char}

theorem Before.append (h : Before s t) (u v : List Char) : Before (s ++ u) (t ++ v) := by
  obtain ⟨p, x, y, u', v', rfl, rfl, hxy, hy⟩ := h
  exact ⟨p, x, y, u' ++ u, v' ++ v, by simp, by simp, hxy, hy⟩

theorem Before.append_left (p : List Char) (h : Before s t) : Before (p ++ s) (p ++ t) := by
  obtain ⟨p', x, y, u, v, rfl, rfl, hxy, hy⟩ := h
  exact ⟨p ++ p', x, y, u, v, by simp, by simp, hxy, hy⟩

theorem Before.cons (c : Char) (h : Before s t) : Before (c :: s) (c :: t) := h.append_left [c]

/-- UTF-8 keeps the order at that place. -/
theorem Before.bytes (h : Before s t) : bytes (String.ofList s) < bytes (String.ofList t) := by
  obtain ⟨p, x, y, u, v, rfl, rfl, hxy, hy⟩ := h
  rw [bytes_ofList, bytes_ofList, List.flatMap_append, List.flatMap_append, List.flatMap_cons,
    List.flatMap_cons, utf8EncodeChar_ascii (c := x) (by omega), utf8EncodeChar_ascii hy,
    List.singleton_append, List.singleton_append]
  refine List.append_left_lt (List.Lex.rel ?_)
  rw [UInt8.lt_iff_toNat_lt, toNat_ascii (by omega), toNat_ascii hy]
  exact hxy

end Before

/-! ## Digits -/

/-- The last `w` digits of a number. -/
def lastDigits : Nat → Nat → List Char
  | 0, _ => []
  | w + 1, n => lastDigits w (n / 10) ++ [Nat.digitChar (n % 10)]

theorem toNat_digitChar {d : Nat} (h : d < 10) : (Nat.digitChar d).toNat = 48 + d := by
  rw [Nat.toNat_digitChar_of_lt_ten h]

theorem mem_lastDigits {w n : Nat} {c : Char} (h : c ∈ lastDigits w n) : c.toNat < 58 := by
  induction w generalizing n with
  | zero => cases h
  | succ w ih =>
      rw [lastDigits, List.mem_append, List.mem_singleton] at h
      rcases h with h | rfl
      · exact ih h
      · have hcode := toNat_digitChar (Nat.mod_lt n (show 10 > 0 by decide))
        omega

theorem padDecimal_digits {w n : Nat} (hw : 0 < w) (hn : n < 10 ^ w) :
    (padDecimal w n).toList = lastDigits w n := by
  have hunit : ∀ (w n : Nat), n < 10 → (padDecimal (w + 1) n).toList
      = List.replicate w '0' ++ [Nat.digitChar n] := by
    intro w n hn
    rw [padDecimal, String.toList_ofList, Nat.toDigits_of_lt_base hn, List.length_singleton,
      Nat.add_sub_cancel]
  obtain ⟨w, rfl⟩ : ∃ m, w = m + 1 := ⟨w - 1, by omega⟩
  induction w generalizing n with
  | zero =>
      have hlt : n < 10 := by simpa using hn
      rw [hunit 0 n hlt, lastDigits, lastDigits, Nat.mod_eq_of_lt hlt]
      rfl
  | succ w ih =>
      have hnext := ih (n := n / 10) (by omega) (by rw [Nat.pow_succ] at hn; omega)
      rw [lastDigits, ← hnext]
      by_cases hlt : n < 10
      · rw [hunit (w + 1) n hlt, show n / 10 = 0 by omega, hunit w 0 (by omega), Nat.mod_eq_of_lt hlt,
          List.replicate_succ']
        rfl
      · have hdigits := Nat.toDigits_append_toDigits (b := 10) (n := n / 10) (d := n % 10) (by decide)
          (by omega) (by omega)
        rw [Nat.div_add_mod, Nat.toDigits_of_lt_base (Nat.mod_lt n (by decide))] at hdigits
        rw [padDecimal, padDecimal, String.toList_ofList, String.toList_ofList, ← hdigits,
          List.length_append, List.length_singleton, Nat.add_sub_add_right, List.append_assoc]

theorem lastDigits_add (i j n : Nat) :
    lastDigits (i + j) n = lastDigits i (n / 10 ^ j) ++ lastDigits j n := by
  induction j generalizing n with
  | zero => simp [lastDigits]
  | succ j ih =>
      rw [← Nat.add_assoc, lastDigits, lastDigits, ih (n / 10), Nat.div_div_eq_div_mul,
        Nat.pow_succ', List.append_assoc]

/-- The first digit where two numbers differ. -/
theorem differ_at {a b : Nat} (h : a < b) :
    ∃ j, a / 10 ^ (j + 1) = b / 10 ^ (j + 1) ∧ a / 10 ^ j % 10 < b / 10 ^ j % 10 := by
  have hex : ∃ j, a / 10 ^ j = b / 10 ^ j := by
    refine ⟨b, ?_⟩
    have hb : b < 10 ^ b := Nat.lt_pow_self (by decide)
    rw [Nat.div_eq_of_lt (h.trans hb), Nat.div_eq_of_lt hb]
  have hmin := Nat.find_spec hex
  have hfirst : ∀ j < Nat.find hex, ¬ a / 10 ^ j = b / 10 ^ j := fun j hj => Nat.find_min hex hj
  generalize Nat.find hex = m at hmin hfirst
  cases m with
  | zero =>
      simp only [pow_zero, Nat.div_one] at hmin
      omega
  | succ j =>
      refine ⟨j, hmin, ?_⟩
      have hne := hfirst j (Nat.lt_succ_self j)
      have hle : a / 10 ^ j ≤ b / 10 ^ j := Nat.div_le_div_right h.le
      rw [Nat.pow_succ, ← Nat.div_div_eq_div_mul, ← Nat.div_div_eq_div_mul] at hmin
      omega

/-- Two numbers of `w` digits, cut at the first digit where they differ. -/
theorem lastDigits_differ {w a b j : Nat} (hb : b < 10 ^ w)
    (hquot : a / 10 ^ (j + 1) = b / 10 ^ (j + 1)) (hdigit : a / 10 ^ j % 10 < b / 10 ^ j % 10) :
    ∃ p, lastDigits w a = p ++ Nat.digitChar (a / 10 ^ j % 10) :: lastDigits j a ∧
      lastDigits w b = p ++ Nat.digitChar (b / 10 ^ j % 10) :: lastDigits j b := by
  have hj : j < w := by
    by_contra hle
    have hzero : b / 10 ^ j = 0 :=
      Nat.div_eq_of_lt (hb.trans_le (Nat.pow_le_pow_right (by decide) (not_lt.1 hle)))
    rw [hzero] at hdigit
    omega
  have hcut : ∀ n, lastDigits w n = lastDigits (w - (j + 1)) (n / 10 ^ (j + 1))
      ++ Nat.digitChar (n / 10 ^ j % 10) :: lastDigits j n := by
    intro n
    have hw : w = w - (j + 1) + (1 + j) := by omega
    conv_lhs => rw [hw, lastDigits_add, lastDigits_add 1 j]
    rw [Nat.add_comm 1 j]
    rfl
  refine ⟨lastDigits (w - (j + 1)) (b / 10 ^ (j + 1)), ?_, hcut b⟩
  rw [hcut a, hquot]

theorem lastDigits_before {w a b : Nat} (h : a < b) (hb : b < 10 ^ w) :
    Before (lastDigits w a) (lastDigits w b) := by
  obtain ⟨j, hquot, hdigit⟩ := differ_at h
  obtain ⟨p, hpa, hpb⟩ := lastDigits_differ hb hquot hdigit
  refine ⟨p, _, _, _, _, hpa, hpb, ?_, ?_⟩
  · rw [toNat_digitChar (Nat.mod_lt _ (by decide)), toNat_digitChar (Nat.mod_lt _ (by decide))]
    omega
  · rw [toNat_digitChar (Nat.mod_lt _ (by decide))]
    omega

theorem padDecimal_before {w a b : Nat} (hw : 0 < w) (h : a < b) (hb : b < 10 ^ w) :
    Before (padDecimal w a).toList (padDecimal w b).toList := by
  rw [padDecimal_digits hw (h.trans hb), padDecimal_digits hw hb]
  exact lastDigits_before h hb

/-! ## The calendar

Years begin in March, so that a leap day ends its year. -/

/-- The first day of a year. -/
def yearStart (year : Nat) : Nat := 365 * year + year / 4 + year / 400 - year / 100

theorem yearStart_mono {a b : Nat} (h : a ≤ b) : yearStart a ≤ yearStart b := by
  induction b, h using Nat.le_induction with
  | base => exact le_rfl
  | succ b _ ih =>
      refine ih.trans ?_
      unfold yearStart
      omega

/-- The year of a day that lies `v` days into the `u`-th four years of the `c`-th century. -/
theorem yearOfEra_eq {day c u v : Nat} (hc : c ≤ 3) (hu : u ≤ 24) (hv : v ≤ 1460)
    (hlast : u = 24 → v < 1460) (h : day = 36524 * c + 1461 * u + v) :
    (day - day / 1460 + day / 36524 - day / 146096) / 365 = 100 * c + 4 * u + min (v / 365) 3 := by
  have hcentury : day / 36524 = c := by omega
  have hera : day / 146096 = 0 := by omega
  have hleap : day / 1460 = 25 * c + u + (24 * c + u + v) / 1460 := by omega
  rw [hcentury, hera, hleap]
  omega

theorem yearOfEra_bounds {day year : Nat} (h : day < 146097)
    (hyear : year = (day - day / 1460 + day / 36524 - day / 146096) / 365) :
    year < 400 ∧ 365 * year + year / 4 - year / 100 ≤ day ∧
      day - (365 * year + year / 4 - year / 100) ≤ 365 ∧
      (year < 399 → day < 365 * (year + 1) + (year + 1) / 4 - (year + 1) / 100) := by
  by_cases hlast : day = 146096
  · subst hlast
    have hlastYear : year = 399 := by omega
    subst hlastYear
    decide
  · have hu : day % 36524 / 1461 ≤ 24 := by omega
    have hc : day / 36524 ≤ 3 := by omega
    rw [yearOfEra_eq (v := day % 36524 % 1461) hc hu (by omega) (by omega) (by omega)] at hyear
    have hday : day = 36524 * (day / 36524) + 1461 * (day % 36524 / 1461) + day % 36524 % 1461 := by omega
    have hv : day % 36524 % 1461 ≤ 1460 := by omega
    have hend : day % 36524 / 1461 = 24 → day % 36524 % 1461 < 1460 := by omega
    generalize day / 36524 = c at *
    generalize day % 36524 / 1461 = u at *
    generalize day % 36524 % 1461 = v at *
    have hfour : year / 4 = 25 * c + u := by omega
    have hcentury : year / 100 = c := by omega
    have hnext : year < 399 → day < 365 * (year + 1) + (year + 1) / 4 - (year + 1) / 100 := by
      intro hlt
      by_cases hw : v / 365 < 3
      · have hfour' : (year + 1) / 4 = 25 * c + u := by omega
        have hcentury' : (year + 1) / 100 = c := by omega
        rw [hfour', hcentury']
        omega
      · have hfour' : (year + 1) / 4 = 25 * c + u + 1 := by omega
        rw [hfour']
        by_cases hu' : u = 24
        · have hcentury' : (year + 1) / 100 = c + 1 := by omega
          rw [hcentury']
          omega
        · have hcentury' : (year + 1) / 100 = c := by omega
          rw [hcentury']
          omega
    refine ⟨by omega, ?_, ?_, hnext⟩
    · rw [hfour, hcentury]
      omega
    · rw [hfour, hcentury]
      omega

/-- The number by which dates are ordered. -/
def dateNumber (date : Nat × Nat × Nat) : Nat := 512 * date.1 + 32 * date.2.1 + date.2.2

/-- A date from the year that begins in March and the day of it. -/
theorem civilDate_spec (days : Nat) : ∃ year day : Nat, days + 306 = yearStart year + day ∧ day ≤ 365 ∧
    days + 306 < yearStart (year + 1) ∧
    civilDate days = (year + (if (5 * day + 2) / 153 < 10 then 0 else 1),
      (if (5 * day + 2) / 153 < 10 then (5 * day + 2) / 153 + 3 else (5 * day + 2) / 153 - 9),
      day - (153 * ((5 * day + 2) / 153) + 2) / 5 + 1) := by
  have hdayOfEra : (days + 306) % 146097 < 146097 := Nat.mod_lt _ (by decide)
  have hbounds := yearOfEra_bounds hdayOfEra rfl
  unfold civilDate
  dsimp only
  generalize hera : (days + 306) / 146097 = era
  generalize hday : (days + 306) % 146097 = dayOfEra at *
  generalize (dayOfEra - dayOfEra / 1460 + dayOfEra / 36524 - dayOfEra / 146096) / 365 = y at *
  obtain ⟨hy, hlow, hday365, hhigh⟩ := hbounds
  have hdays : days + 306 = 146097 * era + dayOfEra := by omega
  have hfour : (400 * era + y) / 4 = 100 * era + y / 4 := by omega
  have hcentury : (400 * era + y) / 100 = 4 * era + y / 100 := by omega
  have hfourCenturies : (400 * era + y) / 400 = era := by omega
  refine ⟨400 * era + y, dayOfEra - (365 * y + y / 4 - y / 100), ?_, hday365, ?_, ?_⟩
  · rw [yearStart, hfour, hcentury, hfourCenturies]
    omega
  · rcases Nat.lt_or_eq_of_le (Nat.le_of_lt_succ hy) with hlt | rfl
    · have hnext := hhigh hlt
      have hfour' : (400 * era + y + 1) / 4 = 100 * era + (y + 1) / 4 := by omega
      have hcentury' : (400 * era + y + 1) / 100 = 4 * era + (y + 1) / 100 := by omega
      have hfourCenturies' : (400 * era + y + 1) / 400 = era := by omega
      rw [yearStart, hfour', hcentury', hfourCenturies']
      omega
    · unfold yearStart
      omega
  · generalize dayOfEra - (365 * y + y / 4 - y / 100) = day at *
    refine Prod.ext ?_ rfl
    dsimp only
    split <;> split <;> omega

theorem civilDate_fields (days : Nat) : 1 ≤ (civilDate days).2.1 ∧ (civilDate days).2.1 ≤ 12 ∧
    1 ≤ (civilDate days).2.2 ∧ (civilDate days).2.2 ≤ 31 := by
  obtain ⟨year, day, -, hday, -, heq⟩ := civilDate_spec days
  rw [heq]
  dsimp only
  refine ⟨?_, ?_, ?_, ?_⟩
  · split <;> omega
  · split <;> omega
  · omega
  · omega

/-- Later days have later dates. -/
theorem civilDate_lt {d₁ d₂ : Nat} (h : d₁ < d₂) :
    dateNumber (civilDate d₁) < dateNumber (civilDate d₂) := by
  obtain ⟨y₁, n₁, hd₁, hn₁, hend₁, heq₁⟩ := civilDate_spec d₁
  obtain ⟨y₂, n₂, hd₂, hn₂, hend₂, heq₂⟩ := civilDate_spec d₂
  have hyear : y₁ ≤ y₂ := by
    by_contra hlt
    have hstart := yearStart_mono (a := y₂ + 1) (b := y₁) (by omega)
    omega
  rw [heq₁, heq₂, dateNumber, dateNumber]
  dsimp only
  rcases Nat.lt_or_eq_of_le hyear with hlt | rfl
  · split <;> split <;> omega
  · have hday : n₁ < n₂ := by omega
    have hmonth : (5 * n₁ + 2) / 153 ≤ (5 * n₂ + 2) / 153 := by omega
    have hlast : n₁ - (153 * ((5 * n₁ + 2) / 153) + 2) / 5 ≤ 30 := by omega
    rcases Nat.lt_or_eq_of_le hmonth with hlt | hsame
    · generalize n₁ - (153 * ((5 * n₁ + 2) / 153) + 2) / 5 = day₁ at *
      generalize n₂ - (153 * ((5 * n₂ + 2) / 153) + 2) / 5 = day₂
      split <;> split <;> omega
    · rw [hsame]
      have hfirst : (153 * ((5 * n₂ + 2) / 153) + 2) / 5 ≤ n₁ := by omega
      split <;> omega

/-! ## Seconds -/

/-- A time of the years 0 to 9999. -/
def Time.InYears (t : Time) : Prop :=
  -366 * 86400 * Second ≤ t.nanos ∧ t.nanos < 3652059 * 86400 * Second

instance (t : Time) : Decidable t.InYears := inferInstanceAs (Decidable (_ ∧ _))

/-- The date and the time of day, four centuries before `seconds`. -/
def clockText (seconds : Nat) : List Char :=
  let (year, month, day) := civilDate (seconds / 86400)
  let rest := seconds % 86400
  (padDecimal 4 (year - 400)).toList ++ '-' :: ((padDecimal 2 month).toList ++ '-' ::
    ((padDecimal 2 day).toList ++ 'T' :: ((padDecimal 2 (rest / 3600)).toList ++ ':' ::
      ((padDecimal 2 (rest % 3600 / 60)).toList ++ ':' :: (padDecimal 2 (rest % 60)).toList))))

def Time.clockSeconds (t : Time) : Nat := (t.nanos / Second + fourCenturies).toNat

theorem Time.dropLast_FormatRFC3339 (t : Time) :
    t.FormatRFC3339.toList.dropLast = clockText t.clockSeconds := by
  have htext : t.FormatRFC3339.toList = clockText t.clockSeconds ++ ['Z'] := by
    unfold Time.FormatRFC3339 clockText Time.clockSeconds
    simp [String.toList_append]
  rw [htext, List.dropLast_concat]

theorem field_before {w a b : Nat} (s t : List Char) (hw : 0 < w) (h : a < b) (hb : b < 10 ^ w) :
    Before ((padDecimal w a).toList ++ s) ((padDecimal w b).toList ++ t) :=
  (padDecimal_before hw h hb).append s t

/-- The years that `clockText` can write. -/
theorem year_bounds (days : Nat) (hlow : 146097 - 366 ≤ days) (hhigh : days < 146097 + 3652059) :
    400 ≤ (civilDate days).1 ∧ (civilDate days).1 < 10400 := by
  have hfirst : civilDate (146097 - 366) = (400, 1, 1) := by decide
  have hlast : civilDate (146097 + 3652058) = (10399, 12, 31) := by decide
  have hfields := civilDate_fields days
  constructor
  · by_contra hyear
    rcases Nat.lt_or_eq_of_le hlow with hlt | heq
    · have hnumber := civilDate_lt hlt
      rw [hfirst] at hnumber
      dsimp only [dateNumber] at hnumber
      omega
    · rw [← heq, hfirst] at hyear
      exact hyear le_rfl
  · by_contra hyear
    rcases Nat.lt_or_eq_of_le (Nat.le_of_lt_succ hhigh) with hlt | heq
    · have hnumber := civilDate_lt hlt
      rw [hlast] at hnumber
      dsimp only [dateNumber] at hnumber
      omega
    · rw [heq, hlast] at hyear
      exact hyear (by decide)

theorem clockText_before {s₁ s₂ : Nat} (h : s₁ < s₂) (hlow : (146097 - 366) * 86400 ≤ s₁)
    (hhigh : s₂ < (146097 + 3652059) * 86400) : Before (clockText s₁) (clockText s₂) := by
  have hrest₂ : s₂ % 86400 < 86400 := Nat.mod_lt _ (by decide)
  obtain ⟨hyear₁, -⟩ := year_bounds (s₁ / 86400) (by omega) (by omega)
  obtain ⟨-, hyear₂⟩ := year_bounds (s₂ / 86400) (by omega) (by omega)
  unfold clockText
  dsimp only
  by_cases hday : s₁ / 86400 = s₂ / 86400
  · -- the dates agree, and the time of day decides
    have hrest : s₁ % 86400 < s₂ % 86400 := by omega
    rw [hday]
    refine Before.append_left _ (Before.cons '-' (Before.append_left _
      (Before.cons '-' (Before.append_left _ (Before.cons 'T' ?_)))))
    generalize s₁ % 86400 = r₁ at *
    generalize s₂ % 86400 = r₂ at *
    rcases Nat.lt_or_eq_of_le (show r₁ / 3600 ≤ r₂ / 3600 by omega) with hhour | hhour
    · exact field_before _ _ (by decide) hhour (by omega)
    · rw [hhour]
      refine Before.append_left _ (Before.cons ':' ?_)
      rcases Nat.lt_or_eq_of_le (show r₁ % 3600 / 60 ≤ r₂ % 3600 / 60 by omega) with hminute | hminute
      · exact field_before _ _ (by decide) hminute (by omega)
      · rw [hminute]
        exact Before.append_left _ (Before.cons ':'
          (padDecimal_before (by decide) (by omega) (by omega)))
  · have hdates := civilDate_lt (show s₁ / 86400 < s₂ / 86400 by omega)
    have hfields₁ := civilDate_fields (s₁ / 86400)
    have hfields₂ := civilDate_fields (s₂ / 86400)
    generalize civilDate (s₁ / 86400) = date₁ at *
    generalize civilDate (s₂ / 86400) = date₂ at *
    obtain ⟨y₁, m₁, n₁⟩ := date₁
    obtain ⟨y₂, m₂, n₂⟩ := date₂
    dsimp only [dateNumber] at *
    rcases Nat.lt_or_eq_of_le (show y₁ ≤ y₂ by omega) with hyear | rfl
    · exact field_before _ _ (by decide) (by omega) (by omega)
    · refine Before.append_left _ (Before.cons '-' ?_)
      rcases Nat.lt_or_eq_of_le (show m₁ ≤ m₂ by omega) with hmonth | rfl
      · exact field_before _ _ (by decide) hmonth (by omega)
      · exact Before.append_left _ (Before.cons '-'
          (field_before _ _ (by decide) (by omega) (by omega)))

/-! ## Fractions of a second -/

theorem lastDigits_zero {j n : Nat} (h : n % 10 ^ j = 0) : lastDigits j n = List.replicate j '0' := by
  induction j generalizing n with
  | zero => rfl
  | succ j ih =>
      rw [Nat.pow_succ', Nat.mod_mul] at h
      have hunit : n % 10 = 0 := Nat.eq_zero_of_add_eq_zero_right h
      have htens : n / 10 % 10 ^ j = 0 := by
        have hten := Nat.eq_zero_of_add_eq_zero_left h
        exact (Nat.mul_eq_zero.1 hten).resolve_left (by decide)
      rw [lastDigits, ih htens, hunit, List.replicate_succ']
      rfl

theorem all_zero_lastDigits {j n : Nat} (h : ∀ c ∈ lastDigits j n, (c == '0') = true) :
    n % 10 ^ j = 0 := by
  induction j generalizing n with
  | zero => exact Nat.mod_one n
  | succ j ih =>
      have htens := ih (n := n / 10) fun c hc => h c (List.mem_append_left _ hc)
      have hunit : Nat.digitChar (n % 10) = '0' :=
        beq_iff_eq.1 (h _ (List.mem_append_right _ (List.mem_singleton.2 rfl)))
      have hzero := toNat_digitChar (Nat.mod_lt n (show 10 > 0 by decide))
      rw [hunit] at hzero
      have hmod : n % 10 = 0 := by
        have hchar : ('0' : Char).toNat = 48 := rfl
        omega
      rw [Nat.pow_succ', Nat.mod_mul, hmod, htens]

/-- The zeros at the end of a text go. -/
theorem rdropWhile_append (p : Char → Bool) (l m : List Char) :
    (l ++ m).rdropWhile p = if m.all p then l.rdropWhile p else l ++ m.rdropWhile p := by
  unfold List.rdropWhile
  rw [List.reverse_append, List.dropWhile_append]
  have hempty : (m.reverse.dropWhile p).isEmpty = m.all p := by
    rw [Bool.eq_iff_iff, List.isEmpty_iff, List.dropWhile_eq_nil_iff, List.all_eq_true]
    simp only [List.mem_reverse]
  rw [hempty]
  split
  · rfl
  · rw [List.reverse_append, List.reverse_reverse]

/-- The point and the digits of a fraction, without the zeros at its end. -/
def fractionText (n : Nat) : List Char :=
  let fraction := (padDecimal 9 n).toList.rdropWhile (· == '0')
  if fraction = [] then [] else '.' :: fraction

theorem digitChar_ne_zero {d : Nat} (hd : d < 10) (hpos : 0 < d) : (Nat.digitChar d == '0') = false := by
  rw [beq_eq_false_iff_ne]
  intro heq
  have hcode := toNat_digitChar hd
  have hzero : ('0' : Char).toNat = 48 := rfl
  rw [heq] at hcode
  omega

theorem rdropWhile_head {p : Char → Bool} {c : Char} {l : List Char} (h : (c :: l).all p = false) :
    ∃ l', (c :: l).rdropWhile p = c :: l' := by
  have hne : (c :: l).rdropWhile p ≠ [] := by
    intro hnil
    rw [List.rdropWhile_eq_nil_iff] at hnil
    rw [List.all_eq_true.2 hnil] at h
    cases h
  obtain ⟨rest, hrest⟩ := List.rdropWhile_prefix p (l := c :: l)
  cases hdrop : (c :: l).rdropWhile p with
  | nil => exact absurd hdrop hne
  | cons a l' =>
      rw [hdrop, List.cons_append] at hrest
      exact ⟨l', by rw [(List.cons.inj hrest).1]⟩

section Fraction

variable {a b : Nat}

/-- The earlier fraction is the later one, truncated to a digit. -/
def Truncated (a b : Nat) : Prop := ∃ k ≤ 9, a = b - b % 10 ^ k

/-- What is left of two fractions that differ first at the `j`-th digit from the end. -/
theorem fraction_cut {j : Nat} (hb : b < 10 ^ 9) (hquot : a / 10 ^ (j + 1) = b / 10 ^ (j + 1))
    (hdigit : a / 10 ^ j % 10 < b / 10 ^ j % 10) : ∃ p x y m n,
    lastDigits 9 a = p ++ x :: m ∧ (lastDigits 9 b).rdropWhile (· == '0') = p ++ y :: n ∧
      x.toNat < y.toNat ∧ 48 ≤ x.toNat ∧ y.toNat < 58 ∧
      ((x :: m).all (· == '0') = true ↔ a % 10 ^ (j + 1) = 0) := by
  obtain ⟨p, hpa, hpb⟩ := lastDigits_differ hb hquot hdigit
  have hx := toNat_digitChar (Nat.mod_lt (a / 10 ^ j) (show 10 > 0 by decide))
  have hy := toNat_digitChar (Nat.mod_lt (b / 10 ^ j) (show 10 > 0 by decide))
  have hy10 := Nat.mod_lt (b / 10 ^ j) (show 10 > 0 by decide)
  have hne := digitChar_ne_zero hy10 (by omega)
  have hall : (Nat.digitChar (b / 10 ^ j % 10) :: lastDigits j b).all (· == '0') = false := by
    rw [List.all_cons, hne, Bool.false_and]
  obtain ⟨n, hn⟩ := rdropWhile_head hall
  have hsplit : Nat.digitChar (a / 10 ^ j % 10) :: lastDigits j a = lastDigits (1 + j) a := by
    rw [lastDigits_add]
    rfl
  refine ⟨p, Nat.digitChar (a / 10 ^ j % 10), Nat.digitChar (b / 10 ^ j % 10), lastDigits j a, n, hpa, ?_,
    by omega, by omega, by omega, ?_⟩
  · rw [hpb, rdropWhile_append, hall, hn]
    rfl
  · rw [hsplit, Nat.add_comm 1 j]
    constructor
    · intro h
      exact all_zero_lastDigits (List.all_eq_true.1 h)
    · intro h
      rw [lastDigits_zero h, List.all_eq_true]
      intro c hc
      rw [List.eq_of_mem_replicate hc]
      rfl

theorem truncated_iff {j : Nat} (hb : b < 10 ^ 9)
    (hquot : a / 10 ^ (j + 1) = b / 10 ^ (j + 1)) (hdigit : a / 10 ^ j % 10 < b / 10 ^ j % 10) :
    Truncated a b ↔ a % 10 ^ (j + 1) = 0 := by
  constructor
  · rintro ⟨k, -, hk⟩
    have hb' := Nat.div_add_mod b (10 ^ k)
    have hmul : a = 10 ^ k * (b / 10 ^ k) := by omega
    have hjk : j < k := by
      by_contra hle
      -- the quotients agree at `k`, so at the digit `j` above it
      obtain ⟨i, rfl⟩ := Nat.exists_eq_add_of_le (not_lt.1 hle)
      have hsame : a / 10 ^ k = b / 10 ^ k := by
        rw [hmul, Nat.mul_div_cancel_left _ (Nat.pow_pos (by decide))]
      rw [Nat.pow_add, ← Nat.div_div_eq_div_mul, ← Nat.div_div_eq_div_mul, hsame] at hdigit
      exact lt_irrefl _ hdigit
    have hdvd : 10 ^ (j + 1) ∣ a := by
      rw [hmul]
      exact (Nat.pow_dvd_pow 10 hjk).trans (Nat.dvd_mul_right _ _)
    exact Nat.mod_eq_zero_of_dvd hdvd
  · intro hzero
    refine ⟨j + 1, ?_, ?_⟩
    · by_contra hle
      have hpow : b < 10 ^ j := hb.trans_le (Nat.pow_le_pow_right (by decide) (by omega))
      rw [Nat.div_eq_of_lt hpow] at hdigit
      omega
    · have ha' := Nat.div_add_mod a (10 ^ (j + 1))
      have hb' := Nat.div_add_mod b (10 ^ (j + 1))
      rw [hquot] at ha'
      omega

/-- A later fraction is written below its own truncations, and above every other earlier one. -/
theorem fractionText_before (hab : a < b) (hb : b < 10 ^ 9) (u v : List Char) :
    (Truncated a b → Before (fractionText b ++ 'Z' :: v) (fractionText a ++ 'Z' :: u)) ∧
      (¬ Truncated a b → Before (fractionText a ++ 'Z' :: u) (fractionText b ++ 'Z' :: v)) := by
  obtain ⟨j, hquot, hdigit⟩ := differ_at hab
  obtain ⟨p, x, y, m, n, hpa, hpb, hxy, hx, hy, hzeros⟩ := fraction_cut hb hquot hdigit
  rw [truncated_iff hb hquot hdigit, ← hzeros]
  have hZ : ('Z' : Char).toNat = 90 := rfl
  have hpoint : ('.' : Char).toNat = 46 := rfl
  have hlater : fractionText b = '.' :: (p ++ y :: n) := by
    unfold fractionText
    rw [padDecimal_digits (by decide) hb]
    dsimp only
    rw [hpb, if_neg (by simp)]
  have hearlier : fractionText a = let kept := (p ++ x :: m).rdropWhile (· == '0')
      if kept = [] then [] else '.' :: kept := by
    unfold fractionText
    rw [padDecimal_digits (by decide) (hab.trans hb), hpa]
  rw [hlater, hearlier]
  dsimp only
  rw [rdropWhile_append]
  constructor
  · intro hall
    rw [if_pos hall]
    -- the zeros of the earlier fraction begin within the part that both share
    obtain ⟨dropped, hdropped⟩ := List.rdropWhile_prefix (· == '0') (l := p)
    generalize p.rdropWhile (· == '0') = kept at *
    by_cases hkept : kept = []
    · rw [if_pos hkept]
      exact ⟨[], '.', 'Z', _, _, rfl, rfl, by omega, by omega⟩
    · rw [if_neg hkept, ← hdropped]
      cases dropped with
      | nil =>
          refine ⟨'.' :: kept, y, 'Z', n ++ 'Z' :: v, u, ?_, ?_, by omega, by omega⟩ <;> simp
      | cons d dropped =>
          have hd : d.toNat < 58 := by
            refine mem_lastDigits (w := 9) (n := a) ?_
            rw [hpa, ← hdropped]
            simp
          refine ⟨'.' :: kept, d, 'Z', dropped ++ y :: n ++ 'Z' :: v, u, ?_, ?_, by omega, by omega⟩ <;>
            simp
  · intro hall
    rw [if_neg hall]
    rw [Bool.not_eq_true] at hall
    obtain ⟨m', hm'⟩ := rdropWhile_head hall
    rw [hm', if_neg (by simp)]
    exact ⟨'.' :: p, x, y, m' ++ 'Z' :: u, n ++ 'Z' :: v, by simp, by simp, hxy, by omega⟩

end Fraction

/-! ## Written times -/

/-- `t` is `u` truncated to a digit of its second. -/
def Time.Truncates (t u : Time) : Prop := ∃ k ≤ 9, t.nanos = u.nanos - u.nanos % 10 ^ k

instance (t u : Time) : Decidable (t.Truncates u) :=
  decidable_of_iff (∃ k ∈ List.range 10, t.nanos = u.nanos - u.nanos % 10 ^ k) (by
    simp only [List.mem_range, Nat.lt_succ_iff, Time.Truncates])

def Time.fraction (t : Time) : Nat := (t.nanos % Second).toNat

theorem Time.toList_FormatRFC3339Nano (t : Time) : t.FormatRFC3339Nano.toList =
    clockText t.clockSeconds ++ (fractionText t.fraction ++ ['Z']) := by
  unfold Time.FormatRFC3339Nano
  dsimp only
  rw [String.toList_ofList, Time.dropLast_FormatRFC3339, List.append_assoc]
  rfl

section Times

variable {t u : Time}

theorem Time.fraction_lt (t : Time) : t.fraction < 10 ^ 9 := by
  unfold Time.fraction Second
  omega

/-- A time is its seconds and its fraction. -/
theorem Time.InYears.nanos_eq (h : t.InYears) :
    t.nanos = (t.clockSeconds - fourCenturies) * Second + t.fraction := by
  unfold Time.InYears Second at h
  unfold Time.clockSeconds Time.fraction fourCenturies Second
  omega

theorem Time.InYears.clockSeconds_bounds (h : t.InYears) :
    (146097 - 366) * 86400 ≤ t.clockSeconds ∧ t.clockSeconds < (146097 + 3652059) * 86400 := by
  unfold Time.InYears Second at h
  unfold Time.clockSeconds fourCenturies Second
  omega

theorem Time.truncates_iff (ht : t.InYears) (hu : u.InYears) :
    t.Truncates u ↔ t.clockSeconds = u.clockSeconds ∧ Truncated t.fraction u.fraction := by
  have hnt := ht.nanos_eq
  have hnu := hu.nanos_eq
  have hft := t.fraction_lt
  have hfu := u.fraction_lt
  have hmod : ∀ k ≤ 9, u.nanos % 10 ^ k = ((u.fraction % 10 ^ k : Nat) : Int) := by
    intro k hk
    have hdvd : (10 : Int) ^ k ∣ (u.clockSeconds - fourCenturies) * Second :=
      (pow_dvd_pow 10 hk).trans (Dvd.intro_left _ rfl)
    obtain ⟨c, hc⟩ := hdvd
    rw [hnu, hc, Int.mul_add_emod_self_left]
    push_cast
    rfl
  unfold Second at hnt hnu
  constructor
  · rintro ⟨k, hk, heq⟩
    rw [hmod k hk] at heq
    have hle := Nat.mod_le u.fraction (10 ^ k)
    refine ⟨?_, k, hk, ?_⟩ <;> omega
  · rintro ⟨hseconds, k, hk, heq⟩
    refine ⟨k, hk, ?_⟩
    have hle := Nat.mod_le u.fraction (10 ^ k)
    rw [hmod k hk]
    omega

/-- **The order of `RFC3339Nano`**: a later time is below its own truncations and above every other time
before it, whatever text follows. -/
theorem RFC3339Nano_before (ht : t.InYears) (hu : u.InYears) (h : t.nanos < u.nanos)
    (r s : List Char) :
    (t.Truncates u → Before (u.FormatRFC3339Nano.toList ++ s) (t.FormatRFC3339Nano.toList ++ r)) ∧
      (¬ t.Truncates u →
        Before (t.FormatRFC3339Nano.toList ++ r) (u.FormatRFC3339Nano.toList ++ s)) := by
  have hnt := ht.nanos_eq
  have hnu := hu.nanos_eq
  have hft := t.fraction_lt
  have hfu := u.fraction_lt
  unfold Second at hnt hnu
  rw [Time.truncates_iff ht hu, Time.toList_FormatRFC3339Nano, Time.toList_FormatRFC3339Nano]
  simp only [List.append_assoc, List.singleton_append]
  by_cases hseconds : t.clockSeconds = u.clockSeconds
  · have hfraction := fractionText_before (a := t.fraction) (by omega) hfu r s
    simp only [hseconds, true_and]
    exact ⟨fun htrunc => (hfraction.1 htrunc).append_left _,
      fun htrunc => (hfraction.2 htrunc).append_left _⟩
  · have hclock := clockText_before (show t.clockSeconds < u.clockSeconds by omega)
      ht.clockSeconds_bounds.1 hu.clockSeconds_bounds.2
    exact ⟨fun htrunc => absurd htrunc.1 hseconds, fun _ => hclock.append _ _⟩

/-- With all nine digits the texts are ordered as the times are. -/
theorem nineDigits_before (ht : t.InYears) (hu : u.InYears) (h : t.nanos < u.nanos)
    (r s : List Char) :
    Before (t.FormatRFC3339.toList.dropLast ++ '.' :: ((padDecimal 9 t.fraction).toList ++ r))
      (u.FormatRFC3339.toList.dropLast ++ '.' :: ((padDecimal 9 u.fraction).toList ++ s)) := by
  have hnt := ht.nanos_eq
  have hnu := hu.nanos_eq
  have hft := t.fraction_lt
  have hfu := u.fraction_lt
  unfold Second at hnt hnu
  rw [Time.dropLast_FormatRFC3339, Time.dropLast_FormatRFC3339]
  by_cases hseconds : t.clockSeconds = u.clockSeconds
  · rw [hseconds]
    exact ((field_before _ _ (by decide) (by omega) hfu).cons '.').append_left _
  · exact (clockText_before (by omega) ht.clockSeconds_bounds.1 hu.clockSeconds_bounds.2).append _ _

end Times

end LesserHost.Go
