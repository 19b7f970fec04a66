import LesserHost.Go.Strings

set_option autoImplicit false

/-! # Go times, errors and hashes

A `time.Time` is an instant and a location; the zero time is the instant zero. An error is the
sentinel `errors.Is` finds in it and its text. SHA-256 is a parameter of whatever uses it: nothing
proved about the services depends on which bytes it yields. -/

namespace LesserHost.Go

/-! ## Times -/

inductive Location where
  | utc
  | fixed (name : String) (offsetSeconds : Int)
  deriving DecidableEq

/-- Nanoseconds since the zero time, and where the clock stands. -/
structure Time where
  nanos : Int
  loc : Location
  deriving DecidableEq

def Time.IsZero (t : Time) : Bool := t.nanos == 0

def Time.UTC (t : Time) : Time := { t with loc := .utc }

@[simp] theorem Time.UTC_UTC (t : Time) : t.UTC.UTC = t.UTC := rfl

@[simp] theorem Time.IsZero_UTC (t : Time) : t.UTC.IsZero = t.IsZero := rfl

/-- A time that has been set is moved to UTC. -/
def Time.utcIfSet (t : Time) : Time := if t.IsZero then t else t.UTC

@[simp] theorem Time.utcIfSet_UTC (t : Time) : t.UTC.utcIfSet = t.UTC := by
  unfold utcIfSet
  split_ifs <;> rfl

@[simp] theorem Time.utcIfSet_idem (t : Time) : t.utcIfSet.utcIfSet = t.utcIfSet := by
  by_cases h : t.IsZero = true
  · have ht : t.utcIfSet = t := if_pos h
    rw [ht, ht]
  · have ht : t.utcIfSet = t.UTC := if_neg h
    rw [ht, utcIfSet_UTC]

@[simp] theorem Time.IsZero_utcIfSet (t : Time) : t.utcIfSet.IsZero = t.IsZero := by
  unfold utcIfSet
  split_ifs <;> rfl

def Time.After (t u : Time) : Bool := decide (u.nanos < t.nanos)

/-- `t.Add(d)`, `d` in nanoseconds. -/
def Time.Add (t : Time) (d : Int) : Time := { t with nanos := t.nanos + d }

def Second : Int := 1000000000
def Minute : Int := 60 * Second
def Hour : Int := 60 * Minute

/-- A number in decimal, filled up with zeros. -/
def padDecimal (width : Nat) (n : Nat) : String :=
  let digits := Nat.toDigits 10 n
  String.ofList (List.replicate (width - digits.length) '0' ++ digits)

/-- Year, month and day of the `days`-th day after the first of January of the year 1. -/
def civilDate (days : Nat) : Nat × Nat × Nat :=
  -- counted from the first of March of the year 0, a leap day ends its year
  let z := days + 306
  let era := z / 146097
  let dayOfEra := z % 146097
  let yearOfEra := (dayOfEra - dayOfEra / 1460 + dayOfEra / 36524 - dayOfEra / 146096) / 365
  let dayOfYear := dayOfEra - (365 * yearOfEra + yearOfEra / 4 - yearOfEra / 100)
  let march := (5 * dayOfYear + 2) / 153
  let month := if march < 10 then march + 3 else march - 9
  (yearOfEra + era * 400 + (if month ≤ 2 then 1 else 0), month,
    dayOfYear - (153 * march + 2) / 5 + 1)

/-- The period of the calendar, in seconds. -/
def fourCenturies : Int := 146097 * 86400

/-- `t.UTC().Format(time.RFC3339)`, from the year 0 on. -/
def Time.FormatRFC3339 (t : Time) : String :=
  -- the date four centuries later has the same month and day
  let seconds := (t.nanos / Second + fourCenturies).toNat
  let (year, month, day) := civilDate (seconds / 86400)
  let rest := seconds % 86400
  padDecimal 4 (year - 400) ++ "-" ++ padDecimal 2 month ++ "-" ++ padDecimal 2 day ++ "T"
    ++ padDecimal 2 (rest / 3600) ++ ":" ++ padDecimal 2 (rest % 3600 / 60) ++ ":"
    ++ padDecimal 2 (rest % 60) ++ "Z"

example : civilDate 0 = (1, 1, 1) ∧ civilDate 719162 = (1970, 1, 1) ∧
    civilDate 738944 = (2024, 2, 29) := by decide

/-! ## Errors -/

structure Error (S : Type) where
  sentinel : S
  text : String
  deriving DecidableEq

/-- `fmt.Errorf("%w: detail", e)`. -/
def Error.wrap {S : Type} (e : Error S) (detail : String) : Error S :=
  { e with text := e.text ++ ": " ++ detail }

@[simp] theorem Error.sentinel_wrap {S : Type} (e : Error S) (detail : String) :
    (e.wrap detail).sentinel = e.sentinel := rfl

/-! ## Hashes -/

abbrev Sha256 := List UInt8 → Vector UInt8 32

/-- `[]byte(s)`. -/
def bytes (s : String) : List UInt8 := s.toUTF8.data.toList

def hexDigit (n : Nat) : Char := if n < 10 then Char.ofNat (48 + n) else Char.ofNat (87 + n)

/-- `hex.EncodeToString`. -/
def hexEncode (bs : List UInt8) : List Char :=
  bs.flatMap fun b => [hexDigit (b.toNat / 16), hexDigit (b.toNat % 16)]

/-- The runes between `'0'` and `'9'` or between `'a'` and `'f'`. -/
def isLowerHexChar (c : Char) : Bool :=
  (decide ('0' ≤ c) && decide (c ≤ '9')) || (decide ('a' ≤ c) && decide (c ≤ 'f'))

theorem isLowerHexChar_hexDigit {n : Nat} (h : n < 16) : isLowerHexChar (hexDigit n) = true := by
  have hall : ∀ n : Fin 16, isLowerHexChar (hexDigit n) = true := by decide
  exact hall ⟨n, h⟩

theorem hexEncode_hex (bs : List UInt8) : ∀ c ∈ hexEncode bs, isLowerHexChar c = true := by
  intro c hc
  obtain ⟨b, -, hb⟩ := List.mem_flatMap.1 hc
  have hlt : b.toNat < 256 := b.toNat_lt
  rcases List.mem_cons.1 hb with rfl | hb
  · exact isLowerHexChar_hexDigit (by omega)
  · obtain rfl := List.mem_singleton.1 hb
    exact isLowerHexChar_hexDigit (by omega)

theorem hexEncode_length (bs : List UInt8) : (hexEncode bs).length = 2 * bs.length := by
  induction bs with
  | nil => rfl
  | cons b bs ih =>
      have hcons : hexEncode (b :: bs)
          = [hexDigit (b.toNat / 16), hexDigit (b.toNat % 16)] ++ hexEncode bs := rfl
      rw [hcons, List.length_append, ih, List.length_cons, List.length_cons, List.length_cons,
        List.length_nil]
      omega

theorem hexDigit_injective {m n : Nat} (hm : m < 16) (hn : n < 16) (h : hexDigit m = hexDigit n) :
    m = n := by
  have hall : ∀ m n : Fin 16, hexDigit m = hexDigit n → m = n := by decide
  exact congrArg Fin.val (hall ⟨m, hm⟩ ⟨n, hn⟩ h)

theorem hexEncode_injective : Function.Injective hexEncode := by
  intro bs
  induction bs with
  | nil =>
      intro cs h
      cases cs with
      | nil => rfl
      | cons c cs => cases h
  | cons b bs ih =>
      intro cs h
      cases cs with
      | nil => cases h
      | cons c cs =>
          have hcons : ∀ (d : UInt8) (ds : List UInt8), hexEncode (d :: ds)
              = hexDigit (d.toNat / 16) :: hexDigit (d.toNat % 16) :: hexEncode ds := fun _ _ => rfl
          rw [hcons, hcons] at h
          obtain ⟨hhigh, h⟩ := List.cons.inj h
          obtain ⟨hlow, h⟩ := List.cons.inj h
          have hb : b.toNat < 256 := b.toNat_lt
          have hc : c.toNat < 256 := c.toNat_lt
          have hdiv := hexDigit_injective (by omega) (by omega) hhigh
          have hmod := hexDigit_injective (by omega) (by omega) hlow
          have hbyte : b = c := UInt8.toNat_inj.1 (by omega)
          rw [hbyte, ih h]

/-- A hexadecimal digit takes one byte. -/
theorem utf8Size_of_hex {c : Char} (h : isLowerHexChar c = true) : c.utf8Size = 1 := by
  simp only [isLowerHexChar, Bool.or_eq_true, Bool.and_eq_true, decide_eq_true_eq] at h
  have hle : c.val ≤ 127 := by
    rcases h with h | h
    · exact UInt32.le_trans (show c.val ≤ ('9' : Char).val from h.2) (by decide)
    · exact UInt32.le_trans (show c.val ≤ ('f' : Char).val from h.2) (by decide)
  exact Char.utf8Size_eq_one_iff.2 hle

theorem sum_utf8Size_of_hex {l : List Char} (h : ∀ c ∈ l, isLowerHexChar c = true) :
    (l.map Char.utf8Size).sum = l.length := by
  induction l with
  | nil => rfl
  | cons c l ih =>
      rw [List.map_cons, List.sum_cons, utf8Size_of_hex (h c List.mem_cons_self),
        ih (fun d hd => h d (List.mem_cons_of_mem _ hd)), List.length_cons, Nat.add_comm]

/-- A hexadecimal digit is no white space. -/
theorem isSpace_of_hex {c : Char} (h : isLowerHexChar c = true) : isSpace c = false := by
  rw [isSpace, ← Bool.not_eq_true, List.contains_iff_mem]
  intro hmem
  have hall : ∀ n ∈ whiteSpace, isLowerHexChar (Char.ofNat n) = false := by decide
  have hc := hall _ hmem
  rw [Char.ofNat_toNat, h] at hc
  cases hc

theorem TrimSpace_hex {l : List Char} (h : ∀ c ∈ l, isLowerHexChar c = true) :
    TrimSpace (String.ofList l) = String.ofList l := by
  refine IsTrimmed.TrimSpace_eq ?_
  rw [IsTrimmed, String.toList_ofList]
  exact Trimmed.of_forall fun c hc => isSpace_of_hex (h c hc)

/-- The hexadecimal digits have no lower case of their own. -/
theorem toLowerChar_of_hex {c : Char} (h : isLowerHexChar c = true) : toLowerChar c = c := by
  have hcodes : ∀ n ∈ List.range' 48 10 ++ List.range' 97 6, lowerCode n = n := by decide
  have hmem : c.toNat ∈ List.range' 48 10 ++ List.range' 97 6 := by
    simp only [isLowerHexChar, Bool.or_eq_true, Bool.and_eq_true, decide_eq_true_eq] at h
    rw [List.mem_append, List.mem_range'_1, List.mem_range'_1]
    rcases h with ⟨hlow, hhigh⟩ | ⟨hlow, hhigh⟩
    · have hlow' : 48 ≤ c.toNat := hlow
      have hhigh' : c.toNat ≤ 57 := hhigh
      exact Or.inl (by omega)
    · have hlow' : 97 ≤ c.toNat := hlow
      have hhigh' : c.toNat ≤ 102 := hhigh
      exact Or.inr (by omega)
  rw [toLowerChar, hcodes _ hmem, Char.ofNat_toNat]

theorem ToLower_hex {l : List Char} (h : ∀ c ∈ l, isLowerHexChar c = true) :
    ToLower (String.ofList l) = String.ofList l := by
  rw [ToLower, String.toList_ofList, List.map_congr_left fun c hc => toLowerChar_of_hex (h c hc),
    List.map_id']

end LesserHost.Go
