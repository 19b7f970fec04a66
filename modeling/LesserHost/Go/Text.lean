import LesserHost.Go.Basic

set_option autoImplicit false

/-! # Text and timestamps

More of Go's `strings`, `utf8` and `time`: the functions that validate declarations read text with.
`EqualFold` compares under simple case folding: the lower-case mapping, and the code points that fold
to a letter without being mapped to it. `ParseRFC3339` accepts what `time.Parse` accepts for
`time.RFC3339`, which includes an hour of one digit and any fraction of a second. -/

namespace LesserHost.Go

/-! ## Integers -/

/-- The value of a signed integer of 64 bits after overflow. -/
def int64 (n : Int) : Int := (n + 2 ^ 63) % 2 ^ 64 - 2 ^ 63

theorem int64_eq {n : Int} (h₀ : -2 ^ 63 ≤ n) (h₁ : n < 2 ^ 63) : int64 n = n := by
  unfold int64
  omega

/-- Counting up gives the next number, or a negative one. -/
theorem int64_succ {n : Int} (h : 0 ≤ n) (hpos : 0 ≤ int64 (n + 1)) (hn : n < 2 ^ 63) :
    int64 (n + 1) = n + 1 := by
  unfold int64 at *
  omega

/-! ## Strings -/

/-- `utf8.RuneCountInString`. -/
def RuneCountInString (s : String) : Nat := s.toList.length

/-- `strings.Fields`. -/
def Fields (s : String) : List String :=
  ((s.toList.splitOnP isSpace).filter fun w => !w.isEmpty).map String.ofList

/-- `strings.Trim`. -/
def Trim (s cutset : String) : String := String.ofList (trimFunc cutset.toList.contains s.toList)

/-- `strings.ContainsAny`. -/
def ContainsAny (s chars : String) : Bool := s.toList.any chars.toList.contains

/-- `strings.HasSuffix`. -/
def HasSuffix (s suffix : String) : Bool := suffix.toList.isSuffixOf s.toList

/-- `strings.Join`. -/
def Join (elems : List String) (sep : String) : String := sep.intercalate elems

/-- `strconv.Quote`, where every character beyond ASCII counts as printable. -/
def quoteChar (c : Char) : List Char :=
  if c = '"' ∨ c = '\\' then ['\\', c]
  else match [7, 8, 12, 10, 13, 9, 11].idxOf? c.toNat with
  | some i => ['\\', ['a', 'b', 'f', 'n', 'r', 't', 'v'].getD i 'a']
  | none =>
      if c.toNat < 32 ∨ c.toNat = 127 then
        '\\' :: 'x' :: [hexDigit (c.toNat / 16), hexDigit (c.toNat % 16)]
      else [c]

def Quote (s : String) : String := String.ofList ('"' :: s.toList.flatMap quoteChar ++ ['"'])

example : Quote "a\"\n" = "\"a\\\"\\n\"" := by decide

/-- `strings.ReplaceAll` of a word that is not empty, found from the left, `skip` characters of the one
    found last still to be left out. -/
def replaceFrom (old new : List Char) : Nat → List Char → List Char
  | _, [] => []
  | skip + 1, _ :: s => replaceFrom old new skip s
  | 0, c :: s =>
      if old.isPrefixOf (c :: s) then new ++ replaceFrom old new (old.length - 1) s
      else c :: replaceFrom old new 0 s

def ReplaceAll (s old new : String) : String :=
  String.ofList (replaceFrom old.toList new.toList 0 s.toList)

/-- The first `n` bytes. What is left of a character that is cut in two is no UTF-8, each of its bytes
    is kept as the replacement character. -/
def sliceChars : Nat → List Char → List Char
  | _, [] => []
  | n, c :: s =>
      if c.utf8Size ≤ n then c :: sliceChars (n - c.utf8Size) s else List.replicate n '\uFFFD'

/-- `s[:n]` of a longer string, else `s`. -/
def sliceTo (s : String) (n : Nat) : String := String.ofList (sliceChars n s.toList)

example : ReplaceAll "a\x7bslug\x7db\x7bslug\x7d" "\x7bslug\x7d" "x" = "axbx" ∧ sliceTo "aäb" 2 = "a\uFFFD" := by
  decide

/-- The code points whose folding is not their lower case. -/
def foldExceptions : List (Nat × Nat) :=
  [(0xb5, 0x3bc), (0x130, 0x130), (0x17f, 0x73), (0x345, 0x3b9), (0x3c2, 0x3c3), (0x3d0, 0x3b2),
    (0x3d1, 0x3b8), (0x3d5, 0x3c6), (0x3d6, 0x3c0), (0x3f0, 0x3ba), (0x3f1, 0x3c1), (0x3f5, 0x3b5),
    (0x1c80, 0x432), (0x1c81, 0x434), (0x1c82, 0x43e), (0x1c83, 0x441), (0x1c84, 0x442),
    (0x1c85, 0x442), (0x1c86, 0x44a), (0x1c87, 0x463), (0x1c88, 0xa64b), (0x1e9b, 0x1e61),
    (0x1fbe, 0x3b9), (0x1fd3, 0x390), (0x1fe3, 0x3b0), (0xfb05, 0xfb06)]

def foldCode (n : Nat) : Nat := (foldExceptions.lookup n).getD (lowerCode n)

/-- `strings.EqualFold`. -/
def EqualFold (s t : String) : Bool :=
  s.toList.map (fun c => foldCode c.toNat) == t.toList.map fun c => foldCode c.toNat

theorem EqualFold_self (s : String) : EqualFold s s = true := beq_self_eq_true _

/-! ## Timestamps -/

def isLeap (year : Nat) : Bool := year % 4 == 0 && (year % 100 != 0 || year % 400 == 0)

def daysIn (month year : Nat) : Nat :=
  if month == 2 then if isLeap year then 29 else 28
  else if month == 4 || month == 6 || month == 9 || month == 11 then 30
  else 31

def digit (c : Char) : Nat := c.toNat - 48

/-- One or two digits; two if `fixed`. -/
def getnum (fixed : Bool) : List Char → Option (Nat × List Char)
  | [] => none
  | c :: rest =>
      if c.isDigit = false then none
      else match rest with
        | [] => if fixed then none else some (digit c, [])
        | d :: rest' =>
            if d.isDigit then some (10 * digit c + digit d, rest')
            else if fixed then none else some (digit c, rest)

/-- Four digits. -/
def getyear : List Char → Option (Nat × List Char)
  | a :: b :: c :: d :: rest =>
      if a.isDigit && b.isDigit && c.isDigit && d.isDigit then
        some (1000 * digit a + 100 * digit b + 10 * digit c + digit d, rest)
      else none
  | _ => none

def skip (c : Char) : List Char → Option (List Char)
  | d :: rest => if d = c then some rest else none
  | [] => none

/-- A fraction of a second: a period or a comma and digits, or nothing. -/
def skipFraction : List Char → List Char
  | c :: d :: rest =>
      if (c == '.' || c == ',') && d.isDigit then rest.dropWhile Char.isDigit else c :: d :: rest
  | s => s

/-- The offset `Z` or `±hh:mm`; offsets of 24 hours and of 60 minutes are let through. -/
def skipZone : List Char → Option (List Char)
  | 'Z' :: rest => some rest
  | sign :: h₁ :: h₂ :: ':' :: m₁ :: m₂ :: rest => do
      let (hours, _) ← getnum true [h₁, h₂]
      let (minutes, _) ← getnum true [m₁, m₂]
      if hours ≤ 24 ∧ minutes ≤ 60 ∧ (sign = '+' ∨ sign = '-') then some rest else none
  | _ => none

/-- `time.Parse(time.RFC3339, s)`: does it succeed? -/
def ParseRFC3339 (s : String) : Bool :=
  let parsed : Option Unit := do
    let (year, s) ← getyear s.toList
    let (month, s) ← getnum true (← skip '-' s)
    let (day, s) ← getnum true (← skip '-' s)
    let (hour, s) ← getnum false (← skip 'T' s)
    let (minute, s) ← getnum true (← skip ':' s)
    let (second, s) ← getnum true (← skip ':' s)
    let s ← skipZone (skipFraction s)
    if s = [] ∧ 1 ≤ month ∧ month ≤ 12 ∧ 1 ≤ day ∧ day ≤ daysIn month year ∧ hour < 24 ∧
        minute < 60 ∧ second < 60 then
      some ()
    else none
  parsed.isSome

example : ParseRFC3339 "2024-02-29T7:59:00,25+24:00" = true ∧
    ParseRFC3339 "2023-02-29T07:59:00Z" = false := by decide

/-- The days from the first of January of the year 1 to a date. -/
def daysBefore (year month day : Nat) : Int :=
  let y := (year : Int) - 1
  365 * y + y / 4 - y / 100 + y / 400 + ((List.range (month - 1)).map fun m => (daysIn (m + 1) year : Int)).sum
    + day - 1

/-- The nanoseconds of a fraction of a second, of which nine digits count. -/
def fractionNanos : List Char → Int
  | c :: d :: rest =>
      if (c == '.' || c == ',') && d.isDigit then
        ((d :: rest).takeWhile Char.isDigit ++ List.replicate 9 '0').take 9 |>.foldl
          (fun n c => 10 * n + digit c) 0
      else 0
  | _ => 0

/-- The offset in seconds. -/
def zoneSeconds : List Char → Int
  | sign :: h₁ :: h₂ :: ':' :: m₁ :: m₂ :: _ =>
      let seconds : Int := 3600 * (10 * digit h₁ + digit h₂) + 60 * (10 * digit m₁ + digit m₂)
      if sign = '-' then -seconds else seconds
  | _ => 0

/-- `time.Parse(time.RFC3339, s)`, in UTC. -/
def ParseTime (s : String) : Option Time :=
  if ParseRFC3339 s = false then none
  else do
    let (year, s) ← getyear s.toList
    let (month, s) ← getnum true (← skip '-' s)
    let (day, s) ← getnum true (← skip '-' s)
    let (hour, s) ← getnum false (← skip 'T' s)
    let (minute, s) ← getnum true (← skip ':' s)
    let (second, s) ← getnum true (← skip ':' s)
    let seconds : Int := 86400 * daysBefore year month day + 3600 * hour + 60 * minute + second
    return ⟨(seconds - zoneSeconds (skipFraction s)) * Second + fractionNanos s, .utc⟩

example : ParseTime "2024-02-29T01:00:00.25+01:00" = some ⟨(738944 * 86400 * Second) + 250000000, .utc⟩ := by
  decide

/-- `t.Unix()`: the seconds since 1970. -/
def Time.Unix (t : Time) : Int := (t.nanos - 62135596800 * Second) / Second

/-- `t.Truncate(time.Millisecond)`. -/
def Time.TruncateMillisecond (t : Time) : Time := { t with nanos := t.nanos - t.nanos % 1000000 }

/-- `t.Format("2006-01-02T15:04:05.000Z")` of a time in UTC. -/
def Time.FormatMillis (t : Time) : String :=
  String.ofList (t.FormatRFC3339.toList.dropLast
    ++ '.' :: (padDecimal 3 (t.nanos % Second / 1000000).toNat).toList ++ ['Z'])

example : Time.FormatMillis ⟨1020000000, .utc⟩ = "0001-01-01T00:00:01.020Z" := by decide

def Time.Before (t u : Time) : Bool := decide (t.nanos < u.nanos)

/-- `t.Sub(u)`, in nanoseconds, within the bounds of a duration. -/
def Time.Sub (t u : Time) : Int := max (-2 ^ 63) (min (2 ^ 63 - 1) (t.nanos - u.nanos))

theorem padDecimal_head (width n : Nat) :
    ∃ c rest, (padDecimal width n).toList = c :: rest ∧ isSpace c = false := by
  have hdigits : ∀ c ∈ (padDecimal width n).toList, isSpace c = false := by
    intro c hc
    rw [padDecimal, String.toList_ofList, List.mem_append] at hc
    rcases hc with hc | hc
    · rw [List.eq_of_mem_replicate hc]
      decide
    · have hdigit := Nat.isDigit_of_mem_toDigits (by decide) (by decide) hc
      refine isSpace_of_hex ?_
      simp only [Char.isDigit, ge_iff_le, Bool.and_eq_true, decide_eq_true_eq] at hdigit
      simp only [isLowerHexChar, Bool.or_eq_true, Bool.and_eq_true, decide_eq_true_eq]
      exact Or.inl hdigit
  cases h : (padDecimal width n).toList with
  | nil =>
      rw [padDecimal, String.toList_ofList, List.append_eq_nil_iff] at h
      exact absurd h.2 Nat.toDigits_ne_nil
  | cons c rest =>
      rw [h] at hdigits
      exact ⟨c, rest, rfl, hdigits c List.mem_cons_self⟩

/-- `t.UTC().Format(time.RFC3339Nano)`: the fraction of the second without the zeros at its end. -/
def Time.FormatRFC3339Nano (t : Time) : String :=
  let fraction := (padDecimal 9 (t.nanos % Second).toNat).toList.rdropWhile (· == '0')
  String.ofList (t.FormatRFC3339.toList.dropLast
    ++ (if fraction = [] then [] else '.' :: fraction) ++ ['Z'])

example : Time.FormatRFC3339Nano ⟨1020000000, .utc⟩ = "0001-01-01T00:00:01.02Z" := by decide

end LesserHost.Go
