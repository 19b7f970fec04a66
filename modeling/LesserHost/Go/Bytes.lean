import LesserHost.Go.Basic

set_option autoImplicit false

/-! # Byte strings

Text that is searched, counted or hashed byte by byte is a list of bytes, which need not be valid
UTF-8. `Bytes.Index` and `Bytes.LastIndex` are `strings.Index` and `strings.LastIndex`,
`Bytes.RuneCount` is `utf8.RuneCountInString`, and `Atoi` and `Itoa` are decimal numbers of 64 bits.

The lemmas say when a marker is found at the place where it was written: no earlier line starts like
it, or its first byte occurs nowhere after it. -/

namespace LesserHost.Go

abbrev Bytes := List UInt8

/-! ## The bytes of a string -/

theorem bytes_eq (s : String) : bytes s = s.toList.flatMap String.utf8EncodeChar := by
  have h : bytes s = s.toByteArray.data.toList := rfl
  rw [h]
  conv_lhs => rw [← String.ofList_toList (s := s)]
  rw [String.toByteArray_ofList, List.utf8Encode, List.toList_data_toByteArray]

@[simp] theorem bytes_append (s t : String) : bytes (s ++ t) = bytes s ++ bytes t := by
  rw [bytes_eq, bytes_eq, bytes_eq, String.toList_append, List.flatMap_append]

theorem bytes_injective : Function.Injective bytes := by
  intro s t h
  have hdata : s.toByteArray.data.toList = t.toByteArray.data.toList := h
  exact String.toByteArray_inj.1 (ByteArray.ext (Array.toList_inj.1 hdata))

theorem length_bytes (s : String) : (bytes s).length = (s.toList.map Char.utf8Size).sum := by
  rw [bytes_eq]
  induction s.toList with
  | nil => rfl
  | cons c l ih =>
      rw [List.flatMap_cons, List.length_append, String.length_utf8EncodeChar, ih, List.map_cons,
        List.sum_cons]

/-- A character takes at least one byte. -/
theorem length_toList_le (s : String) : s.toList.length ≤ (bytes s).length := by
  rw [length_bytes]
  induction s.toList with
  | nil => exact Nat.le_refl _
  | cons c l ih =>
      have hc := Char.utf8Size_pos c
      rw [List.map_cons, List.sum_cons, List.length_cons]
      omega

@[simp] theorem bytes_eq_nil {s : String} : bytes s = [] ↔ s = "" := by
  have hnil : bytes "" = [] := rfl
  exact ⟨fun h => bytes_injective (h.trans hnil.symm), fun h => h ▸ hnil⟩

/-- A byte below 128 encodes the character with that code point. -/
theorem mem_bytes_ascii {s : String} {b : UInt8} (h : b ∈ bytes s) (hb : b.toNat < 128) :
    ∃ c ∈ s.toList, c.toNat = b.toNat := by
  rw [bytes_eq] at h
  obtain ⟨c, hc, hbc⟩ := List.mem_flatMap.1 h
  refine ⟨c, hc, ?_⟩
  have hval : c.toNat = c.val.toNat := rfl
  unfold String.utf8EncodeChar at hbc
  dsimp only at hbc
  split at hbc
  · obtain rfl := List.mem_singleton.1 hbc
    simp only [UInt8.toNat_ofNat']
    omega
  · -- every byte of a longer encoding has its first bit set
    split at hbc
    · simp only [List.mem_cons, List.not_mem_nil, or_false] at hbc
      rcases hbc with rfl | rfl <;> simp only [UInt8.toNat_ofNat'] at hb <;> omega
    · split at hbc
      · simp only [List.mem_cons, List.not_mem_nil, or_false] at hbc
        rcases hbc with rfl | rfl | rfl <;> simp only [UInt8.toNat_ofNat'] at hb <;> omega
      · simp only [List.mem_cons, List.not_mem_nil, or_false] at hbc
        rcases hbc with rfl | rfl | rfl | rfl <;> simp only [UInt8.toNat_ofNat'] at hb <;> omega

/-! ## Searching -/

namespace Bytes

/-- `strings.HasPrefix`. -/
def HasPrefix (s pre : Bytes) : Bool := pre.isPrefixOf s

/-- `strings.Index`: where `sep` occurs first. -/
def Index (sep : Bytes) : Bytes → Option Nat
  | [] => if sep = [] then some 0 else none
  | b :: s => if HasPrefix (b :: s) sep then some 0 else (Index sep s).map (· + 1)

/-- `strings.LastIndex`: where `sep` occurs last. -/
def LastIndex (sep : Bytes) : Bytes → Option Nat
  | [] => if sep = [] then some 0 else none
  | b :: s =>
      match LastIndex sep s with
      | some i => some (i + 1)
      | none => if HasPrefix (b :: s) sep then some 0 else none

/-- `a` is never directly followed by `b`. -/
def Apart (a b : UInt8) : Bytes → Prop
  | [] => True
  | c :: s => ¬ (c = a ∧ s.head? = some b) ∧ Apart a b s

instance (a b : UInt8) : (s : Bytes) → Decidable (Apart a b s)
  | [] => .isTrue trivial
  | _ :: s => have := instDecidableApart a b s; inferInstanceAs (Decidable (_ ∧ _))

variable {a b : UInt8} {s t rest : Bytes}

theorem Apart.append (hs : Apart a b s) (ht : Apart a b t)
    (hjoin : s.getLast? = some a → t.head? ≠ some b) : Apart a b (s ++ t) := by
  induction s with
  | nil => exact ht
  | cons c s ih =>
      cases s with
      | nil =>
          refine ⟨fun h => hjoin ?_ h.2, ht⟩
          rw [← h.1]
          rfl
      | cons d s =>
          refine ⟨hs.1, ih hs.2 fun hlast => hjoin ?_⟩
          rwa [List.getLast?_cons_cons]

theorem Apart.of_not_mem (h : a ∉ s) : Apart a b s := by
  induction s with
  | nil => trivial
  | cons c s ih =>
      rw [List.mem_cons, not_or] at h
      exact ⟨fun hc => h.1 hc.1.symm, ih h.2⟩

/-- A marker that begins with `a` and `b` is found where it was written, if `b` follows `a` nowhere
    in front of it. -/
theorem Index_append {sep : Bytes} (hab : a ≠ b) (hs : Apart a b s) :
    Index (a :: b :: sep) (s ++ (a :: b :: sep ++ rest)) = some s.length := by
  induction s with
  | nil =>
      have hpre : HasPrefix (a :: b :: sep ++ rest) (a :: b :: sep) = true :=
        List.isPrefixOf_iff_prefix.2 (List.prefix_append _ _)
      rw [List.nil_append, List.cons_append] at *
      rw [Index, if_pos hpre]
      rfl
  | cons c s ih =>
      have hnot : HasPrefix (c :: s ++ (a :: b :: sep ++ rest)) (a :: b :: sep) ≠ true := by
        intro hpre
        obtain ⟨u, hu⟩ := List.isPrefixOf_iff_prefix.1 hpre
        obtain ⟨hc, hu⟩ := List.cons.inj hu
        -- the byte after `c` is the next one of `s`, or the `a` of the marker itself
        have hhead : (s ++ (a :: b :: sep ++ rest)).head? = some b :=
          congrArg List.head? hu.symm
        cases s with
        | nil => exact hab (Option.some.inj hhead)
        | cons d s => exact hs.1 ⟨hc.symm, hhead⟩
      rw [List.cons_append] at hnot ⊢
      rw [Index, if_neg hnot, ih hs.2]
      rfl

theorem LastIndex_none {sep : Bytes} (h : a ∉ s) : LastIndex (a :: sep) s = none := by
  induction s with
  | nil => rfl
  | cons c s ih =>
      rw [List.mem_cons, not_or] at h
      have hnot : HasPrefix (c :: s) (a :: sep) ≠ true := by
        intro hpre
        obtain ⟨u, hu⟩ := List.isPrefixOf_iff_prefix.1 hpre
        exact h.1 (List.cons.inj hu).1
      rw [LastIndex, ih h.2]
      exact if_neg hnot

/-- A marker whose first byte does not come back is found where it was written last. -/
theorem LastIndex_append {sep : Bytes} (hsep : a ∉ sep) (hrest : a ∉ rest) :
    LastIndex (a :: sep) (s ++ (a :: sep ++ rest)) = some s.length := by
  induction s with
  | nil =>
      have hpre : HasPrefix (a :: sep ++ rest) (a :: sep) = true :=
        List.isPrefixOf_iff_prefix.2 (List.prefix_append _ _)
      have hnone : LastIndex (a :: sep) (sep ++ rest) = none :=
        LastIndex_none fun h => (List.mem_append.1 h).elim hsep hrest
      rw [List.nil_append, List.cons_append] at *
      rw [LastIndex, hnone]
      exact if_pos hpre
  | cons c s ih =>
      rw [List.cons_append, LastIndex, ih]
      rfl

/-! ## Runes -/

/-- The bytes between `0x80` and `0xbf`. -/
def isContinuation (b : UInt8) : Bool := 0x80 ≤ b && b ≤ 0xbf

/-- How many bytes the first rune takes; a byte that starts no valid encoding is a rune of its own. -/
def runeWidth : Bytes → Nat
  | b0 :: b1 :: rest =>
      if 0xc2 ≤ b0 && b0 ≤ 0xdf then if isContinuation b1 then 2 else 1
      else if 0xe0 ≤ b0 && b0 ≤ 0xef then
        -- neither an encoding that is too long nor a surrogate
        let second := isContinuation b1 && !(b0 == 0xe0 && b1 < 0xa0) && !(b0 == 0xed && 0xa0 ≤ b1)
        if second && (rest.take 1).any isContinuation then 3 else 1
      else if 0xf0 ≤ b0 && b0 ≤ 0xf4 then
        let second := isContinuation b1 && !(b0 == 0xf0 && b1 < 0x90) && !(b0 == 0xf4 && 0x90 ≤ b1)
        if second && (rest.take 1).any isContinuation && ((rest.drop 1).take 1).any isContinuation then
          4
        else 1
      else 1
  | _ => 1

/-- Count the runes, `skip` bytes of the current one still to go. -/
def runeCountFrom : Nat → Bytes → Nat
  | _, [] => 0
  | skip + 1, _ :: s => runeCountFrom skip s
  | 0, b :: s => 1 + runeCountFrom (runeWidth (b :: s) - 1) s

/-- `utf8.RuneCountInString`. -/
def RuneCount (s : Bytes) : Nat := runeCountFrom 0 s

theorem runeCountFrom_le (skip : Nat) (s : Bytes) : runeCountFrom skip s ≤ s.length := by
  induction s generalizing skip with
  | nil => simp [runeCountFrom]
  | cons b s ih =>
      cases skip with
      | zero =>
          have h := ih (runeWidth (b :: s) - 1)
          rw [runeCountFrom, List.length_cons]
          omega
      | succ skip => exact (ih skip).trans (Nat.le_succ _)

theorem RuneCount_le (s : Bytes) : RuneCount s ≤ s.length := runeCountFrom_le 0 s

theorem runeWidth_le (s : Bytes) : runeWidth s ≤ 4 := by
  unfold runeWidth
  split
  · dsimp only
    split_ifs <;> decide
  · decide

/-- A rune takes at most four bytes. -/
theorem length_le_runeCountFrom (skip : Nat) (s : Bytes) :
    s.length ≤ skip + 4 * runeCountFrom skip s := by
  induction s generalizing skip with
  | nil => exact Nat.zero_le _
  | cons b s ih =>
      cases skip with
      | zero =>
          have h := ih (runeWidth (b :: s) - 1)
          have hwidth := runeWidth_le (b :: s)
          rw [runeCountFrom, List.length_cons]
          omega
      | succ skip =>
          have h := ih skip
          rw [runeCountFrom, List.length_cons]
          omega

theorem length_le_RuneCount (s : Bytes) : s.length ≤ 4 * RuneCount s :=
  (length_le_runeCountFrom 0 s).trans (Nat.zero_add _).le

example : RuneCount [0x61, 0xc3, 0xa9, 0xff, 0xe2, 0x80] = 5 := by decide

end Bytes

/-! ## Decimal numbers -/

/-- `fmt.Sprintf("%d", n)`. -/
def Itoa (n : Int) : String :=
  if n < 0 then "-" ++ String.ofList (Nat.toDigits 10 n.natAbs)
  else String.ofList (Nat.toDigits 10 n.natAbs)

def isDigit (b : UInt8) : Bool := 0x30 ≤ b && b ≤ 0x39

/-- The value of a digit string, most significant digit first. -/
def digitsValue (s : Bytes) : Nat := s.foldl (fun n b => 10 * n + (b.toNat - 0x30)) 0

/-- A non-empty string of digits. -/
def parseDigits (s : Bytes) : Option Nat :=
  if s ≠ [] ∧ s.all isDigit = true then some (digitsValue s) else none

/-- `strconv.Atoi`: an optional sign and digits, in the range of 64 bits. -/
def Atoi (s : Bytes) : Option Int :=
  let value :=
    if s.head? = some 0x2d then (parseDigits (s.drop 1)).map fun n => -(n : Int)
    else if s.head? = some 0x2b then (parseDigits (s.drop 1)).map Int.ofNat
    else (parseDigits s).map Int.ofNat
  value.filter fun n => decide (-2 ^ 63 ≤ n) && decide (n < 2 ^ 63)

theorem bytes_ofList (l : List Char) :
    bytes (String.ofList l) = l.flatMap String.utf8EncodeChar := by
  rw [bytes_eq, String.toList_ofList]

theorem utf8EncodeChar_ascii {c : Char} (h : c.toNat < 128) :
    String.utf8EncodeChar c = [UInt8.ofNat c.toNat] := by
  have hval : c.val.toNat < 128 := h
  unfold String.utf8EncodeChar
  dsimp only
  rw [if_pos (by omega)]
  rfl

theorem toNat_ascii {c : Char} (h : c.toNat < 128) : (UInt8.ofNat c.toNat).toNat = c.toNat := by
  simp only [UInt8.toNat_ofNat']
  omega

theorem Char.isDigit_bounds {c : Char} (h : c.isDigit = true) : 48 ≤ c.toNat ∧ c.toNat ≤ 57 := by
  simp only [Char.isDigit, Bool.and_eq_true, decide_eq_true_eq] at h
  exact ⟨h.1, h.2⟩

theorem Char.isDigit_ascii {c : Char} (h : c.isDigit = true) : c.toNat < 128 := by
  have hc := Char.isDigit_bounds h
  omega

/-- The text that ASCII bytes stand for. -/
def asciiText (s : Bytes) : String := String.ofList (s.map fun b => Char.ofNat b.toNat)

theorem asciiText_bytes {s : String} (h : ∀ c ∈ s.toList, c.toNat < 128) : asciiText (bytes s) = s := by
  have hlist : ∀ l : List Char, (∀ c ∈ l, c.toNat < 128) →
      (l.flatMap String.utf8EncodeChar).map (fun b => Char.ofNat b.toNat) = l := by
    intro l hl
    induction l with
    | nil => rfl
    | cons c l ih =>
        have hc := hl c List.mem_cons_self
        rw [List.flatMap_cons, utf8EncodeChar_ascii hc, List.map_append,
          ih fun d hd => hl d (List.mem_cons_of_mem _ hd), List.map_singleton, toNat_ascii hc,
          Char.ofNat_toNat]
        rfl
  rw [asciiText, bytes_eq, hlist _ h, String.ofList_toList]

theorem toNat_asciiChar {n : Nat} (h : n < 128) : (Char.ofNat n).toNat = n := by
  have hall : ∀ n : Fin 128, (Char.ofNat n).toNat = n.val := by decide
  exact hall ⟨n, h⟩

theorem bytes_asciiText {s : Bytes} (h : ∀ b ∈ s, b.toNat < 128) : bytes (asciiText s) = s := by
  rw [asciiText, bytes_ofList]
  induction s with
  | nil => rfl
  | cons b s ih =>
      have hcode := toNat_asciiChar (h b List.mem_cons_self)
      have hb : String.utf8EncodeChar (Char.ofNat b.toNat) = [b] := by
        rw [utf8EncodeChar_ascii (by rw [hcode]; exact h b List.mem_cons_self), hcode, UInt8.ofNat_toNat]
      rw [List.map_cons, List.flatMap_cons, hb, ih fun d hd => h d (List.mem_cons_of_mem _ hd)]
      rfl

/-- The digits of a number, as bytes. -/
theorem bytes_toDigits (n : Nat) : bytes (String.ofList (Nat.toDigits 10 n))
    = (Nat.toDigits 10 n).map fun c => UInt8.ofNat c.toNat := by
  rw [bytes_ofList]
  have h : ∀ c ∈ Nat.toDigits 10 n, c.isDigit = true :=
    fun c hc => Nat.isDigit_of_mem_toDigits (by decide) (by decide) hc
  generalize Nat.toDigits 10 n = l at h
  induction l with
  | nil => rfl
  | cons c l ih =>
      rw [List.flatMap_cons, utf8EncodeChar_ascii (Char.isDigit_ascii (h c List.mem_cons_self)),
        ih fun d hd => h d (List.mem_cons_of_mem _ hd)]
      rfl

theorem digitsValue_map {l : List Char} (h : ∀ c ∈ l, c.isDigit = true) (init : Nat) :
    (l.map fun c => UInt8.ofNat c.toNat).foldl (fun n b => 10 * n + (b.toNat - 0x30)) init
      = Nat.ofDigitChars 10 l init := by
  induction l generalizing init with
  | nil => rfl
  | cons c l ih =>
      rw [List.map_cons, List.foldl_cons, toNat_ascii (Char.isDigit_ascii (h c List.mem_cons_self)),
        ih fun d hd => h d (List.mem_cons_of_mem _ hd), Nat.ofDigitChars_cons]
      rfl

/-- The bytes of a number in decimal are digits. -/
theorem mem_bytes_Itoa {n : Nat} {b : UInt8} (h : b ∈ bytes (Itoa n)) : isDigit b = true := by
  have hn : ¬ (n : Int) < 0 := by omega
  rw [Itoa, if_neg hn, bytes_toDigits] at h
  obtain ⟨c, hc, rfl⟩ := List.mem_map.1 h
  have hdigit : c.isDigit = true := Nat.isDigit_of_mem_toDigits (by decide) (by decide) hc
  have hbounds := Char.isDigit_bounds hdigit
  have hval := toNat_ascii (Char.isDigit_ascii hdigit)
  simp only [isDigit, Bool.and_eq_true, decide_eq_true_eq, UInt8.le_iff_toNat_le]
  rw [hval]
  exact hbounds

theorem bytes_Itoa_ne_nil (n : Nat) : bytes (Itoa n) ≠ [] := by
  have hn : ¬ (n : Int) < 0 := by omega
  rw [Itoa, if_neg hn, bytes_toDigits, ne_eq, List.map_eq_nil_iff]
  exact Nat.toDigits_ne_nil

theorem digitsValue_Itoa (n : Nat) : digitsValue (bytes (Itoa n)) = n := by
  have hpos : ¬ (n : Int) < 0 := by omega
  rw [Itoa, if_neg hpos, bytes_toDigits]
  refine (digitsValue_map (fun c hc => ?_) 0).trans Nat.ofDigitChars_ten_toDigits
  exact Nat.isDigit_of_mem_toDigits (by decide) (by decide) hc

theorem parseDigits_Itoa (n : Nat) : parseDigits (bytes (Itoa n)) = some n := by
  have hall : (bytes (Itoa n)).all isDigit = true :=
    List.all_eq_true.2 fun b hb => mem_bytes_Itoa hb
  rw [parseDigits, if_pos ⟨bytes_Itoa_ne_nil n, hall⟩, digitsValue_Itoa]

/-- **Reading back what was printed.** -/
theorem Atoi_Itoa {n : Nat} (hn : n < 2 ^ 63) : Atoi (bytes (Itoa n)) = some (n : Int) := by
  have hhead : ∀ b : UInt8, isDigit b = false → (bytes (Itoa n)).head? ≠ some b := by
    intro b hb hhead
    have hmem := mem_bytes_Itoa (List.mem_of_head? hhead)
    rw [hb] at hmem
    cases hmem
  have hrange : (decide (-2 ^ 63 ≤ (n : Int)) && decide ((n : Int) < 2 ^ 63)) = true := by
    simp only [Bool.and_eq_true, decide_eq_true_eq]
    omega
  rw [Atoi, if_neg (hhead _ (by decide)), if_neg (hhead _ (by decide)), parseDigits_Itoa]
  simp only [Option.map_some, Int.ofNat_eq_natCast, Option.filter_some, hrange, if_true]

end LesserHost.Go
