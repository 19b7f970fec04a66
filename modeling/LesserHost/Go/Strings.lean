import Mathlib.Algebra.Order.Ring.Int
import Mathlib.Data.List.DropRight
import Mathlib.Data.List.Infix

set_option autoImplicit false

/-! # Go strings

The functions of Go's `strings` package that the services use to normalise text. A Go string is a
`String`: text that came out of a JSON decoder or a database is valid Unicode. `len` counts bytes.

`ToLower` follows the simple lower-case mapping of Unicode 17, written as ranges. That no lower-case
image is itself mapped, and that no image is white space, is checked range against range; it makes
trimming and lower-casing idempotent in every combination the services use. -/

namespace LesserHost.Go

/-! ## White space -/

/-- The code points with the property `White_Space`. -/
def whiteSpace : List Nat :=
  [0x9, 0xa, 0xb, 0xc, 0xd, 0x20, 0x85, 0xa0, 0x1680, 0x2000, 0x2001, 0x2002, 0x2003, 0x2004, 0x2005,
    0x2006, 0x2007, 0x2008, 0x2009, 0x200a, 0x2028, 0x2029, 0x202f, 0x205f, 0x3000]

/-- `unicode.IsSpace`. -/
def isSpace (c : Char) : Bool := whiteSpace.contains c.toNat

/-- Neither end of the text satisfies `p`. -/
def Trimmed {α : Type} (p : α → Bool) (l : List α) : Prop :=
  (∀ c, l.head? = some c → p c = false) ∧ (∀ c, l.getLast? = some c → p c = false)

/-- Cut off what satisfies `p` at both ends. -/
def trimFunc {α : Type} (p : α → Bool) (l : List α) : List α := (l.dropWhile p).rdropWhile p

section Trim

variable {α β : Type} {p : α → Bool} {l : List α}

theorem head?_dropWhile_not {c : α} (h : (l.dropWhile p).head? = some c) : p c = false := by
  induction l with
  | nil => simp at h
  | cons a l ih =>
      rw [List.dropWhile_cons] at h
      split_ifs at h with ha
      · exact ih h
      · obtain rfl : a = c := by simpa using h
        simpa using ha

theorem trimFunc_trimmed (p : α → Bool) (l : List α) : Trimmed p (trimFunc p l) := by
  refine ⟨?_, ?_⟩
  · intro c hc
    -- cutting the end off leaves the first character in place
    obtain ⟨rest, hrest⟩ := List.rdropWhile_prefix p (l := l.dropWhile p)
    refine head?_dropWhile_not (l := l) ?_
    rw [← hrest, List.head?_append]
    have hc' : ((l.dropWhile p).rdropWhile p).head? = some c := hc
    rw [hc']
    rfl
  · intro c hc
    have hne : trimFunc p l ≠ [] := by
      intro hnil
      rw [hnil] at hc
      cases hc
    have hlast := List.rdropWhile_last_not p (l.dropWhile p) hne
    rw [List.getLast?_eq_some_getLast hne] at hc
    obtain rfl := Option.some.inj hc
    exact Bool.not_eq_true _ ▸ hlast

theorem Trimmed.trimFunc_eq (h : Trimmed p l) : trimFunc p l = l := by
  have hfront : l.dropWhile p = l := by
    cases l with
    | nil => rfl
    | cons a l =>
        have ha : p a = false := h.1 a rfl
        simp [ha]
  rw [trimFunc, hfront, List.rdropWhile_eq_self_iff]
  intro hne
  rw [h.2 _ (List.getLast?_eq_some_getLast hne)]
  decide

theorem Trimmed.of_forall (h : ∀ c ∈ l, p c = false) : Trimmed p l :=
  ⟨fun c hc => h c (List.mem_of_head? hc), fun c hc => h c (List.mem_of_getLast? hc)⟩

/-- A map that makes no white space out of other text keeps text trimmed. -/
theorem Trimmed.map {q : β → Bool} {f : α → β} (h : Trimmed p l)
    (hf : ∀ c, p c = false → q (f c) = false) : Trimmed q (l.map f) := by
  refine ⟨?_, ?_⟩
  · intro c hc
    rw [List.head?_map, Option.map_eq_some_iff] at hc
    obtain ⟨a, ha, rfl⟩ := hc
    exact hf a (h.1 a ha)
  · intro c hc
    rw [List.getLast?_map, Option.map_eq_some_iff] at hc
    obtain ⟨a, ha, rfl⟩ := hc
    exact hf a (h.2 a ha)

end Trim

/-! ## Lower case -/

/-- First and last code point of a range, its stride, and the image of the first. -/
abbrev CaseRange := Nat × Nat × Nat × Nat

def CaseRange.contains (r : CaseRange) (n : Nat) : Bool :=
  r.1.ble n && n.ble r.2.1 && ((n - r.1) % r.2.2.1).beq 0

/-- All code points with a simple lower-case mapping. -/
def caseRanges : List CaseRange :=
  [(0x41, 0x5a, 1, 0x61), (0xc0, 0xd6, 1, 0xe0), (0xd8, 0xde, 1, 0xf8), (0x100, 0x12e, 2, 0x101),
    (0x130, 0x130, 2, 0x69), (0x132, 0x136, 2, 0x133), (0x139, 0x147, 2, 0x13a),
    (0x14a, 0x176, 2, 0x14b), (0x178, 0x178, 2, 0xff), (0x179, 0x17d, 2, 0x17a),
    (0x181, 0x181, 2, 0x253), (0x182, 0x184, 2, 0x183), (0x186, 0x186, 2, 0x254),
    (0x187, 0x187, 2, 0x188), (0x189, 0x18a, 1, 0x256), (0x18b, 0x18b, 2, 0x18c),
    (0x18e, 0x18e, 2, 0x1dd), (0x18f, 0x18f, 2, 0x259), (0x190, 0x190, 2, 0x25b),
    (0x191, 0x191, 2, 0x192), (0x193, 0x193, 2, 0x260), (0x194, 0x194, 2, 0x263),
    (0x196, 0x196, 2, 0x269), (0x197, 0x197, 2, 0x268), (0x198, 0x198, 2, 0x199),
    (0x19c, 0x19c, 2, 0x26f), (0x19d, 0x19d, 2, 0x272), (0x19f, 0x19f, 2, 0x275),
    (0x1a0, 0x1a4, 2, 0x1a1), (0x1a6, 0x1a6, 2, 0x280), (0x1a7, 0x1a7, 2, 0x1a8),
    (0x1a9, 0x1a9, 2, 0x283), (0x1ac, 0x1ac, 2, 0x1ad), (0x1ae, 0x1ae, 2, 0x288),
    (0x1af, 0x1af, 2, 0x1b0), (0x1b1, 0x1b2, 1, 0x28a), (0x1b3, 0x1b5, 2, 0x1b4),
    (0x1b7, 0x1b7, 2, 0x292), (0x1b8, 0x1b8, 2, 0x1b9), (0x1bc, 0x1bc, 2, 0x1bd),
    (0x1c4, 0x1c4, 2, 0x1c6), (0x1c5, 0x1c5, 2, 0x1c6), (0x1c7, 0x1c7, 2, 0x1c9),
    (0x1c8, 0x1c8, 2, 0x1c9), (0x1ca, 0x1ca, 2, 0x1cc), (0x1cb, 0x1db, 2, 0x1cc),
    (0x1de, 0x1ee, 2, 0x1df), (0x1f1, 0x1f1, 2, 0x1f3), (0x1f2, 0x1f4, 2, 0x1f3),
    (0x1f6, 0x1f6, 2, 0x195), (0x1f7, 0x1f7, 2, 0x1bf), (0x1f8, 0x21e, 2, 0x1f9),
    (0x220, 0x220, 2, 0x19e), (0x222, 0x232, 2, 0x223), (0x23a, 0x23a, 2, 0x2c65),
    (0x23b, 0x23b, 2, 0x23c), (0x23d, 0x23d, 2, 0x19a), (0x23e, 0x23e, 2, 0x2c66),
    (0x241, 0x241, 2, 0x242), (0x243, 0x243, 2, 0x180), (0x244, 0x244, 2, 0x289),
    (0x245, 0x245, 2, 0x28c), (0x246, 0x24e, 2, 0x247), (0x370, 0x372, 2, 0x371),
    (0x376, 0x376, 2, 0x377), (0x37f, 0x37f, 2, 0x3f3), (0x386, 0x386, 2, 0x3ac),
    (0x388, 0x38a, 1, 0x3ad), (0x38c, 0x38c, 2, 0x3cc), (0x38e, 0x38f, 1, 0x3cd),
    (0x391, 0x3a1, 1, 0x3b1), (0x3a3, 0x3ab, 1, 0x3c3), (0x3cf, 0x3cf, 2, 0x3d7),
    (0x3d8, 0x3ee, 2, 0x3d9), (0x3f4, 0x3f4, 2, 0x3b8), (0x3f7, 0x3f7, 2, 0x3f8),
    (0x3f9, 0x3f9, 2, 0x3f2), (0x3fa, 0x3fa, 2, 0x3fb), (0x3fd, 0x3ff, 1, 0x37b),
    (0x400, 0x40f, 1, 0x450), (0x410, 0x42f, 1, 0x430), (0x460, 0x480, 2, 0x461),
    (0x48a, 0x4be, 2, 0x48b), (0x4c0, 0x4c0, 2, 0x4cf), (0x4c1, 0x4cd, 2, 0x4c2),
    (0x4d0, 0x52e, 2, 0x4d1), (0x531, 0x556, 1, 0x561), (0x10a0, 0x10c5, 1, 0x2d00),
    (0x10c7, 0x10c7, 2, 0x2d27), (0x10cd, 0x10cd, 2, 0x2d2d), (0x13a0, 0x13ef, 1, 0xab70),
    (0x13f0, 0x13f5, 1, 0x13f8), (0x1c89, 0x1c89, 2, 0x1c8a), (0x1c90, 0x1cba, 1, 0x10d0),
    (0x1cbd, 0x1cbf, 1, 0x10fd), (0x1e00, 0x1e94, 2, 0x1e01), (0x1e9e, 0x1e9e, 2, 0xdf),
    (0x1ea0, 0x1efe, 2, 0x1ea1), (0x1f08, 0x1f0f, 1, 0x1f00), (0x1f18, 0x1f1d, 1, 0x1f10),
    (0x1f28, 0x1f2f, 1, 0x1f20), (0x1f38, 0x1f3f, 1, 0x1f30), (0x1f48, 0x1f4d, 1, 0x1f40),
    (0x1f59, 0x1f5f, 2, 0x1f51), (0x1f68, 0x1f6f, 1, 0x1f60), (0x1f88, 0x1f8f, 1, 0x1f80),
    (0x1f98, 0x1f9f, 1, 0x1f90), (0x1fa8, 0x1faf, 1, 0x1fa0), (0x1fb8, 0x1fb9, 1, 0x1fb0),
    (0x1fba, 0x1fbb, 1, 0x1f70), (0x1fbc, 0x1fbc, 2, 0x1fb3), (0x1fc8, 0x1fcb, 1, 0x1f72),
    (0x1fcc, 0x1fcc, 2, 0x1fc3), (0x1fd8, 0x1fd9, 1, 0x1fd0), (0x1fda, 0x1fdb, 1, 0x1f76),
    (0x1fe8, 0x1fe9, 1, 0x1fe0), (0x1fea, 0x1feb, 1, 0x1f7a), (0x1fec, 0x1fec, 2, 0x1fe5),
    (0x1ff8, 0x1ff9, 1, 0x1f78), (0x1ffa, 0x1ffb, 1, 0x1f7c), (0x1ffc, 0x1ffc, 2, 0x1ff3),
    (0x2126, 0x2126, 2, 0x3c9), (0x212a, 0x212a, 2, 0x6b), (0x212b, 0x212b, 2, 0xe5),
    (0x2132, 0x2132, 2, 0x214e), (0x2160, 0x216f, 1, 0x2170), (0x2183, 0x2183, 2, 0x2184),
    (0x24b6, 0x24cf, 1, 0x24d0), (0x2c00, 0x2c2f, 1, 0x2c30), (0x2c60, 0x2c60, 2, 0x2c61),
    (0x2c62, 0x2c62, 2, 0x26b), (0x2c63, 0x2c63, 2, 0x1d7d), (0x2c64, 0x2c64, 2, 0x27d),
    (0x2c67, 0x2c6b, 2, 0x2c68), (0x2c6d, 0x2c6d, 2, 0x251), (0x2c6e, 0x2c6e, 2, 0x271),
    (0x2c6f, 0x2c6f, 2, 0x250), (0x2c70, 0x2c70, 2, 0x252), (0x2c72, 0x2c72, 2, 0x2c73),
    (0x2c75, 0x2c75, 2, 0x2c76), (0x2c7e, 0x2c7f, 1, 0x23f), (0x2c80, 0x2ce2, 2, 0x2c81),
    (0x2ceb, 0x2ced, 2, 0x2cec), (0x2cf2, 0x2cf2, 2, 0x2cf3), (0xa640, 0xa66c, 2, 0xa641),
    (0xa680, 0xa69a, 2, 0xa681), (0xa722, 0xa72e, 2, 0xa723), (0xa732, 0xa76e, 2, 0xa733),
    (0xa779, 0xa77b, 2, 0xa77a), (0xa77d, 0xa77d, 2, 0x1d79), (0xa77e, 0xa786, 2, 0xa77f),
    (0xa78b, 0xa78b, 2, 0xa78c), (0xa78d, 0xa78d, 2, 0x265), (0xa790, 0xa792, 2, 0xa791),
    (0xa796, 0xa7a8, 2, 0xa797), (0xa7aa, 0xa7aa, 2, 0x266), (0xa7ab, 0xa7ab, 2, 0x25c),
    (0xa7ac, 0xa7ac, 2, 0x261), (0xa7ad, 0xa7ad, 2, 0x26c), (0xa7ae, 0xa7ae, 2, 0x26a),
    (0xa7b0, 0xa7b0, 2, 0x29e), (0xa7b1, 0xa7b1, 2, 0x287), (0xa7b2, 0xa7b2, 2, 0x29d),
    (0xa7b3, 0xa7b3, 2, 0xab53), (0xa7b4, 0xa7c2, 2, 0xa7b5), (0xa7c4, 0xa7c4, 2, 0xa794),
    (0xa7c5, 0xa7c5, 2, 0x282), (0xa7c6, 0xa7c6, 2, 0x1d8e), (0xa7c7, 0xa7c9, 2, 0xa7c8),
    (0xa7cb, 0xa7cb, 2, 0x264), (0xa7cc, 0xa7da, 2, 0xa7cd), (0xa7dc, 0xa7dc, 2, 0x19b),
    (0xa7f5, 0xa7f5, 2, 0xa7f6), (0xff21, 0xff3a, 1, 0xff41), (0x10400, 0x10427, 1, 0x10428),
    (0x104b0, 0x104d3, 1, 0x104d8), (0x10570, 0x1057a, 1, 0x10597), (0x1057c, 0x1058a, 1, 0x105a3),
    (0x1058c, 0x10592, 1, 0x105b3), (0x10594, 0x10595, 1, 0x105bb), (0x10c80, 0x10cb2, 1, 0x10cc0),
    (0x10d50, 0x10d65, 1, 0x10d70), (0x118a0, 0x118bf, 1, 0x118c0), (0x16e40, 0x16e5f, 1, 0x16e60),
    (0x16ea0, 0x16eb8, 1, 0x16ebb), (0x1e900, 0x1e921, 1, 0x1e922)]

/-- `unicode.ToLower`, on code points. -/
def lowerCode (n : Nat) : Nat :=
  match caseRanges.find? (fun r => r.contains n) with
  | some r => r.2.2.2 + (n - r.1)
  | none => n

def toLowerChar (c : Char) : Char := Char.ofNat (lowerCode c.toNat)

/-- No image of `r` lies in `r'`: the intervals are apart, or both have stride two and the images
    are of the other parity. -/
def CaseRange.imageApart (r r' : CaseRange) : Bool :=
  r'.2.1.blt r.2.2.2 || (r.2.2.2 + (r.2.1 - r.1)).blt r'.1 ||
    (r.2.2.1.beq 2 && r'.2.2.1.beq 2 && !(r.2.2.2 % 2).beq (r'.1 % 2))

/-- The images of `r` are code points of characters that are no white space. -/
def CaseRange.imageOk (r : CaseRange) : Bool :=
  let last := r.2.2.2 + (r.2.1 - r.1)
  (last.blt 0xd800 || (Nat.blt 0xdfff r.2.2.2 && last.blt 0x110000)) &&
    whiteSpace.all fun n => n.blt r.2.2.2 || last.blt n

theorem caseRanges_apart :
    (caseRanges.all fun r => caseRanges.all fun r' => r.imageApart r') = true := by
  decide +kernel

theorem caseRanges_imageOk : (caseRanges.all fun r => r.imageOk) = true := by
  decide +kernel

/-- A code point inside one of the ranges, at the place its image is read from. -/
theorem find_contains {n : Nat} {r : CaseRange}
    (h : caseRanges.find? (fun r => r.contains n) = some r) :
    r ∈ caseRanges ∧ r.1 ≤ n ∧ n ≤ r.2.1 ∧ (n - r.1) % r.2.2.1 = 0 := by
  have hcontains := List.find?_some h
  simp only [CaseRange.contains, Bool.and_eq_true, Nat.ble_eq, Nat.beq_eq] at hcontains
  exact ⟨List.mem_of_find?_eq_some h, hcontains.1.1, hcontains.1.2, hcontains.2⟩

/-- No range contains the image of a code point of a range. -/
theorem image_not_contained {r r' : CaseRange} {n : Nat} (hapart : r.imageApart r' = true)
    (hlo : r.1 ≤ n) (hhi : n ≤ r.2.1) (hstride : (n - r.1) % r.2.2.1 = 0) :
    r'.contains (r.2.2.2 + (n - r.1)) = false := by
  by_contra hcontains
  rw [Bool.not_eq_false] at hcontains
  simp only [CaseRange.contains, Bool.and_eq_true, Nat.ble_eq, Nat.beq_eq] at hcontains
  obtain ⟨⟨hlo', hhi'⟩, hstride'⟩ := hcontains
  simp only [CaseRange.imageApart, Bool.or_eq_true, Bool.and_eq_true, Nat.blt_eq, Nat.beq_eq,
    Bool.not_eq_true', ← Bool.not_eq_true] at hapart
  rcases hapart with (hbelow | habove) | ⟨⟨htwo, htwo'⟩, hparity⟩
  · omega
  · omega
  · rw [htwo] at hstride
    rw [htwo'] at hstride'
    omega

theorem lowerCode_idem (n : Nat) : lowerCode (lowerCode n) = lowerCode n := by
  cases h : caseRanges.find? (fun r => r.contains n) with
  | none => simp only [lowerCode, h]
  | some r =>
      obtain ⟨hmem, hlo, hhi, hstride⟩ := find_contains h
      have hnone : caseRanges.find? (fun r' => r'.contains (r.2.2.2 + (n - r.1))) = none := by
        rw [List.find?_eq_none]
        intro r' hr'
        have hapart := List.all_eq_true.1 (List.all_eq_true.1 caseRanges_apart r hmem) r' hr'
        rw [image_not_contained hapart hlo hhi hstride]
        decide
      simp only [lowerCode, h, hnone]

/-- The image of a code point that has one is the code point of a character, and no white space. -/
theorem lowerCode_image {n : Nat} {r : CaseRange}
    (h : caseRanges.find? (fun r => r.contains n) = some r) :
    (lowerCode n).isValidChar ∧ whiteSpace.contains (lowerCode n) = false := by
  obtain ⟨hmem, hlo, hhi, -⟩ := find_contains h
  have hok := List.all_eq_true.1 caseRanges_imageOk r hmem
  simp only [CaseRange.imageOk, Bool.and_eq_true, Bool.or_eq_true, Nat.blt_eq] at hok
  have hcode : lowerCode n = r.2.2.2 + (n - r.1) := by simp only [lowerCode, h]
  rw [hcode]
  refine ⟨?_, ?_⟩
  · rcases hok.1 with hlow | ⟨hhigh, hlast⟩
    · exact Or.inl (by omega)
    · exact Or.inr ⟨by omega, by omega⟩
  · rw [← Bool.not_eq_true, List.contains_iff_mem]
    intro hspace
    have hne := List.all_eq_true.1 hok.2 _ hspace
    simp only [Bool.or_eq_true, Nat.blt_eq] at hne
    omega

theorem toNat_toLowerChar (c : Char) : (toLowerChar c).toNat = lowerCode c.toNat := by
  have hvalid : (lowerCode c.toNat).isValidChar := by
    cases h : caseRanges.find? (fun r => r.contains c.toNat) with
    | none =>
        simp only [lowerCode, h]
        exact c.valid
    | some r => exact (lowerCode_image h).1
  rw [toLowerChar, Char.ofNat, dif_pos hvalid]
  rfl

theorem toLowerChar_idem (c : Char) : toLowerChar (toLowerChar c) = toLowerChar c := by
  have h := congrArg Char.ofNat (lowerCode_idem c.toNat)
  rwa [← toNat_toLowerChar, Char.ofNat_toNat] at h

/-- Lower-casing makes no white space. -/
theorem isSpace_toLowerChar {c : Char} (h : isSpace c = false) : isSpace (toLowerChar c) = false := by
  rw [isSpace, toNat_toLowerChar]
  cases hf : caseRanges.find? (fun r => r.contains c.toNat) with
  | none =>
      simp only [lowerCode, hf]
      exact h
  | some r => exact (lowerCode_image hf).2

/-! ## The functions of the package -/

/-- `strings.TrimSpace`. -/
def TrimSpace (s : String) : String := String.ofList (trimFunc isSpace s.toList)

/-- `strings.ToLower`. -/
def ToLower (s : String) : String := String.ofList (s.toList.map toLowerChar)

/-- `len`. -/
def len (s : String) : Nat := (s.toList.map Char.utf8Size).sum

/-- `strings.HasPrefix`. -/
def HasPrefix (s pre : String) : Bool := pre.toList.isPrefixOf s.toList

/-- `strings.TrimPrefix`. -/
def TrimPrefix (s pre : String) : String :=
  if HasPrefix s pre then String.ofList (s.toList.drop pre.toList.length) else s

theorem HasPrefix_append (pre s : String) : HasPrefix (pre ++ s) pre = true := by
  rw [HasPrefix, String.toList_append, List.isPrefixOf_iff_prefix]
  exact List.prefix_append _ _

theorem TrimPrefix_append (pre s : String) : TrimPrefix (pre ++ s) pre = s := by
  rw [TrimPrefix, if_pos (HasPrefix_append pre s), String.toList_append, List.drop_left,
    String.ofList_toList]

/-- `strings.Split` at a single character. -/
def Split (s : String) (sep : Char) : List String := (s.toList.splitOn sep).map String.ofList

@[simp] theorem toList_TrimSpace (s : String) :
    (TrimSpace s).toList = trimFunc isSpace s.toList := String.toList_ofList

@[simp] theorem toList_ToLower (s : String) : (ToLower s).toList = s.toList.map toLowerChar :=
  String.toList_ofList

/-- Text that `TrimSpace` leaves as it is. -/
def IsTrimmed (s : String) : Prop := Trimmed isSpace s.toList

theorem IsTrimmed.TrimSpace_eq {s : String} (h : IsTrimmed s) : TrimSpace s = s := by
  rw [TrimSpace, Trimmed.trimFunc_eq h, String.ofList_toList]

theorem isTrimmed_TrimSpace (s : String) : IsTrimmed (TrimSpace s) := by
  rw [IsTrimmed, toList_TrimSpace]
  exact trimFunc_trimmed isSpace s.toList

/-- White space in front is cut off. -/
theorem TrimSpace_space (s : String) : TrimSpace (" " ++ s) = TrimSpace s := by
  have hlist : (" " ++ s).toList = ' ' :: s.toList := by
    rw [String.toList_append]
    rfl
  have hspace : isSpace ' ' = true := by decide
  rw [TrimSpace, hlist, trimFunc, List.dropWhile_cons, hspace, if_pos rfl]
  rfl

/-- Text that begins and ends with other characters than white space. -/
theorem isTrimmed_of_ends {s : String} {a b : Char} (hhead : s.toList.head? = some a)
    (hlast : s.toList.getLast? = some b) (ha : isSpace a = false) (hb : isSpace b = false) :
    IsTrimmed s := by
  refine ⟨fun c hc => ?_, fun c hc => ?_⟩
  · rw [hhead] at hc
    exact Option.some.inj hc ▸ ha
  · rw [hlast] at hc
    exact Option.some.inj hc ▸ hb

/-- The characters of a literal that holds no white space. -/
theorem isSpace_of_all {s : String} (h : (s.toList.all fun c => !isSpace c) = true) {c : Char}
    (hc : c ∈ s.toList) : isSpace c = false := by
  simpa using List.all_eq_true.1 h c hc

/-- The first character of a literal, read off its list of characters. -/
theorem head?_ofList {a : Char} {rest : List Char} :
    (String.ofList (a :: rest)).toList.head? = some a := by
  rw [String.toList_ofList]
  rfl

theorem head?_append {s t : String} {a : Char} (h : s.toList.head? = some a) :
    (s ++ t).toList.head? = some a := by
  rw [String.toList_append, List.head?_append, h, Option.some_or]

theorem getLast?_append {s t : String} {a : Char} (h : t.toList.getLast? = some a) :
    (s ++ t).toList.getLast? = some a := by
  rw [String.toList_append, List.getLast?_append, h, Option.some_or]

/-- Text that begins with no white space is not trimmed away. -/
theorem TrimSpace_ne_empty {s : String} {a : Char} (hhead : s.toList.head? = some a)
    (ha : isSpace a = false) : TrimSpace s ≠ "" := by
  intro h
  have hnil : trimFunc isSpace s.toList = [] := by
    rw [← toList_TrimSpace, h]
    rfl
  obtain ⟨rest, hs⟩ : ∃ rest, s.toList = a :: rest := List.head?_eq_some_iff.1 hhead
  have hfront : (a :: rest).dropWhile isSpace = a :: rest := by
    rw [List.dropWhile_cons, ha]
    rfl
  rw [trimFunc, hs, hfront, List.rdropWhile_eq_nil_iff] at hnil
  rw [hnil a List.mem_cons_self] at ha
  cases ha

@[simp] theorem TrimSpace_idem (s : String) : TrimSpace (TrimSpace s) = TrimSpace s :=
  (isTrimmed_TrimSpace s).TrimSpace_eq

@[simp] theorem ToLower_idem (s : String) : ToLower (ToLower s) = ToLower s := by
  have h : toLowerChar ∘ toLowerChar = toLowerChar := funext toLowerChar_idem
  rw [ToLower, toList_ToLower, List.map_map, h, ToLower]

theorem ToLower_append (s t : String) : ToLower (s ++ t) = ToLower s ++ ToLower t := by
  rw [ToLower, String.toList_append, List.map_append, String.ofList_append]
  rfl

example : ToLower "0xÀΣ" = "0xàσ" := by decide +kernel

theorem IsTrimmed.ToLower {s : String} (h : IsTrimmed s) : IsTrimmed (ToLower s) := by
  rw [IsTrimmed, toList_ToLower]
  exact Trimmed.map h (fun _ hc => isSpace_toLowerChar hc)

/-- Lower-casing trimmed text needs no second trim. -/
@[simp] theorem TrimSpace_ToLower_TrimSpace (s : String) :
    TrimSpace (ToLower (TrimSpace s)) = ToLower (TrimSpace s) :=
  (isTrimmed_TrimSpace s).ToLower.TrimSpace_eq

end LesserHost.Go
