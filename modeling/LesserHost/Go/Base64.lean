import LesserHost.Go.Bytes

set_option autoImplicit false

/-! # Base64

`base64.StdEncoding`: three bytes become four characters, the last group is padded. Decoding skips line
breaks and takes padding at the end only. `base64.RawStdEncoding` is the same without the padding. -/

namespace LesserHost.Go.Base64

open LesserHost.Go

def pad : UInt8 := 0x3d

/-- The character of a number below 64. -/
def encodeDigit (n : Nat) : UInt8 :=
  if n < 26 then UInt8.ofNat (0x41 + n)
  else if n < 52 then UInt8.ofNat (0x61 + (n - 26))
  else if n < 62 then UInt8.ofNat (0x30 + (n - 52))
  else if n = 62 then 0x2b
  else 0x2f

def decodeDigit (b : UInt8) : Option Nat :=
  let n := b.toNat
  if 0x41 ≤ n ∧ n ≤ 0x5a then some (n - 0x41)
  else if 0x61 ≤ n ∧ n ≤ 0x7a then some (n - 0x61 + 26)
  else if 0x30 ≤ n ∧ n ≤ 0x39 then some (n - 0x30 + 52)
  else if n = 0x2b then some 62
  else if n = 0x2f then some 63
  else none

/-- `EncodeToString`. -/
def encode : Bytes → Bytes
  | [] => []
  | [a] => [encodeDigit (a.toNat / 4), encodeDigit (a.toNat % 4 * 16), pad, pad]
  | [a, b] =>
      [encodeDigit (a.toNat / 4), encodeDigit (a.toNat % 4 * 16 + b.toNat / 16),
        encodeDigit (b.toNat % 16 * 4), pad]
  | a :: b :: c :: rest =>
      [encodeDigit (a.toNat / 4), encodeDigit (a.toNat % 4 * 16 + b.toNat / 16),
        encodeDigit (b.toNat % 16 * 4 + c.toNat / 64), encodeDigit (c.toNat % 64)] ++ encode rest

/-- The groups of four characters, without line breaks. -/
def decodeQuanta : Bytes → Option Bytes
  | [] => some []
  | a :: b :: c :: d :: rest => do
      let x ← decodeDigit a
      let y ← decodeDigit b
      let first := UInt8.ofNat (x * 4 + y / 16)
      if d = pad then
        if rest ≠ [] then none
        else if c = pad then return [first]
        else do
          let z ← decodeDigit c
          return [first, UInt8.ofNat (y % 16 * 16 + z / 4)]
      else do
        let z ← decodeDigit c
        let w ← decodeDigit d
        let tail ← decodeQuanta rest
        return [first, UInt8.ofNat (y % 16 * 16 + z / 4), UInt8.ofNat (z % 4 * 64 + w)] ++ tail
  | _ => none

def isLineBreak (b : UInt8) : Bool := b == 0x0a || b == 0x0d

/-- `DecodeString`. -/
def decode (s : Bytes) : Option Bytes := decodeQuanta (s.filter fun b => !isLineBreak b)

/-! ## Decoding what was encoded -/

theorem encodeDigit_spec {n : Nat} (h : n < 64) :
    decodeDigit (encodeDigit n) = some n ∧ encodeDigit n ≠ pad ∧ isLineBreak (encodeDigit n) = false := by
  have hall : ∀ n : Fin 64, decodeDigit (encodeDigit n) = some n.val ∧ encodeDigit n ≠ pad ∧
      isLineBreak (encodeDigit n) = false := by
    decide
  exact hall ⟨n, h⟩

/-- What holds of the padding and of every digit holds of an encoded text. -/
theorem encode_forall {P : UInt8 → Prop} (hpad : P pad) (hdigit : ∀ n, n < 64 → P (encodeDigit n))
    (bs : Bytes) : ∀ b ∈ encode bs, P b := by
  fun_induction encode bs with
  | case1 => simp
  | case2 a =>
      have ha := a.toNat_lt
      simp [hpad, hdigit (a.toNat / 4) (by omega), hdigit (a.toNat % 4 * 16) (by omega)]
  | case3 a b =>
      have ha := a.toNat_lt
      have hb := b.toNat_lt
      simp [hpad, hdigit (a.toNat / 4) (by omega), hdigit (a.toNat % 4 * 16 + b.toNat / 16) (by omega),
        hdigit (b.toNat % 16 * 4) (by omega)]
  | case4 a b c rest ih =>
      have ha := a.toNat_lt
      have hb := b.toNat_lt
      have hc := c.toNat_lt
      intro d hd
      rw [List.mem_append] at hd
      rcases hd with hd | hd
      · simp only [List.mem_cons, List.not_mem_nil, or_false] at hd
        rcases hd with rfl | rfl | rfl | rfl
        · exact hdigit _ (by omega)
        · exact hdigit _ (by omega)
        · exact hdigit _ (by omega)
        · exact hdigit _ (by omega)
      · exact ih d hd

theorem encode_lineBreak (bs : Bytes) : ∀ b ∈ encode bs, isLineBreak b = false :=
  encode_forall (by decide) (fun _ hn => (encodeDigit_spec hn).2.2) bs

/-- The characters of base64 are ASCII above the space. -/
theorem encode_ascii (bs : Bytes) : ∀ b ∈ encode bs, 32 < b.toNat ∧ b.toNat < 128 := by
  have hall : ∀ n : Fin 64, 32 < (encodeDigit n).toNat ∧ (encodeDigit n).toNat < 128 := by decide
  exact encode_forall (by decide) (fun n hn => hall ⟨n, hn⟩) bs

theorem decodeQuanta_encode (bs : Bytes) : decodeQuanta (encode bs) = some bs := by
  have hbyte : ∀ (a : UInt8) (n : Nat), n = a.toNat → UInt8.ofNat n = a := by
    intro a n hn
    rw [hn, UInt8.ofNat_toNat]
  fun_induction encode bs with
  | case1 => rfl
  | case2 a =>
      have ha := a.toNat_lt
      simp only [decodeQuanta, (encodeDigit_spec (n := a.toNat / 4) (by omega)).1,
        (encodeDigit_spec (n := a.toNat % 4 * 16) (by omega)).1, if_true, ne_eq, not_true_eq_false,
        if_false, Option.bind_eq_bind, Option.bind_some, Option.pure_def]
      rw [hbyte a _ (by omega)]
  | case3 a b =>
      have ha := a.toNat_lt
      have hb := b.toNat_lt
      have hlast := encodeDigit_spec (n := b.toNat % 16 * 4) (by omega)
      simp only [decodeQuanta, (encodeDigit_spec (n := a.toNat / 4) (by omega)).1,
        (encodeDigit_spec (n := a.toNat % 4 * 16 + b.toNat / 16) (by omega)).1, hlast.1, hlast.2.1,
        if_true, ne_eq, not_true_eq_false, if_false, Option.bind_eq_bind, Option.bind_some,
        Option.pure_def]
      rw [hbyte a _ (by omega), hbyte b _ (by omega)]
  | case4 a b c rest ih =>
      have ha := a.toNat_lt
      have hb := b.toNat_lt
      have hc := c.toNat_lt
      have hlast := encodeDigit_spec (n := c.toNat % 64) (by omega)
      simp only [List.cons_append, List.nil_append, decodeQuanta,
        (encodeDigit_spec (n := a.toNat / 4) (by omega)).1,
        (encodeDigit_spec (n := a.toNat % 4 * 16 + b.toNat / 16) (by omega)).1,
        (encodeDigit_spec (n := b.toNat % 16 * 4 + c.toNat / 64) (by omega)).1, hlast.1, hlast.2.1,
        if_false, ih, Option.bind_eq_bind, Option.bind_some, Option.pure_def]
      rw [hbyte a _ (by omega), hbyte b _ (by omega), hbyte c _ (by omega)]

theorem decode_encode (bs : Bytes) : decode (encode bs) = some bs := by
  have hfilter : (encode bs).filter (fun b => !isLineBreak b) = encode bs := by
    refine List.filter_eq_self.2 fun b hb => ?_
    rw [encode_lineBreak bs b hb]
    rfl
  rw [decode, hfilter, decodeQuanta_encode]

/-! ## Without padding -/

/-- `RawStdEncoding.EncodeToString`. -/
def rawEncode (bs : Bytes) : Bytes := (encode bs).filter fun b => b != pad

theorem rawEncode_ascii {bs : Bytes} : ∀ b ∈ rawEncode bs, 32 < b.toNat ∧ b.toNat < 128 :=
  fun b hb => encode_ascii bs b (List.mem_filter.1 hb).1

theorem encode_length (bs : Bytes) : (encode bs).length = 4 * ((bs.length + 2) / 3) := by
  fun_induction encode bs with
  | case1 => rfl
  | case2 a => simp
  | case3 a b => simp
  | case4 a b c rest ih =>
      simp only [List.length_append, List.length_cons, List.length_nil, ih]
      omega

theorem rawEncode_length_le (bs : Bytes) : (rawEncode bs).length ≤ 4 * ((bs.length + 2) / 3) :=
  encode_length bs ▸ List.length_filter_le _ _

/-- The first digit is no padding. -/
theorem rawEncode_ne_nil {bs : Bytes} (h : bs ≠ []) : rawEncode bs ≠ [] := by
  have hdigit : ∀ n, n < 64 → (encodeDigit n != pad) = true :=
    fun n hn => by simpa using (encodeDigit_spec hn).2.1
  unfold rawEncode
  fun_cases encode bs with
  | case1 => exact absurd rfl h
  | case2 a =>
      have ha := a.toNat_lt
      simp [hdigit (a.toNat / 4) (by omega)]
  | case3 a b =>
      have ha := a.toNat_lt
      simp [hdigit (a.toNat / 4) (by omega)]
  | case4 a b c rest =>
      have ha := a.toNat_lt
      simp [hdigit (a.toNat / 4) (by omega)]

/-- The characters filled up to groups of four. -/
def padded (s : Bytes) : Bytes := s ++ List.replicate ((4 - s.length % 4) % 4) pad

/-- `RawStdEncoding.DecodeString`. -/
def rawDecode (s : Bytes) : Option Bytes :=
  let s := s.filter fun b => !isLineBreak b
  if pad ∈ s then none else decodeQuanta (padded s)

theorem padded_rawEncode (bs : Bytes) : padded (rawEncode bs) = encode bs := by
  have hdigit : ∀ n, n < 64 → (encodeDigit n != pad) = true :=
    fun n hn => by simpa using (encodeDigit_spec hn).2.1
  unfold rawEncode
  fun_induction encode bs with
  | case1 => rfl
  | case2 a =>
      have ha := a.toNat_lt
      simp [padded, hdigit (a.toNat / 4) (by omega), hdigit (a.toNat % 4 * 16) (by omega)]
  | case3 a b =>
      have ha := a.toNat_lt
      have hb := b.toNat_lt
      simp [padded, hdigit (a.toNat / 4) (by omega),
        hdigit (a.toNat % 4 * 16 + b.toNat / 16) (by omega), hdigit (b.toNat % 16 * 4) (by omega)]
  | case4 a b c rest ih =>
      have ha := a.toNat_lt
      have hb := b.toNat_lt
      have hc := c.toNat_lt
      have hgroup : ∀ s : Bytes, padded ([encodeDigit (a.toNat / 4),
          encodeDigit (a.toNat % 4 * 16 + b.toNat / 16), encodeDigit (b.toNat % 16 * 4 + c.toNat / 64),
          encodeDigit (c.toNat % 64)] ++ s) = [encodeDigit (a.toNat / 4),
          encodeDigit (a.toNat % 4 * 16 + b.toNat / 16), encodeDigit (b.toNat % 16 * 4 + c.toNat / 64),
          encodeDigit (c.toNat % 64)] ++ padded s := by
        intro s
        simp only [padded, List.append_assoc, List.length_append, List.length_cons, List.length_nil]
        rw [show (0 + 1 + 1 + 1 + 1 + s.length) % 4 = s.length % 4 by omega]
      rw [List.filter_append, List.filter_eq_self.2, hgroup, ih]
      intro d hd
      simp only [List.mem_cons, List.not_mem_nil, or_false] at hd
      rcases hd with rfl | rfl | rfl | rfl
      · exact hdigit _ (by omega)
      · exact hdigit _ (by omega)
      · exact hdigit _ (by omega)
      · exact hdigit _ (by omega)

theorem rawDecode_rawEncode (bs : Bytes) : rawDecode (rawEncode bs) = some bs := by
  have hfilter : (rawEncode bs).filter (fun b => !isLineBreak b) = rawEncode bs := by
    refine List.filter_eq_self.2 fun b hb => ?_
    rw [encode_lineBreak bs b (List.mem_filter.1 hb).1]
    rfl
  have hpad : pad ∉ rawEncode bs := by
    intro hmem
    simp [rawEncode] at hmem
  rw [rawDecode, hfilter, if_neg hpad, padded_rawEncode, decodeQuanta_encode]

end LesserHost.Go.Base64
