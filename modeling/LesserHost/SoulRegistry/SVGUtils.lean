import Mathlib.Data.Nat.Digits.Defs
import LesserHost.Go.Base64
import LesserHost.Solidity.Basic

set_option autoImplicit false

/-! # Text encoders of the on-chain avatars

The library `SoulSVGUtils`: base64, decimal numbers and colour channels, each written byte by byte into a
zeroed memory array. A read or a write outside an array reverts. Lengths and positions are those of memory
arrays and never come near `2 ^ 256`, so they are natural numbers.

The encoders are compared with base64 in groups of three bytes (`Go.Base64.encode`) and with the
decimal text of a number (`Nat.repr`, `Int.repr`). Both loops write an array from one end to the other:
what is written so far, followed (or preceded) by zeros, is the invariant of each. -/

namespace LesserHost.SoulSVGUtils

open LesserHost.Go LesserHost.Solidity

/-- `int256`. -/
abbrev Int256 := { v : Int // -2 ^ 255 ≤ v ∧ v < 2 ^ 255 }

/-- `-value`: the result has to fit. -/
def checkedNeg (v : Int256) : Exec Int256 :=
  if h : -v.val < 2 ^ 255 then .ok ⟨-v.val, by omega, h⟩ else .error .panic

/-- `new bytes(n)`. -/
def newBytes (n : Nat) : Bytes := List.replicate n 0

/-- `m[k]`. -/
def load (m : Bytes) (k : Nat) : Exec UInt8 :=
  if h : k < m.length then .ok m[k] else .error .panic

/-- `m[k] = b`. -/
def store (m : Bytes) (k : Nat) (b : UInt8) : Exec Bytes :=
  if k < m.length then .ok (m.set k b) else .error .panic

theorem load_append (pre : Bytes) (b : UInt8) (rest : Bytes) (k : Nat) (hk : k = pre.length) :
    load (pre ++ b :: rest) k = .ok b := by
  subst hk
  simp [load]

theorem store_append (pre : Bytes) (b b' : UInt8) (rest : Bytes) (k : Nat) (hk : k = pre.length) :
    store (pre ++ b :: rest) k b' = .ok (pre ++ b' :: rest) := by
  subst hk
  simp [store]

/-! ## Base64 -/

/-- `_BASE64_TABLE`. -/
def base64Table : Bytes :=
  bytes "ABCDEFGHIJKLMNOPQRSTUVWXYZabcdefghijklmnopqrstuvwxyz0123456789+/"

/-- `result[j++] = _BASE64_TABLE[n & 0x3F]`. -/
def putDigit (result : Bytes) (j n : Nat) : Exec Bytes := do
  let b ← load base64Table (n &&& 0x3f)
  store result j b

/-- `for (i = 0; i + 2 < data.length; i += 3)`: the values of `i`, `j` and `result` after the loop. -/
def encodeLoop (data : Bytes) (i j : Nat) (result : Bytes) : Exec (Nat × Nat × Bytes) :=
  if i + 2 < data.length then do
    let a ← load data i
    let b ← load data (i + 1)
    let c ← load data (i + 2)
    let triple := a.toNat <<< 16 ||| b.toNat <<< 8 ||| c.toNat
    let result ← putDigit result j (triple >>> 18)
    let result ← putDigit result (j + 1) (triple >>> 12)
    let result ← putDigit result (j + 2) (triple >>> 6)
    let result ← putDigit result (j + 3) triple
    encodeLoop data (i + 3) (j + 4) result
  else .ok (i, j, result)
termination_by data.length - i

/-- The one or two bytes after the last group of three. -/
def encodeRemainder (data : Bytes) (i j : Nat) (result : Bytes) : Exec Bytes :=
  if data.length % 3 = 1 then do
    let a ← load data i
    let triple := a.toNat <<< 16
    let result ← putDigit result j (triple >>> 18)
    let result ← putDigit result (j + 1) (triple >>> 12)
    let result ← store result (j + 2) 0x3d
    store result (j + 3) 0x3d
  else if data.length % 3 = 2 then do
    let a ← load data i
    let b ← load data (i + 1)
    let triple := a.toNat <<< 16 ||| b.toNat <<< 8
    let result ← putDigit result j (triple >>> 18)
    let result ← putDigit result (j + 1) (triple >>> 12)
    let result ← putDigit result (j + 2) (triple >>> 6)
    store result (j + 3) 0x3d
  else .ok result

def base64Encode (data : Bytes) : Exec Bytes :=
  if data.length = 0 then .ok []
  else do
    let encodedLen := 4 * ((data.length + 2) / 3)
    let (i, j, result) ← encodeLoop data 0 0 (newBytes encodedLen)
    encodeRemainder data i j result

/-- The table holds the digits in their order. -/
theorem load_base64Table {n : Nat} (h : n < 64) : load base64Table n = .ok (Base64.encodeDigit n) := by
  have hall : ∀ n : Fin 64, load base64Table n = .ok (Base64.encodeDigit n) := by decide
  exact hall ⟨n, h⟩

theorem putDigit_append (pre : Bytes) (b : UInt8) (rest : Bytes) (j n m : Nat) (hj : j = pre.length)
    (hm : n % 64 = m) :
    putDigit (pre ++ b :: rest) j n = .ok (pre ++ Base64.encodeDigit m :: rest) := by
  have hand : n &&& 0x3f = m := by
    rw [← hm]
    exact Nat.and_two_pow_sub_one_eq_mod n 6
  have hlt : m < 64 := by omega
  rw [putDigit, hand, load_base64Table hlt]
  exact store_append pre b _ rest j hj

/-- Three bytes side by side are the number they spell. -/
theorem triple_eq {a b c : Nat} (hb : b < 256) (hc : c < 256) :
    a <<< 16 ||| b <<< 8 ||| c = a * 65536 + b * 256 + c := by
  have hbc : b <<< 8 ||| c = b * 256 + c := by
    rw [Nat.shiftLeft_eq, ← Nat.mul_comm (2 ^ 8) b, ← Nat.two_pow_add_eq_or_of_lt (by omega)]
  rw [Nat.or_assoc, hbc, Nat.shiftLeft_eq, ← Nat.mul_comm (2 ^ 16) a,
    ← Nat.two_pow_add_eq_or_of_lt (by omega)]
  omega

theorem newBytes_four (n : Nat) : newBytes (4 * (n + 1)) = 0 :: 0 :: 0 :: 0 :: newBytes (4 * n) := rfl

theorem store_at (done : Bytes) (xs : Bytes) (b b' : UInt8) (rest : Bytes) :
    store (done ++ (xs ++ b :: rest)) (done.length + xs.length) b' =
      .ok (done ++ (xs ++ b' :: rest)) := by
  have h := store_append (done ++ xs) b b' rest (done.length + xs.length) (by simp)
  simpa using h

theorem putDigit_at (done : Bytes) (xs : Bytes) (b : UInt8) (rest : Bytes) (n m : Nat)
    (hm : n % 64 = m) :
    putDigit (done ++ (xs ++ b :: rest)) (done.length + xs.length) n =
      .ok (done ++ (xs ++ Base64.encodeDigit m :: rest)) := by
  have h := putDigit_append (done ++ xs) b rest (done.length + xs.length) n m (by simp) hm
  simpa using h

/-- The array from `j` on is still zero and just long enough for the rest of the data: the loop and the
remainder fill it with the encoding of the rest. -/
theorem encodeLoop_remainder (rest : Bytes) : ∀ (pre done : Bytes), pre.length % 3 = 0 →
    (encodeLoop (pre ++ rest) pre.length done.length
      (done ++ newBytes (4 * ((rest.length + 2) / 3))) >>= fun (i, j, result) =>
        encodeRemainder (pre ++ rest) i j result) = .ok (done ++ Base64.encode rest) := by
  induction rest using Base64.encode.induct with
  | case1 =>
      intro pre done hpre
      have hend : ¬ pre.length + 2 < (pre ++ ([] : Bytes)).length := by
        rw [List.append_nil]
        omega
      rw [encodeLoop, if_neg hend]
      simp [bind, Except.bind, encodeRemainder, hpre, newBytes, Base64.encode]
  | case2 a =>
      intro pre done hpre
      have ha := a.toNat_lt
      have hend : ¬ pre.length + 2 < (pre ++ [a]).length := by
        rw [List.length_append, List.length_singleton]
        omega
      have hmod : (pre ++ [a]).length % 3 = 1 := by
        rw [List.length_append, List.length_singleton]
        omega
      have hlen : newBytes (4 * (([a].length + 2) / 3)) = [0, 0, 0, 0] := by
        rw [List.length_singleton]
        rfl
      have h₀ := putDigit_at done [] 0 [0, 0, 0] (a.toNat <<< 16 >>> 18) (a.toNat / 4)
        (by rw [Nat.shiftLeft_eq, Nat.shiftRight_eq_div_pow]; omega)
      have h₁ := putDigit_at done [Base64.encodeDigit (a.toNat / 4)] 0 [0, 0]
        (a.toNat <<< 16 >>> 12) (a.toNat % 4 * 16)
        (by rw [Nat.shiftLeft_eq, Nat.shiftRight_eq_div_pow]; omega)
      have h₂ := store_at done [Base64.encodeDigit (a.toNat / 4),
        Base64.encodeDigit (a.toNat % 4 * 16)] 0 0x3d [0]
      have h₃ := store_at done [Base64.encodeDigit (a.toNat / 4),
        Base64.encodeDigit (a.toNat % 4 * 16), 0x3d] 0 0x3d []
      rw [encodeLoop, if_neg hend, hlen]
      simp only [List.length_nil, List.length_cons, Nat.add_zero, Nat.zero_add, Nat.reduceAdd,
        List.nil_append, List.cons_append] at h₀ h₁ h₂ h₃
      simp only [bind, Except.bind, encodeRemainder, hmod, if_true, load_append pre a [] _ rfl, h₀, h₁,
        h₂, h₃, Base64.encode, Base64.pad]
  | case3 a b =>
      intro pre done hpre
      have ha := a.toNat_lt
      have hb := b.toNat_lt
      have hend : ¬ pre.length + 2 < (pre ++ [a, b]).length := by
        simp only [List.length_append, List.length_cons, List.length_nil]
        omega
      have hmod : (pre ++ [a, b]).length % 3 = 2 := by
        simp only [List.length_append, List.length_cons, List.length_nil]
        omega
      have hne : ¬ (2 : Nat) = 1 := by decide
      have hlen : newBytes (4 * (([a, b].length + 2) / 3)) = [0, 0, 0, 0] := by
        simp only [List.length_cons, List.length_nil]
        rfl
      have htriple : a.toNat <<< 16 ||| b.toNat <<< 8 = a.toNat * 65536 + b.toNat * 256 := by
        simpa using triple_eq (a := a.toNat) (b := b.toNat) (c := 0) (by omega) (by omega)
      have h₀ := putDigit_at done [] 0 [0, 0, 0] ((a.toNat * 65536 + b.toNat * 256) >>> 18)
        (a.toNat / 4) (by rw [Nat.shiftRight_eq_div_pow]; omega)
      have h₁ := putDigit_at done [Base64.encodeDigit (a.toNat / 4)] 0 [0, 0]
        ((a.toNat * 65536 + b.toNat * 256) >>> 12) (a.toNat % 4 * 16 + b.toNat / 16)
        (by rw [Nat.shiftRight_eq_div_pow]; omega)
      have h₂ := putDigit_at done [Base64.encodeDigit (a.toNat / 4),
        Base64.encodeDigit (a.toNat % 4 * 16 + b.toNat / 16)] 0 [0]
        ((a.toNat * 65536 + b.toNat * 256) >>> 6) (b.toNat % 16 * 4)
        (by rw [Nat.shiftRight_eq_div_pow]; omega)
      have h₃ := store_at done [Base64.encodeDigit (a.toNat / 4),
        Base64.encodeDigit (a.toNat % 4 * 16 + b.toNat / 16),
        Base64.encodeDigit (b.toNat % 16 * 4)] 0 0x3d []
      have hb₁ : load (pre ++ [a, b]) (pre.length + 1) = .ok b := by
        rw [← load_append (pre ++ [a]) b [] (pre.length + 1) (by simp)]
        simp
      rw [encodeLoop, if_neg hend, hlen]
      simp only [List.length_nil, List.length_cons, Nat.add_zero, Nat.zero_add, Nat.reduceAdd,
        List.nil_append, List.cons_append] at h₀ h₁ h₂ h₃
      simp only [bind, Except.bind, encodeRemainder, hmod, if_neg hne, if_true,
        load_append pre a [b] _ rfl, hb₁, htriple, h₀, h₁, h₂, h₃, Base64.encode, Base64.pad]
  | case4 a b c rest ih =>
      intro pre done hpre
      have ha := a.toNat_lt
      have hb := b.toNat_lt
      have hc := c.toNat_lt
      have hstep : pre.length + 2 < (pre ++ a :: b :: c :: rest).length := by
        simp only [List.length_append, List.length_cons]
        omega
      have hlen : newBytes (4 * (((a :: b :: c :: rest).length + 2) / 3)) =
          0 :: 0 :: 0 :: 0 :: newBytes (4 * ((rest.length + 2) / 3)) := by
        rw [← newBytes_four]
        simp only [List.length_cons]
        congr 2
        omega
      have hb₁ : load (pre ++ a :: b :: c :: rest) (pre.length + 1) = .ok b := by
        rw [← load_append (pre ++ [a]) b (c :: rest) (pre.length + 1) (by simp)]
        simp
      have hc₂ : load (pre ++ a :: b :: c :: rest) (pre.length + 2) = .ok c := by
        rw [← load_append (pre ++ [a, b]) c rest (pre.length + 2) (by simp)]
        simp
      have htriple := triple_eq (a := a.toNat) hb hc
      generalize hzs : newBytes (4 * ((rest.length + 2) / 3)) = zs at hlen ih
      have h₀ := putDigit_at done [] 0 (0 :: 0 :: 0 :: zs)
        ((a.toNat * 65536 + b.toNat * 256 + c.toNat) >>> 18)
        (a.toNat / 4) (by rw [Nat.shiftRight_eq_div_pow]; omega)
      have h₁ := putDigit_at done [Base64.encodeDigit (a.toNat / 4)] 0 (0 :: 0 :: zs)
        ((a.toNat * 65536 + b.toNat * 256 + c.toNat) >>> 12) (a.toNat % 4 * 16 + b.toNat / 16)
        (by rw [Nat.shiftRight_eq_div_pow]; omega)
      have h₂ := putDigit_at done [Base64.encodeDigit (a.toNat / 4),
        Base64.encodeDigit (a.toNat % 4 * 16 + b.toNat / 16)] 0 (0 :: zs)
        ((a.toNat * 65536 + b.toNat * 256 + c.toNat) >>> 6) (b.toNat % 16 * 4 + c.toNat / 64)
        (by rw [Nat.shiftRight_eq_div_pow]; omega)
      have h₃ := putDigit_at done [Base64.encodeDigit (a.toNat / 4),
        Base64.encodeDigit (a.toNat % 4 * 16 + b.toNat / 16),
        Base64.encodeDigit (b.toNat % 16 * 4 + c.toNat / 64)] 0 zs
        (a.toNat * 65536 + b.toNat * 256 + c.toNat) (c.toNat % 64) (by omega)
      simp only [List.length_nil, List.length_cons, Nat.add_zero, Nat.zero_add, Nat.reduceAdd,
        List.nil_append, List.cons_append] at h₀ h₁ h₂ h₃
      have hnext := ih (pre ++ [a, b, c]) (done ++ [Base64.encodeDigit (a.toNat / 4),
        Base64.encodeDigit (a.toNat % 4 * 16 + b.toNat / 16),
        Base64.encodeDigit (b.toNat % 16 * 4 + c.toNat / 64), Base64.encodeDigit (c.toNat % 64)])
        (by simp only [List.length_append, List.length_cons, List.length_nil]; omega)
      simp only [List.length_append, List.length_cons, List.length_nil, Nat.zero_add, Nat.reduceAdd,
        List.append_assoc, List.cons_append, List.nil_append] at hnext
      rw [encodeLoop, if_pos hstep, hlen]
      simp only [bind, Except.bind, load_append pre a (b :: c :: rest) _ rfl, hb₁, hc₂, htriple, h₀, h₁,
        h₂, h₃, Base64.encode, List.cons_append, List.nil_append] at hnext ⊢
      exact hnext

/-- The encoder never reverts and computes base64. -/
theorem base64Encode_eq (data : Bytes) : base64Encode data = .ok (Base64.encode data) := by
  unfold base64Encode
  split
  case isTrue hempty => rw [List.length_eq_zero_iff.1 hempty, Base64.encode]
  case isFalse hne =>
    have h := encodeLoop_remainder data [] [] rfl
    simpa only [List.nil_append, List.length_nil] using h

/-- A position of the array that was never written would still hold zero. -/
theorem encode_ne_zero (data : Bytes) : ∀ b ∈ Base64.encode data, b ≠ 0 := by
  intro b hb hzero
  have hascii := (Base64.encode_ascii data b hb).1
  rw [hzero] at hascii
  exact absurd hascii (by decide)

/-! ## Decimal numbers -/

/-- The first loop of `toString`: `digits` after it. -/
def countDigits (temp digits : Nat) : Nat :=
  if temp = 0 then digits else countDigits (temp / 10) (digits + 1)

/-- The second loop of `toString`. -/
def fillDigits (value digits : Nat) (buffer : Bytes) : Exec Bytes :=
  if value = 0 then .ok buffer
  else do
    let digits ← checkedSub digits 1
    let buffer ← store buffer digits (UInt8.ofNat (48 + value % 10))
    fillDigits (value / 10) digits buffer

def toString (value : Nat) : Exec Bytes :=
  if value = 0 then .ok (bytes "0")
  else
    let digits := countDigits value 0
    fillDigits value digits (newBytes digits)

/-- `absVal` is `negative ? uint256(-value) : uint256(value)`. -/
def toIntString (value : Int256) : Exec Bytes :=
  if value.val = 0 then .ok (bytes "0")
  else do
    let negative := decide (value.val < 0)
    let absVal ← if negative then (checkedNeg value).map (·.val.toNat) else .ok value.val.toNat
    let numStr ← toString absVal
    if negative then .ok (bytes "-" ++ numStr) else .ok numStr

/-- The two hexadecimal digits of a colour channel. -/
def toColorString (value : Nat) : Exec Bytes := do
  let value := if value > 255 then 255 else value
  let hexChars := bytes "0123456789abcdef"
  let hi ← load hexChars (value >>> 4)
  let result ← store (newBytes 2) 0 hi
  let lo ← load hexChars (value &&& 0xf)
  store result 1 lo

/-- The canonical decimal text of a natural number. -/
def decimal (n : Nat) : Bytes := bytes n.repr

/-- The canonical decimal text of an integer. -/
def decimalInt (v : Int) : Bytes := bytes v.repr

def digitByte (d : Nat) : UInt8 := UInt8.ofNat (48 + d)

theorem decimal_eq (n : Nat) : decimal n = (Nat.toDigits 10 n).flatMap String.utf8EncodeChar := by
  rw [decimal, bytes_eq]
  simp [Nat.repr]

theorem digitChar_bytes {d : Nat} (h : d < 10) :
    String.utf8EncodeChar (Nat.digitChar d) = [digitByte d] := by
  have hall : ∀ d : Fin 10, String.utf8EncodeChar (Nat.digitChar d) = [digitByte d] := by decide
  exact hall ⟨d, h⟩

theorem decimal_digit {n : Nat} (h : n < 10) : decimal n = [digitByte n] := by
  rw [decimal_eq, Nat.toDigits_of_lt_base h, List.flatMap_singleton, digitChar_bytes h]

theorem decimal_step {n : Nat} (h : 10 ≤ n) : decimal n = decimal (n / 10) ++ [digitByte (n % 10)] := by
  have hdigits := Nat.toDigits_append_toDigits (b := 10) (n := n / 10) (d := n % 10) (by decide)
    (by omega) (by omega)
  rw [Nat.div_add_mod, Nat.toDigits_of_lt_base (Nat.mod_lt n (by decide))] at hdigits
  rw [decimal_eq, decimal_eq, ← hdigits, List.flatMap_append, List.flatMap_singleton,
    digitChar_bytes (Nat.mod_lt n (by decide))]

/-- The first loop counts the digits of the text. -/
theorem countDigits_eq (n : Nat) : ∀ k, n ≠ 0 → countDigits n k = k + (decimal n).length := by
  induction n using Nat.strong_induction_on with
  | _ n ih =>
      intro k hn
      rw [countDigits, if_neg hn]
      by_cases hlt : n < 10
      · rw [show n / 10 = 0 by omega, countDigits, if_pos rfl, decimal_digit hlt, List.length_singleton]
      · rw [ih (n / 10) (by omega) (k + 1) (by omega), decimal_step (Nat.not_lt.1 hlt),
          List.length_append, List.length_singleton]
        omega

/-- Writing the last free position of the array. -/
theorem store_last (k : Nat) (written : Bytes) (b : UInt8) :
    store (newBytes (k + 1) ++ written) k b = .ok (newBytes k ++ b :: written) := by
  have hsplit : newBytes (k + 1) ++ written = newBytes k ++ (0 : UInt8) :: written := by
    rw [newBytes, newBytes, List.replicate_succ', List.append_assoc, List.singleton_append]
  rw [hsplit]
  exact store_append (newBytes k) 0 b written k (by rw [newBytes, List.length_replicate])

/-- The second loop writes the digits from the last one on; `digits` positions are still free. -/
theorem fillDigits_eq (n : Nat) : ∀ written, n ≠ 0 →
    fillDigits n (decimal n).length (newBytes (decimal n).length ++ written) =
      .ok (decimal n ++ written) := by
  induction n using Nat.strong_induction_on with
  | _ n ih =>
      intro written hn
      rw [fillDigits, if_neg hn]
      by_cases hlt : n < 10
      · have hstore := store_last 0 written (UInt8.ofNat (48 + n % 10))
        have hmod : n % 10 = n := Nat.mod_eq_of_lt hlt
        rw [decimal_digit hlt, show n / 10 = 0 by omega]
        rw [List.length_singleton]
        simp only [checkedSub, le_refl, if_true, Nat.sub_self, bind, Except.bind, hstore]
        rw [fillDigits, if_pos rfl, hmod]
        rfl
      · have hstore := store_last (decimal (n / 10)).length written (UInt8.ofNat (48 + n % 10))
        have hnext := ih (n / 10) (by omega) (digitByte (n % 10) :: written) (by omega)
        rw [decimal_step (Nat.not_lt.1 hlt), List.length_append, List.length_singleton]
        simp only [checkedSub, Nat.le_add_left, if_true, Nat.add_sub_cancel, bind, Except.bind, hstore]
        rw [List.append_assoc]
        exact hnext

/-- `toString` never reverts and writes the canonical decimal text. -/
theorem toString_eq (n : Nat) : toString n = .ok (decimal n) := by
  unfold toString
  split
  case isTrue hzero =>
    rw [hzero]
    rfl
  case isFalse hne =>
    have h := fillDigits_eq n [] hne
    dsimp only
    rw [countDigits_eq n 0 hne, Nat.zero_add]
    simpa only [List.append_nil] using h

theorem decimalInt_neg {v : Int} (h : v < 0) : decimalInt v = bytes "-" ++ decimal (-v).toNat := by
  obtain ⟨m, rfl⟩ := Int.eq_negSucc_of_lt_zero h
  rw [decimalInt, decimal, ← bytes_append]
  rfl

theorem decimalInt_nonneg {v : Int} (h : 0 ≤ v) : decimalInt v = decimal v.toNat := by
  obtain ⟨m, rfl⟩ := Int.eq_ofNat_of_zero_le h
  rfl

/-- Only the number without an opposite reverts: `-value` overflows before the text is built. -/
theorem toIntString_eq (v : Int256) :
    toIntString v = if v.val = -2 ^ 255 then .error .panic else .ok (decimalInt v) := by
  have hlow := v.property.1
  unfold toIntString
  by_cases hzero : v.val = 0
  · rw [if_pos hzero, if_neg (by omega), hzero]
    rfl
  · rw [if_neg hzero]
    by_cases hneg : v.val < 0
    · by_cases hmin : v.val = -2 ^ 255
      · have hfit : ¬ -v.val < 2 ^ 255 := by omega
        have hpanic : checkedNeg v = .error .panic := by rw [checkedNeg, dif_neg hfit]
        rw [if_pos hmin]
        simp only [hneg, decide_true, if_true, hpanic]
        rfl
      · have hfit : -v.val < 2 ^ 255 := by omega
        rw [if_neg hmin, decimalInt_neg hneg]
        simp only [hneg, decide_true, if_true, checkedNeg, dif_pos hfit, Except.map, bind, Except.bind,
          toString_eq]
    · have hmin : ¬ v.val = -2 ^ 255 := by omega
      rw [if_neg hmin, decimalInt_nonneg (Int.not_lt.1 hneg)]
      simp only [hneg, decide_false, Bool.false_eq_true, if_false, bind, Except.bind, toString_eq]

/-! ## The encoders together -/

/-- What the encoders promise about one byte string, one `uint256` and one `int256`. -/
structure Exact (data : Bytes) (u : Nat) (v : Int256) : Prop where
  base64 : ∃ text, base64Encode data = .ok text ∧ Base64.decode text = some data ∧
    text.length = 4 * ((data.length + 2) / 3) ∧ ∀ b ∈ text, b ≠ 0
  uint : toString u = .ok (decimal u)
  int : toIntString v = .ok (decimalInt v)

theorem exact_iff_ne_min (data : Bytes) (u : Nat) (v : Int256) :
    Exact data u v ↔ v.val ≠ -2 ^ 255 := by
  constructor
  · intro hexact hmin
    have hrev := hexact.int
    rw [toIntString_eq, if_pos hmin] at hrev
    cases hrev
  · intro hne
    refine ⟨⟨Base64.encode data, base64Encode_eq data, Base64.decode_encode data,
      Base64.encode_length data, encode_ne_zero data⟩, toString_eq u, ?_⟩
    rw [toIntString_eq, if_neg hne]

/-- The smallest `int256`. -/
def minInt256 : Int256 := ⟨-2 ^ 255, by decide, by decide⟩

theorem toIntString_min_reverts :
    ¬ ∀ (data : Bytes) (u : Nat) (v : Int256), Exact data u v := by
  intro hall
  have hrev := (hall [] 0 minInt256).int
  have hpanic : toIntString minInt256 = .error .panic := by
    have hmin : minInt256.val = -2 ^ 255 := rfl
    rw [toIntString_eq, if_pos hmin]
  rw [hpanic] at hrev
  cases hrev

end LesserHost.SoulSVGUtils
