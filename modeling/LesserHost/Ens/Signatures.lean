import LesserHost.Lib.Abi
import Mathlib.Data.Nat.Digits.Lemmas

set_option autoImplicit false

/-! # Compact signatures

`ens_gateway_signer.go`: the gateway signs with 64 bytes, the parity of the signature in the top bit of `s`.
The bit is free because `s` is at most half the order of the curve; a signature with a larger `s` is refused,
and the signer that is handed one by the key service takes `n - s` instead and looks for the parity anew. -/

namespace LesserHost.Ens

open EIP712 (Bytes)

/-! ## The conversions -/

/-- The order of secp256k1. -/
def curveN : Nat := 0xfffffffffffffffffffffffffffffffebaaedce6af48a03bbfd25e8cd0364141

def halfN : Nat := curveN / 2

/-- `new(big.Int).SetBytes` -/
def SetBytes (b : Bytes) : Nat := Abi.ofWord b

def setTop : Bytes → Bytes
  | [] => []
  | b :: rest => (b ||| 0x80) :: rest

def clearTop : Bytes → Bytes
  | [] => []
  | b :: rest => (b &&& 0x7f) :: rest

def topSet (b : Bytes) : Bool := b.head?.any fun top => top &&& 0x80 != 0

/-- The parity is also written as 27 or 28. -/
def parity (v : UInt8) : UInt8 := if v = 27 ∨ v = 28 then v - 27 else v

def sig65ToCompact (sig65 : Bytes) : Except String Bytes :=
  if sig65.length ≠ 65 then .error "ens gateway signer: invalid signature length"
  else
    let v := parity (sig65.getD 64 0)
    let s := (sig65.drop 32).take 32
    if v ≠ 0 ∧ v ≠ 1 then .error "ens gateway signer: invalid signature recovery id"
    else if SetBytes s ≤ 0 ∨ halfN < SetBytes s then
      .error "ens gateway signer: non-canonical signature (high-s)"
    else .ok (sig65.take 32 ++ if v = 1 then setTop s else s)

def compactToSig65 (compact : Bytes) : Except String Bytes :=
  if compact.length ≠ 64 then .error "ens gateway signer: invalid compact signature length"
  else
    let vs := compact.drop 32
    if topSet vs then .ok (compact.take 32 ++ clearTop vs ++ [1])
    else .ok (compact.take 32 ++ vs ++ [0])

/-! ## The top bit -/

theorem topBit : ∀ n : Fin 256, (n < 128 → (UInt8.ofFin n ||| 0x80) &&& 0x80 ≠ 0 ∧
    (UInt8.ofFin n ||| 0x80) &&& 0x7f = UInt8.ofFin n ∧ UInt8.ofFin n &&& 0x80 = 0) ∧
    (UInt8.ofFin n &&& 0x80 ≠ 0 → (UInt8.ofFin n &&& 0x7f) ||| 0x80 = UInt8.ofFin n) := by
  decide +kernel

section TopBit

variable {b : UInt8} {rest s : Bytes}

theorem topSet_setTop (h : b.toNat < 128) : topSet (setTop (b :: rest)) = true := by
  have hbit := ((topBit b.toFin).1 h).1
  rw [setTop, topSet, List.head?_cons, Option.any_some, bne_iff_ne]
  exact hbit

theorem clearTop_setTop (h : b.toNat < 128) : clearTop (setTop (b :: rest)) = b :: rest := by
  have hbit := ((topBit b.toFin).1 h).2.1
  exact congrArg (· :: rest) hbit

theorem topSet_low (h : b.toNat < 128) : topSet (b :: rest) = false := by
  have hbit := ((topBit b.toFin).1 h).2.2
  rw [topSet, List.head?_cons, Option.any_some, bne_eq_false_iff_eq]
  exact hbit

theorem setTop_clearTop (h : topSet s = true) : setTop (clearTop s) = s := by
  cases s with
  | nil => rfl
  | cons b rest =>
      rw [topSet, List.head?_cons, Option.any_some, bne_iff_ne] at h
      exact congrArg (· :: rest) ((topBit b.toFin).2 h)

@[simp] theorem length_setTop (s : Bytes) : (setTop s).length = s.length := by
  cases s <;> rfl

@[simp] theorem length_clearTop (s : Bytes) : (clearTop s).length = s.length := by
  cases s <;> rfl

theorem ofDigits_append (d : List Nat) (init : Nat) :
    d.foldl (fun v d => 256 * v + d) init = init * 256 ^ d.length + EIP712.ofDigits 256 d := by
  induction d generalizing init with
  | nil => simp [EIP712.ofDigits]
  | cons a d ih =>
      rw [EIP712.ofDigits, List.foldl_cons, List.foldl_cons, ih, ih (256 * 0 + a), List.length_cons]
      ring

/-- A number below 2^255 leaves the top bit free. -/
theorem head_lt (hlength : (b :: rest).length = 32) (hs : SetBytes (b :: rest) < 2 ^ 255) :
    b.toNat < 128 := by
  have hvalue : SetBytes (b :: rest) = b.toNat * 256 ^ 31 + EIP712.ofDigits 256 (rest.map UInt8.toNat) := by
    have hrest : (rest.map UInt8.toNat).length = 31 := by
      rw [List.length_map]
      exact Nat.succ.inj hlength
    rw [SetBytes, Abi.ofWord, List.map_cons, EIP712.ofDigits, List.foldl_cons, ofDigits_append, hrest]
    simp only [Nat.mul_zero, Nat.zero_add]
  by_contra hlarge
  have hmul : 128 * 256 ^ 31 ≤ b.toNat * 256 ^ 31 := Nat.mul_le_mul_right _ (not_lt.1 hlarge)
  have hpow : (2 : Nat) ^ 255 = 128 * 256 ^ 31 := by decide
  omega

end TopBit

/-! ## Both ways -/

/-- `s` is in the lower half, and not zero. -/
def Low (s : Bytes) : Prop := 0 < SetBytes s ∧ SetBytes s ≤ halfN

/-- The four numbers that a parity is written as. -/
def IsParity (v : UInt8) : Prop := v = 0 ∨ v = 1 ∨ v = 27 ∨ v = 28

theorem IsParity.cases {v : UInt8} (h : IsParity v) : parity v = 0 ∨ parity v = 1 := by
  rcases h with rfl | rfl | rfl | rfl
  · exact .inl rfl
  · exact .inr rfl
  · exact .inl rfl
  · exact .inr rfl

theorem isParity_iff {v : UInt8} : IsParity v ↔ ¬ (parity v ≠ 0 ∧ parity v ≠ 1) := by
  refine ⟨fun h => ?_, fun h => ?_⟩
  · rcases h.cases with h | h <;> simp [h]
  · by_cases hlate : v = 27 ∨ v = 28
    · exact .inr (.inr hlate)
    · rw [parity, if_neg hlate] at h
      rcases Decidable.not_and_iff_not_or_not.1 h with h | h
      · exact .inl (not_not.1 h)
      · exact .inr (.inl (not_not.1 h))

section Parts

variable {r s : Bytes} {v : UInt8}

/-- Every 65 bytes are `r`, `s` and `v`. -/
theorem exists_parts {sig : Bytes} (h : sig.length = 65) :
    ∃ r s v, sig = r ++ s ++ [v] ∧ r.length = 32 ∧ s.length = 32 := by
  have hend : sig.drop 64 ≠ [] := by
    intro hnil
    have := congrArg List.length hnil
    rw [List.length_drop, h] at this
    exact absurd this (by decide)
  obtain ⟨v, rest, hv⟩ := List.exists_cons_of_ne_nil hend
  have hrest : rest = [] := by
    have hlength := congrArg List.length hv
    rw [List.length_drop, h, List.length_cons] at hlength
    exact List.eq_nil_of_length_eq_zero (by omega)
  refine ⟨sig.take 32, (sig.drop 32).take 32, v, ?_, ?_, ?_⟩
  · have hmiddle : (sig.drop 32).drop 32 = [v] := by rw [List.drop_drop, hv, hrest]
    rw [List.append_assoc, ← hmiddle, List.take_append_drop, List.take_append_drop]
  · rw [List.length_take, h]
    decide
  · rw [List.length_take, List.length_drop, h]
    decide

/-- What the conversion does with the parts. -/
theorem sig65ToCompact_parts (hr : r.length = 32) (hs : s.length = 32) :
    sig65ToCompact (r ++ s ++ [v]) =
      if parity v ≠ 0 ∧ parity v ≠ 1 then .error "ens gateway signer: invalid signature recovery id"
      else if SetBytes s ≤ 0 ∨ halfN < SetBytes s then
        .error "ens gateway signer: non-canonical signature (high-s)"
      else .ok (r ++ if parity v = 1 then setTop s else s) := by
  have hlength : ¬ (r ++ s ++ [v]).length ≠ 65 := by
    simp only [List.length_append, hr, hs, List.length_cons, List.length_nil]
    decide
  have hv : (r ++ s ++ [v]).getD 64 0 = v := by
    have hplace : (r ++ s).length = 64 := by rw [List.length_append, hr, hs]
    rw [List.getD_eq_getElem?_getD, ← hplace, List.getElem?_concat_length, Option.getD_some]
  have htake : (r ++ s ++ [v]).take 32 = r := by
    rw [List.append_assoc, List.take_left' hr]
  have hmiddle : ((r ++ s ++ [v]).drop 32).take 32 = s := by
    rw [List.append_assoc, List.drop_left' hr, List.take_left' hs]
  simp only [sig65ToCompact, if_neg hlength, hv, htake, hmiddle]

theorem compactToSig65_parts (hr : r.length = 32) (hs : s.length = 32) :
    compactToSig65 (r ++ s) =
      if topSet s then .ok (r ++ clearTop s ++ [1]) else .ok (r ++ s ++ [0]) := by
  have hlength : ¬ (r ++ s).length ≠ 64 := by
    rw [List.length_append, hr, hs]
    decide
  simp only [compactToSig65, if_neg hlength, List.drop_left' hr, List.take_left' hr]

theorem Low.lt (h : Low s) : SetBytes s < 2 ^ 255 := lt_of_le_of_lt h.2 (by decide)

theorem compact_ok (hr : r.length = 32) (hs : s.length = 32) (hv : IsParity v) (hlow : Low s) :
    sig65ToCompact (r ++ s ++ [v]) = .ok (r ++ if parity v = 1 then setTop s else s) := by
  rw [sig65ToCompact_parts hr hs, if_neg (isParity_iff.1 hv), if_neg]
  rw [not_or, not_le, not_lt]
  exact hlow

/-- What was made compact is expanded to the same `r` and `s`, the parity 0 or 1. -/
theorem compactToSig65_compact (hr : r.length = 32) (hs : s.length = 32) (hv : IsParity v)
    (hlow : Low s) :
    compactToSig65 (r ++ if parity v = 1 then setTop s else s) = .ok (r ++ s ++ [parity v]) := by
  cases s with
  | nil => exact absurd hs (by decide)
  | cons b rest =>
      have htop := head_lt hs hlow.lt
      rcases hv.cases with hzero | hone
      · rw [hzero, if_neg (by decide), compactToSig65_parts hr hs, topSet_low htop, if_neg (by decide)]
      · rw [hone, if_pos rfl, compactToSig65_parts hr (by rw [length_setTop, hs]), topSet_setTop htop,
          if_pos rfl, clearTop_setTop htop]

end Parts

/-! ## What is accepted -/

def rOf (sig : Bytes) : Bytes := sig.take 32

def sOf (sig : Bytes) : Bytes := (sig.drop 32).take 32

def vOf (sig : Bytes) : UInt8 := sig.getD 64 0

/-- A signature as the conversions leave it. -/
structure Normalised (sig : Bytes) : Prop where
  length : sig.length = 65
  bit : vOf sig = 0 ∨ vOf sig = 1
  low : Low (sOf sig)

section Whole

variable {r s sig c : Bytes} {v : UInt8}

theorem parts_eq (hr : r.length = 32) (hs : s.length = 32) :
    rOf (r ++ s ++ [v]) = r ∧ sOf (r ++ s ++ [v]) = s ∧ vOf (r ++ s ++ [v]) = v := by
  refine ⟨?_, ?_, ?_⟩
  · rw [rOf, List.append_assoc, List.take_left' hr]
  · rw [sOf, List.append_assoc, List.drop_left' hr, List.take_left' hs]
  · have hplace : (r ++ s).length = 64 := by rw [List.length_append, hr, hs]
    rw [vOf, List.getD_eq_getElem?_getD, ← hplace, List.getElem?_concat_length, Option.getD_some]

theorem normalised_parts (hr : r.length = 32) (hs : s.length = 32) (hv : v = 0 ∨ v = 1) (hlow : Low s) :
    Normalised (r ++ s ++ [v]) := by
  obtain ⟨-, hsOf, hvOf⟩ := parts_eq (v := v) hr hs
  refine ⟨?_, hvOf.symm ▸ hv, hsOf.symm ▸ hlow⟩
  rw [List.length_append, List.length_append, hr, hs, List.length_singleton]

theorem parity_of_bit (hv : v = 0 ∨ v = 1) : IsParity v ∧ parity v = v := by
  rcases hv with rfl | rfl
  · exact ⟨.inl rfl, rfl⟩
  · exact ⟨.inr (.inl rfl), rfl⟩

theorem sig65ToCompact_length (h : sig65ToCompact sig = .ok c) : sig.length = 65 := by
  rw [sig65ToCompact] at h
  split_ifs at h with hlength
  exact not_not.1 hlength

/-- Another length, another parity or an `s` that is not low is refused, and nothing else. -/
theorem sig65ToCompact_iff :
    (∃ c, sig65ToCompact sig = .ok c) ↔ sig.length = 65 ∧ IsParity (vOf sig) ∧ Low (sOf sig) := by
  constructor
  · rintro ⟨c, h⟩
    have hlength := sig65ToCompact_length h
    obtain ⟨r, s, v, rfl, hr, hs⟩ := exists_parts hlength
    obtain ⟨-, hsOf, hvOf⟩ := parts_eq (v := v) hr hs
    rw [sig65ToCompact_parts hr hs] at h
    split_ifs at h with hparity hlow
    · rw [not_or, not_le, not_lt] at hlow
      exact ⟨hlength, hvOf.symm ▸ isParity_iff.2 hparity, hsOf.symm ▸ hlow⟩
    · rw [not_or, not_le, not_lt] at hlow
      exact ⟨hlength, hvOf.symm ▸ isParity_iff.2 hparity, hsOf.symm ▸ hlow⟩
  · rintro ⟨hlength, hv, hlow⟩
    obtain ⟨r, s, v, rfl, hr, hs⟩ := exists_parts hlength
    obtain ⟨-, hsOf, hvOf⟩ := parts_eq (v := v) hr hs
    exact ⟨_, compact_ok hr hs (hvOf ▸ hv) (hsOf ▸ hlow)⟩

theorem compactToSig65_iff : (∃ sig, compactToSig65 c = .ok sig) ↔ c.length = 64 := by
  by_cases hlength : c.length = 64
  · by_cases htop : topSet (c.drop 32) = true
    · exact iff_of_true ⟨_, by rw [compactToSig65, if_neg (not_not.2 hlength), if_pos htop]⟩ hlength
    · exact iff_of_true ⟨_, by rw [compactToSig65, if_neg (not_not.2 hlength), if_neg htop]⟩ hlength
  · refine iff_of_false ?_ hlength
    rintro ⟨sig, h⟩
    rw [compactToSig65, if_pos hlength] at h
    cases h

theorem compactToSig65_sig65ToCompact (h : sig65ToCompact sig = .ok c) :
    compactToSig65 c = .ok (rOf sig ++ sOf sig ++ [parity (vOf sig)]) ∧
      Normalised (rOf sig ++ sOf sig ++ [parity (vOf sig)]) := by
  obtain ⟨hlength, hv, hlow⟩ := sig65ToCompact_iff.1 ⟨c, h⟩
  obtain ⟨r, s, v, rfl, hr, hs⟩ := exists_parts hlength
  obtain ⟨hrOf, hsOf, hvOf⟩ := parts_eq (v := v) hr hs
  rw [hrOf, hsOf, hvOf]
  rw [hsOf] at hlow
  rw [hvOf] at hv
  have hc : c = r ++ if parity v = 1 then setTop s else s :=
    (Except.ok.inj (h.symm.trans (compact_ok hr hs hv hlow)))
  exact ⟨hc ▸ compactToSig65_compact hr hs hv hlow, normalised_parts hr hs hv.cases hlow⟩

/-- On normalised signatures each conversion undoes the other. -/
theorem Normalised.inverse (hsig : Normalised sig) :
    sig65ToCompact sig = .ok c ↔ compactToSig65 c = .ok sig := by
  obtain ⟨r, s, v, rfl, hr, hs⟩ := exists_parts hsig.length
  obtain ⟨hrOf, hsOf, hvOf⟩ := parts_eq (v := v) hr hs
  have hbit := parity_of_bit (hvOf ▸ hsig.bit)
  have hlow : Low s := hsOf ▸ hsig.low
  constructor
  · intro h
    have hback := (compactToSig65_sig65ToCompact h).1
    rwa [hrOf, hsOf, hvOf, hbit.2] at hback
  · intro h
    have hlength := compactToSig65_iff.1 ⟨_, h⟩
    have hparts : c = c.take 32 ++ c.drop 32 := (List.take_append_drop 32 c).symm
    have hr' : (c.take 32).length = 32 := by
      rw [List.length_take, hlength]
      decide
    have hs' : (c.drop 32).length = 32 := by rw [List.length_drop, hlength]
    rw [hparts, compactToSig65_parts hr' hs'] at h
    rw [compact_ok hr hs hbit.1 hlow, hbit.2]
    split_ifs at h with htop
    · have heq := Except.ok.inj h
      have hclear : (clearTop (c.drop 32)).length = 32 := by rw [length_clearTop, hs']
      obtain ⟨hrOf', hsOf', hvOf'⟩ := parts_eq (v := 1) hr' hclear
      rw [heq] at hrOf' hsOf' hvOf'
      rw [hrOf] at hrOf'
      rw [hsOf] at hsOf'
      rw [hvOf] at hvOf'
      rw [hvOf', if_pos rfl, hrOf', hsOf', setTop_clearTop htop, ← hparts]
    · have heq := Except.ok.inj h
      obtain ⟨hrOf', hsOf', hvOf'⟩ := parts_eq (v := 0) hr' hs'
      rw [heq] at hrOf' hsOf' hvOf'
      rw [hrOf] at hrOf'
      rw [hsOf] at hsOf'
      rw [hvOf] at hvOf'
      rw [hvOf', if_neg (by decide), hrOf', hsOf', ← hparts]

end Whole

/-! ## Signatures of the key service -/

/-- `big.Int.Bytes` -/
def bigBytes (n : Int) : Bytes := (Nat.digits 256 n.natAbs).reverse.map UInt8.ofNat

def leftPad32 (b : Bytes) : Bytes :=
  if b.length = 32 then b
  else if 32 < b.length then b.drop (b.length - 32)
  else List.replicate (32 - b.length) 0 ++ b

/-- `s`, or what is left of the order where `s` is more than half of it. -/
def lowS (sigS : Int) : Int := if (halfN : Int) < sigS then curveN - sigS else sigS

/-- The parity is found by recovering the signer for each of the two. -/
def signatureToCompactWithRecovery {Address : Type} [DecidableEq Address]
    (SigToAddress : Bytes → Bytes → Option Address) (digest : Bytes) (r sigS : Option Int)
    (expected : Address) : Except String Bytes :=
  match r, sigS with
  | some r, some sigS =>
      let rb := leftPad32 (bigBytes r)
      let sb := leftPad32 (bigBytes (lowS sigS))
      match [0, 1].find? fun v => SigToAddress digest (rb ++ sb ++ [v]) == some expected with
      | none => .error "ens gateway signer: failed to recover signature"
      | some v => sig65ToCompact (rb ++ sb ++ [v])
  | _, _ => .error "ens gateway signer: invalid signature"

theorem length_leftPad32 (b : Bytes) : (leftPad32 b).length = 32 := by
  rw [leftPad32]
  split_ifs with h h'
  · exact h
  · rw [List.length_drop]
    omega
  · rw [List.length_append, List.length_replicate]
    omega

theorem SetBytes_bigBytes (n : Nat) : SetBytes (bigBytes n) = n := by
  have hvalues : (bigBytes n).map UInt8.toNat = (Nat.digits 256 n).reverse := by
    rw [bigBytes, Int.natAbs_natCast, List.map_map]
    refine (List.map_congr_left fun d hd => ?_).trans (List.map_id _)
    have hlt := Nat.digits_lt_base (by decide) (List.mem_reverse.1 hd)
    rw [Function.comp_apply, UInt8.toNat_ofNat', id_eq]
    exact Nat.mod_eq_of_lt hlt
  have hflip : (fun x y : Nat => 256 * y + x) = fun x y => x + 256 * y := by
    funext x y
    exact Nat.add_comm _ _
  have hdigits := (Nat.ofDigits_eq_foldr 256 (Nat.digits 256 n)).symm.trans (Nat.ofDigits_digits 256 n)
  rw [SetBytes, Abi.ofWord, hvalues, EIP712.ofDigits, List.foldl_reverse, hflip]
  exact hdigits

theorem SetBytes_leftPad32 {b : Bytes} (h : b.length ≤ 32) : SetBytes (leftPad32 b) = SetBytes b := by
  have hzeros : ∀ k : Nat, (List.replicate k 0).foldl (fun v d => 256 * v + d) 0 = 0 := by
    intro k
    induction k with
    | zero => rfl
    | succ k ih => rwa [List.replicate_succ, List.foldl_cons]
  rw [leftPad32]
  split_ifs with hfull hlong
  · rfl
  · exact absurd h (not_le.2 hlong)
  · rw [SetBytes, Abi.ofWord, List.map_append, List.map_replicate, EIP712.ofDigits, List.foldl_append]
    exact congrArg (fun init => (b.map UInt8.toNat).foldl (fun v d => 256 * v + d) init) (hzeros _)

theorem SetBytes_leftPad32_bigBytes {n : Nat} (h : n < 2 ^ 256) : SetBytes (leftPad32 (bigBytes n)) = n := by
  have hlength : (bigBytes n).length ≤ 32 := by
    rw [bigBytes, List.length_map, List.length_reverse, Int.natAbs_natCast,
      Nat.digits_length_le_iff (by decide)]
    exact h.trans_eq (by decide)
  rw [SetBytes_leftPad32 hlength, SetBytes_bigBytes]

theorem SetBytes_lowS {sigS : Nat} (hlt : sigS < curveN) :
    SetBytes (leftPad32 (bigBytes (lowS sigS))) = if halfN < sigS then curveN - sigS else sigS := by
  have hcurve : curveN < 2 ^ 256 := by decide
  have hvalue : lowS sigS = ((if halfN < sigS then curveN - sigS else sigS : Nat) : Int) := by
    by_cases hhigh : halfN < sigS
    · rw [lowS, if_pos (Int.ofNat_lt.2 hhigh), if_pos hhigh, Nat.cast_sub hlt.le]
    · rw [lowS, if_neg (mt Int.ofNat_lt.1 hhigh), if_neg hhigh]
  rw [hvalue, SetBytes_leftPad32_bigBytes]
  split_ifs <;> omega

/-- The answer stands for a normalised signature of the expected signer, with the lower `s`. -/
theorem signatureToCompactWithRecovery_ok {Address : Type} [DecidableEq Address]
    {SigToAddress : Bytes → Bytes → Option Address} {digest c : Bytes} {r sigS : Int} {expected : Address}
    (h : signatureToCompactWithRecovery SigToAddress digest (some r) (some sigS) expected = .ok c) :
    ∃ sig, compactToSig65 c = .ok sig ∧ Normalised sig ∧ SigToAddress digest sig = some expected ∧
      rOf sig = leftPad32 (bigBytes r) ∧ sOf sig = leftPad32 (bigBytes (lowS sigS)) := by
  rw [signatureToCompactWithRecovery] at h
  split at h
  · cases h
  · rename_i v hfind
    have hv : v = 0 ∨ v = 1 := by simpa using List.mem_of_find?_eq_some hfind
    have hsigner := List.find?_some hfind
    obtain ⟨hrOf, hsOf, hvOf⟩ := parts_eq (v := v) (length_leftPad32 (bigBytes r))
      (length_leftPad32 (bigBytes (lowS sigS)))
    have hback := compactToSig65_sig65ToCompact h
    rw [hrOf, hsOf, hvOf, (parity_of_bit hv).2] at hback
    exact ⟨_, hback.1, hback.2, beq_iff_eq.1 hsigner, hrOf, hsOf⟩

/-! ## The conversions together -/

/-- The signer of a signature, for a way to recover one from `r`, `s` and the parity. -/
def signer {Address : Type} (ecrecover : Bytes → Bytes → UInt8 → Option Address) (sig : Bytes) :
    Option Address :=
  ecrecover (rOf sig) (sOf sig) (parity (vOf sig))

/-- **Compact signatures.** The conversion takes exactly the signatures of 65 bytes with a known parity and a
low `s`; expanding gives a normalised signature of the same signer, with the same `r` and `s`; on normalised
signatures each conversion undoes the other. A larger `s` of the key service is replaced by what is left of
the order, and the result is a normalised signature of the expected signer. -/
theorem compact_conversions (sig : Bytes) :
    ((∃ c, sig65ToCompact sig = .ok c) ↔ sig.length = 65 ∧ IsParity (vOf sig) ∧ Low (sOf sig)) ∧
      (∀ c, sig65ToCompact sig = .ok c → ∃ back, compactToSig65 c = .ok back ∧ Normalised back ∧
        back = rOf sig ++ sOf sig ++ [parity (vOf sig)] ∧
        ∀ (Address : Type) (ecrecover : Bytes → Bytes → UInt8 → Option Address),
          signer ecrecover back = signer ecrecover sig) ∧
      (Normalised sig → ∀ c, sig65ToCompact sig = .ok c ↔ compactToSig65 c = .ok sig) ∧
      (∀ c, (∃ back, compactToSig65 c = .ok back) ↔ c.length = 64) ∧
      ∀ (Address : Type) [DecidableEq Address] (SigToAddress : Bytes → Bytes → Option Address)
        (digest : Bytes) (r sigS : Nat) (expected : Address) (c : Bytes), sigS < curveN →
        signatureToCompactWithRecovery SigToAddress digest (some r) (some sigS) expected = .ok c →
        ∃ back, compactToSig65 c = .ok back ∧ Normalised back ∧ SigToAddress digest back = some expected ∧
          SetBytes (sOf back) = if halfN < sigS then curveN - sigS else sigS := by
  refine ⟨sig65ToCompact_iff, fun c h => ?_, fun hsig c => hsig.inverse, fun c => compactToSig65_iff, ?_⟩
  rotate_left
  · intro Address _ SigToAddress digest r sigS expected c hlt h
    obtain ⟨back, hback, hnormal, hsigner, -, hs⟩ := signatureToCompactWithRecovery_ok h
    exact ⟨back, hback, hnormal, hsigner, hs ▸ SetBytes_lowS hlt⟩
  obtain ⟨hback, hnormal⟩ := compactToSig65_sig65ToCompact h
  refine ⟨_, hback, hnormal, rfl, fun Address ecrecover => ?_⟩
  obtain ⟨r, s, v, rfl, hr, hs⟩ := exists_parts (sig65ToCompact_length h)
  obtain ⟨hrOf, hsOf, hvOf⟩ := parts_eq (v := v) hr hs
  have hv : IsParity v := hvOf ▸ (sig65ToCompact_iff.1 ⟨c, h⟩).2.1
  obtain ⟨hrOf', hsOf', hvOf'⟩ := parts_eq (v := parity v) hr hs
  rw [hrOf, hsOf, hvOf, signer, signer, hrOf, hsOf, hvOf, hrOf', hsOf', hvOf',
    (parity_of_bit hv.cases).2]

theorem compact_conversions_one :
    ∃ c, sig65ToCompact (EIP712.word 1 ++ EIP712.word 1 ++ [28]) = .ok c :=
  (compact_conversions (EIP712.word 1 ++ EIP712.word 1 ++ [28])).1.2
    ⟨by decide, .inr (.inr (.inr (by decide))), by decide, by decide⟩

/-- A signature whose `s` is below the order but not low has no compact form. -/
theorem not_all_compact :
    ¬ ∀ sig : Bytes, sig.length = 65 → IsParity (vOf sig) → 0 < SetBytes (sOf sig) →
      SetBytes (sOf sig) < curveN → ∃ c, sig65ToCompact sig = .ok c := by
  intro h
  have haccepted := sig65ToCompact_iff.1 (h (EIP712.word 1 ++ EIP712.word (curveN - 1) ++ [0])
    (by decide) (.inl (by decide)) (by decide) (by decide))
  exact absurd haccepted.2.2.2 (by decide)

end LesserHost.Ens
