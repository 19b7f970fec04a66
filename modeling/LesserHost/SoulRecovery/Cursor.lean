import LesserHost.SoulRecovery.Inventory

set_option autoImplicit false

/-! # The cursor of the inventory

A cursor that is handed out is the cursor a request reads (`decode_encode`), whatever the inner cursor of
the table looks like. -/

namespace LesserHost.SoulRecovery

open LesserHost.Go

/-! ## Numbers -/

section Numbers

open JSONText

/-- A number in decimal is zero or starts with another digit. -/
theorem toDigits_start (n : Nat) : Nat.toDigits 10 n = ['0'] ∨
    ∃ c ds, Nat.toDigits 10 n = c :: ds ∧ c ≠ '0' := by
  induction n using Nat.strong_induction_on with
  | _ n ih =>
      by_cases hn : n < 10
      · have hall : ∀ n : Fin 10, [n.val.digitChar] = ['0'] ∨
            ∃ c ds, [n.val.digitChar] = c :: ds ∧ c ≠ '0' := by
          intro n
          by_cases h : n.val.digitChar = '0'
          · exact .inl (by rw [h])
          · exact .inr ⟨_, _, rfl, h⟩
        rw [Nat.toDigits_of_lt_base hn]
        exact hall ⟨n, hn⟩
      · right
        rw [Nat.toDigits_of_base_le (by decide) (not_lt.1 hn)]
        rcases ih (n / 10) (by omega) with h | ⟨c, ds, h, hc⟩
        · have hzero : n / 10 = 0 := by
            have hvalue := @Nat.ofDigitChars_ten_toDigits (n / 10)
            rw [h] at hvalue
            exact hvalue.symm
          omega
        · exact ⟨c, _, by rw [h, List.cons_append], hc⟩

theorem takeDigits_append {c x : Char} {ds t : List Char} (hc : c.isDigit = true)
    (hds : ∀ d ∈ ds, d.isDigit = true) (hx : x.isDigit = false) :
    takeDigits (c :: (ds ++ x :: t)) = some (x :: t) := by
  rw [takeDigits, if_pos hc, List.dropWhile_append_of_pos hds,
    List.dropWhile_cons_of_neg (by rw [hx]; exact Bool.false_ne_true)]

/-- What follows a number that nothing but a comma or a brace follows. -/
theorem scanNumber_toDigits (n : Nat) {x : Char} (t : List Char) (hx : x = ',' ∨ x = '\x7d') :
    scanNumber (Nat.toDigits 10 n ++ x :: t) = some (x :: t) := by
  have hall : ∀ d ∈ Nat.toDigits 10 n, d.isDigit = true :=
    fun d hd => Nat.isDigit_of_mem_toDigits (by decide) (by decide) hd
  have hnot : x.isDigit = false := by rcases hx with rfl | rfl <;> decide
  rcases toDigits_start n with h | ⟨c, ds, h, hc⟩
  -- after a zero the grammar allows no more digits
  · rw [h]
    rcases hx with rfl | rfl <;> simp [scanNumber]
  · rw [h] at hall ⊢
    have hminus : c ≠ '-' := by
      rintro rfl
      exact absurd (hall '-' List.mem_cons_self) (by decide)
    have htake := takeDigits_append (t := t) (hall c List.mem_cons_self)
      (fun d hd => hall d (List.mem_cons_of_mem _ hd)) hnot
    rw [List.cons_append]
    rcases hx with rfl | rfl <;> simp [scanNumber, hminus, hc, htake]

theorem parseValue_toDigits {fuel depth : Nat} (n : Nat) {x : Char} (t : List Char)
    (hx : x = ',' ∨ x = '\x7d') : parseValue (fuel + 1) depth (Nat.toDigits 10 n ++ x :: t)
      = some (.number (Nat.toDigits 10 n), x :: t) := by
  have hscan := scanNumber_toDigits n t hx
  have hall : ∀ d ∈ Nat.toDigits 10 n, d.isDigit = true :=
    fun d hd => Nat.isDigit_of_mem_toDigits (by decide) (by decide) hd
  have htake : (Nat.toDigits 10 n ++ x :: t).take ((Nat.toDigits 10 n ++ x :: t).length - (x :: t).length)
      = Nat.toDigits 10 n := by
    rw [List.length_append, Nat.add_sub_cancel, List.take_left]
  cases h : Nat.toDigits 10 n with
  | nil => exact absurd h Nat.toDigits_ne_nil
  | cons c ds =>
      rw [h] at hscan hall htake
      have hdigit := hall c List.mem_cons_self
      have hne : ∀ d : Char, d.isDigit = false → c ≠ d := by
        rintro d hd rfl
        rw [hd] at hdigit
        cases hdigit
      have hquote := hne '"' (by decide)
      have hbrace := hne '\x7b' (by decide)
      have hbracket := hne '[' (by decide)
      have hn := hne 'n' (by decide)
      have ht := hne 't' (by decide)
      have hf := hne 'f' (by decide)
      rw [List.cons_append] at hscan htake ⊢
      simpa [parseValue, hquote, hbrace, hbracket, hn, ht, hf, hscan] using htake

/-- What follows a number member of an object, read on. -/
theorem parseMembers_number {fuel depth : Nat} {key : String} (n : Nat) {rest rest' : List Char}
    {members : List (String × Value)}
    (hnext : (rest = '\x7d' :: rest' ∧ members = []) ∨
      ∃ tail, rest = ',' :: '"' :: tail ∧
        parseMembers (fuel + 1) depth ('"' :: tail) = some (members, rest')) :
    parseMembers (fuel + 2) depth (quote key ++ ':' :: (Nat.toDigits 10 n ++ rest))
      = some ((key, .number (Nat.toDigits 10 n)) :: members, rest') := by
  have hall : ∀ d ∈ Nat.toDigits 10 n, d.isDigit = true :=
    fun d hd => Nat.isDigit_of_mem_toDigits (by decide) (by decide) hd
  refine parseMembers_value ?_ ?_ hnext
  · cases h : Nat.toDigits 10 n with
    | nil => exact absurd h Nat.toDigits_ne_nil
    | cons c ds =>
        rw [h] at hall
        refine skipWhite_cons _ ?_
        by_contra hc
        have hdigit := hall c List.mem_cons_self
        rw [Bool.not_eq_false, isWhite] at hc
        simp only [Bool.or_eq_true, beq_iff_eq] at hc
        rcases hc with ((rfl | rfl) | rfl) | rfl <;> exact absurd hdigit (by decide)
  · rcases hnext with ⟨rfl, -⟩ | ⟨tail, rfl, -⟩
    · exact parseValue_toDigits n _ (.inr rfl)
    · exact parseValue_toDigits n _ (.inl rfl)

end Numbers

/-! ## Reading a cursor that was printed -/

section RoundTrip

open JSONText

theorem toList_Itoa (n : Nat) : (Itoa n).toList = Nat.toDigits 10 n := by
  rw [Itoa, if_neg (by omega), String.toList_ofList, Int.natAbs_natCast]

theorem parse_marshalCursor (n : Nat) (inner : String) : parse (marshalCursor ⟨n, inner⟩) = some (.object
    (("domain_index", .number (Nat.toDigits 10 n)) ::
      (if inner = "" then [] else [("inner", .string inner)]))) := by
  have hkey : ∀ rest, ∃ tail, quote "domain_index" ++ rest = '"' :: tail ∧ 1 ≤ tail.length := by
    intro rest
    refine ⟨"domain_index".toList.flatMap escapeChar ++ '"' :: rest, by simp [quote], ?_⟩
    simp only [List.length_append, List.length_cons]
    omega
  rw [marshalCursor, toList_Itoa]
  obtain ⟨tail, htail, hlong⟩ := hkey (':' :: (Nat.toDigits 10 n ++ (if inner = "" then ['\x7d']
    else ',' :: (quote "inner" ++ ':' :: (quote inner ++ ['\x7d'])))))
  rw [htail]
  refine parse_object (fun fuel hfuel => ?_) hlong
  rw [← htail]
  obtain ⟨fuel, rfl⟩ : ∃ k, fuel = k + 2 := ⟨fuel - 2, by omega⟩
  refine parseMembers_number n ?_
  by_cases hinner : inner = ""
  · rw [if_pos hinner, if_pos hinner]
    exact .inl ⟨rfl, rfl⟩
  · rw [if_neg hinner, if_neg hinner]
    obtain ⟨tail', htail', -⟩ := scanString_quote "inner" (':' :: (quote inner ++ ['\x7d']))
    refine .inr ⟨tail', by rw [htail'], ?_⟩
    rw [← htail']
    exact parseMembers_string (.inl ⟨rfl, rfl⟩)

theorem unmarshal_marshalCursor {n : Nat} (hn : n < 2 ^ 63) (inner : String) :
    unmarshalCursor (bytes (marshalCursor ⟨n, inner⟩)) = some ⟨n, inner⟩ := by
  have hnames : EqualFold "domain_index" "domain_index" = true ∧
      EqualFold "inner" "domain_index" = false ∧ EqualFold "inner" "inner" = true := by decide +kernel
  obtain ⟨hindex, hother, hinner⟩ := hnames
  have hnumber : Atoi (bytes (String.ofList (Nat.toDigits 10 n))) = some (n : Int) := by
    rw [← toList_Itoa, String.ofList_toList]
    exact Atoi_Itoa hn
  rw [unmarshalCursor, Bytes.runeText_bytes, parse_marshalCursor]
  simp only [List.foldl_cons, readMember, hindex, if_true, hnumber, Option.map_some]
  by_cases hblank : inner = ""
  · rw [if_pos hblank, hblank]
    rfl
  · rw [if_neg hblank]
    simp only [List.foldl_cons, List.foldl_nil, readMember, hother, hinner, Bool.false_eq_true, if_false,
      if_true]

/-- The digits of base64 are told apart after the change to the other alphabet. -/
theorem urlDigit_spec {bs : Bytes} : ∀ b ∈ Base64.rawEncode bs, standardDigit (urlDigit b) = b ∧
    urlDigit b ≠ 0x2b ∧ urlDigit b ≠ 0x2f ∧ 32 < (urlDigit b).toNat ∧ (urlDigit b).toNat < 127 := by
  have hall : ∀ n : Fin 64, standardDigit (urlDigit (Base64.encodeDigit n)) = Base64.encodeDigit n ∧
      urlDigit (Base64.encodeDigit n) ≠ 0x2b ∧ urlDigit (Base64.encodeDigit n) ≠ 0x2f ∧
      32 < (urlDigit (Base64.encodeDigit n)).toNat ∧ (urlDigit (Base64.encodeDigit n)).toNat < 127 := by
    decide
  have hencode : ∀ b ∈ Base64.encode bs, standardDigit (urlDigit b) = b ∧ urlDigit b ≠ 0x2b ∧
      urlDigit b ≠ 0x2f ∧ 32 < (urlDigit b).toNat ∧ (urlDigit b).toNat < 127 :=
    Base64.encode_forall (by decide) (fun n hn => hall ⟨n, hn⟩) bs
  exact fun b hb => hencode b (List.mem_filter.1 hb).1

theorem decodeRawURL_rawEncode (bs : Bytes) :
    decodeRawURL ((Base64.rawEncode bs).map urlDigit) = some bs := by
  have hmap : ((Base64.rawEncode bs).map urlDigit).map standardDigit = Base64.rawEncode bs := by
    rw [List.map_map]
    exact (List.map_congr_left fun b hb => (urlDigit_spec b hb).1).trans (List.map_id _)
  have hnot : ¬ (0x2b ∈ (Base64.rawEncode bs).map urlDigit ∨
      0x2f ∈ (Base64.rawEncode bs).map urlDigit) := by
    rintro (h | h)
    · obtain ⟨b, hb, heq⟩ := List.mem_map.1 h
      exact (urlDigit_spec b hb).2.1 heq
    · obtain ⟨b, hb, heq⟩ := List.mem_map.1 h
      exact (urlDigit_spec b hb).2.2.1 heq
  rw [decodeRawURL, if_neg hnot, hmap, Base64.rawDecode_rawEncode]

theorem TrimSpace_encode (cursor : soulRecoveryInventoryCursor) :
    TrimSpace (encodeSoulRecoveryInventoryCursor cursor) = encodeSoulRecoveryInventoryCursor cursor := by
  have hall : ∀ n : Fin 127, 32 < n.val → isSpace (Char.ofNat n) = false := by decide
  refine IsTrimmed.TrimSpace_eq (Trimmed.of_forall fun c hc => ?_)
  simp only [encodeSoulRecoveryInventoryCursor, asciiText, String.toList_ofList, List.mem_map] at hc
  obtain ⟨-, ⟨b, hb, rfl⟩, rfl⟩ := hc
  obtain ⟨-, -, -, hlow, hhigh⟩ := urlDigit_spec b hb
  exact hall ⟨_, hhigh⟩ hlow

/-- **The round trip.** -/
theorem decode_encode {n : Nat} (hn : n < 2 ^ 63) (inner : String) :
    decodeSoulRecoveryInventoryCursor (encodeSoulRecoveryInventoryCursor ⟨n, inner⟩)
      = .ok ⟨n, inner⟩ := by
  have hbytes : bytes (encodeSoulRecoveryInventoryCursor ⟨n, inner⟩)
      = (Base64.rawEncode (bytes (marshalCursor ⟨n, inner⟩))).map urlDigit := by
    refine bytes_asciiText fun b hb => ?_
    obtain ⟨d, hd, rfl⟩ := List.mem_map.1 hb
    obtain ⟨-, -, -, -, hhigh⟩ := urlDigit_spec d hd
    omega
  have hdecode := decodeRawURL_rawEncode (bytes (marshalCursor ⟨n, inner⟩))
  rw [← hbytes] at hdecode
  -- an empty text would decode to no bytes, and these are no object
  have hne : encodeSoulRecoveryInventoryCursor ⟨n, inner⟩ ≠ "" := by
    intro h
    rw [h] at hdecode
    have hnil : some [] = some (bytes (marshalCursor ⟨n, inner⟩)) := hdecode
    have htext := unmarshal_marshalCursor hn inner
    rw [← Option.some.inj hnil] at htext
    have hnone : unmarshalCursor [] = none := by decide +kernel
    rw [hnone] at htext
    cases htext
  have hindex : ¬ ((n : Int) < 0) := by omega
  rw [decodeSoulRecoveryInventoryCursor, TrimSpace_encode, if_neg hne, hdecode]
  simp only [unmarshal_marshalCursor hn, if_neg hindex]

end RoundTrip

end LesserHost.SoulRecovery
