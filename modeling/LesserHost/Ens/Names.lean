import LesserHost.Ens.Gateway
import LesserHost.Go.Runes
import LesserHost.Lib.NameHash
import LesserHost.Solidity.Basic

set_option autoImplicit false

/-! # Names on the wire

A resolver call carries its name in the wire format of DNS. `decodeDNSName` joins the labels with dots and
normalises the text; `ensNameHash` normalises once more, splits at the dots and hashes the labels. Both
splits agree only for labels that are texts without a dot, white space at neither end. The final dot of a
name is cut off after its white space, so the normalised name can still end with white space, and
`encodeDNSName` writes such a name, which decodes to another one. -/

namespace LesserHost.Ens

open LesserHost.Go LesserHost.Go.Bytes
open LesserHost.SoulContacts (TrimSuffix)
open EIP712 (Hash word)
open NameHash

/-! ## The functions of the gateway -/

/-- `normalizeENSName` on any bytes: it reads the name rune by rune, a stray byte is no white space, and
    `strings.ToLower` writes U+FFFD for it. -/
def normalizeENSNameBytes (name : Bytes) : String := normalizeENSName (runeText name)

/-- The loop of `decodeDNSName`. -/
def decodeLabels : Bytes → Except String (List Bytes)
  | [] => .error "dns name: missing terminator"
  | l :: dns =>
      if l.toNat = 0 then .ok []
      else if 63 < l.toNat then .error "dns name: label too long"
      else if dns.length < l.toNat then .error "dns name: truncated label"
      else (decodeLabels (dns.drop l.toNat)).map (dns.take l.toNat :: ·)
termination_by dns => dns.length
decreasing_by
  rw [List.length_drop, List.length_cons]
  omega

/-- `strings.Join(labels, ".")` -/
def joinLabels (labels : List Bytes) : Bytes := [0x2e].intercalate labels

def decodeDNSName (dns : Bytes) : Except String String :=
  (decodeLabels dns).map fun labels => normalizeENSNameBytes (joinLabels labels)

def checkedByteLen (n : Nat) : Except String UInt8 :=
  if 255 < n then .error "dns name: label length out of range" else .ok (UInt8.ofNat n)

/-- The loop of `encodeDNSName`. -/
def encodeLabels : List Bytes → Except String Bytes
  | [] => .ok [0]
  | label :: rest =>
      if label = [] then .error "dns name: empty label"
      else if 63 < label.length then .error "dns name: label too long"
      else
        (checkedByteLen label.length).bind fun labelLenByte =>
          (encodeLabels rest).map fun out => labelLenByte :: (label ++ out)

/-- `strings.Split(name, ".")`, as bytes. -/
def splitLabels (name : String) : List Bytes := (Split name '.').map bytes

def encodeDNSName (name : Bytes) : Except String Bytes :=
  let name := normalizeENSNameBytes name
  if name = "" then .ok [0] else encodeLabels (splitLabels name)

def ensNameHash (keccak : Hash) (name : Bytes) : Fin (2 ^ 256) :=
  let name := normalizeENSNameBytes name
  if name = "" then 0
  else
    (splitLabels name).reverse.foldl
      (fun node label => keccak (word node ++ word (keccak label))) 0

/-! ## What is on the wire -/

/-- `dns` begins with the labels; what follows the final zero is not read. -/
structure OnWire (labels : List Bytes) (dns : Bytes) : Prop where
  writable : Writable labels
  rest : ∃ rest, dns = wire labels ++ rest

theorem toNat_length {label : Bytes} (h : label.length ≤ 63) :
    (UInt8.ofNat label.length).toNat = label.length := by
  rw [UInt8.toNat_ofNat']
  omega

theorem wire_cons (label : Bytes) (labels : List Bytes) :
    wire (label :: labels) = UInt8.ofNat label.length :: (label ++ wire labels) := by
  rw [wire, List.flatMap_cons, wireLabel, wire, List.cons_append, List.cons_append, List.append_assoc]

/-- Labels are read back from the wire. -/
theorem decodeLabels_wire {labels : List Bytes} (h : Writable labels) (rest : Bytes) :
    decodeLabels (wire labels ++ rest) = .ok labels := by
  induction labels with
  | nil =>
      have hwire : wire [] ++ rest = 0 :: rest := rfl
      rw [hwire, decodeLabels]
      exact if_pos rfl
  | cons label labels ih =>
      obtain ⟨⟨hne, hlen⟩, hlabels⟩ := List.forall_mem_cons.1 h
      have hpos := List.length_pos_iff.2 hne
      have hnat := toNat_length hlen
      rw [wire_cons, List.cons_append, decodeLabels, hnat, if_neg (by omega), if_neg (by omega),
        List.append_assoc, List.length_append, if_neg (by omega), List.drop_left, List.take_left, ih hlabels]
      rfl

/-- What is accepted has labels on the wire. -/
theorem OnWire.of_decodeLabels {dns : Bytes} {labels : List Bytes} (h : decodeLabels dns = .ok labels) :
    OnWire labels dns := by
  induction dns using decodeLabels.induct generalizing labels with
  | case1 =>
      rw [decodeLabels] at h
      cases h
  | case2 l dns hzero =>
      rw [decodeLabels, if_pos hzero] at h
      cases h
      have hl : l = 0 := UInt8.toNat_inj.1 hzero
      exact ⟨writable_nil, dns, by rw [hl]; rfl⟩
  | case3 l dns hzero hlong =>
      rw [decodeLabels, if_neg hzero, if_pos hlong] at h
      cases h
  | case4 l dns hzero hlong hshort =>
      rw [decodeLabels, if_neg hzero, if_neg hlong, if_pos hshort] at h
      cases h
  | case5 l dns hzero hlong hshort ih =>
      rw [decodeLabels, if_neg hzero, if_neg hlong, if_neg hshort] at h
      cases hdrop : decodeLabels (dns.drop l.toNat) with
      | error e =>
          rw [hdrop] at h
          cases h
      | ok labels' =>
          rw [hdrop] at h
          cases h
          obtain ⟨hwritable, rest, hrest⟩ := ih hdrop
          have hlen : (dns.take l.toNat).length = l.toNat := by
            rw [List.length_take]
            omega
          refine ⟨List.forall_mem_cons.2 ⟨⟨?_, by omega⟩, hwritable⟩, rest, ?_⟩
          · rw [← List.length_pos_iff, hlen]
            omega
          · rw [wire_cons, hlen, UInt8.ofNat_toNat, List.cons_append, List.append_assoc, ← hrest,
              List.take_append_drop]

theorem decodeDNSName_of_labels {dns : Bytes} {labels : List Bytes} (h : decodeLabels dns = .ok labels) :
    decodeDNSName dns = .ok (normalizeENSNameBytes (joinLabels labels)) := by
  rw [decodeDNSName, h]
  rfl

/-- The decoder accepts just the names on the wire. -/
theorem decodeDNSName_ok_iff {dns : Bytes} {text : String} : decodeDNSName dns = .ok text ↔
    ∃ labels, OnWire labels dns ∧ text = normalizeENSNameBytes (joinLabels labels) := by
  constructor
  · intro h
    cases hdecode : decodeLabels dns with
    | error e =>
        rw [decodeDNSName, hdecode] at h
        cases h
    | ok labels =>
        rw [decodeDNSName_of_labels hdecode] at h
        exact ⟨labels, .of_decodeLabels hdecode, (Except.ok.inj h).symm⟩
  · rintro ⟨labels, ⟨hwritable, rest, hrest⟩, htext⟩
    rw [hrest, htext]
    exact decodeDNSName_of_labels (decodeLabels_wire hwritable rest)

theorem encodeLabels_cons_ok {label : Bytes} {rest : List Bytes} {enc : Bytes}
    (h : encodeLabels (label :: rest) = .ok enc) : (label ≠ [] ∧ label.length ≤ 63) ∧
      ∃ out, encodeLabels rest = .ok out ∧ enc = UInt8.ofNat label.length :: (label ++ out) := by
  rw [encodeLabels] at h
  by_cases hnil : label = []
  · rw [if_pos hnil] at h
    cases h
  · by_cases hlong : 63 < label.length
    · rw [if_neg hnil, if_pos hlong] at h
      cases h
    · have hbyte : checkedByteLen label.length = .ok (UInt8.ofNat label.length) := if_neg (by omega)
      rw [if_neg hnil, if_neg hlong, hbyte, Except.bind] at h
      cases hrest : encodeLabels rest with
      | error e =>
          rw [hrest] at h
          cases h
      | ok out =>
          rw [hrest] at h
          cases h
          exact ⟨⟨hnil, by omega⟩, out, rfl, rfl⟩

/-- What the encoder writes. -/
theorem encodeLabels_ok {labels : List Bytes} {enc : Bytes} (h : encodeLabels labels = .ok enc) :
    Writable labels ∧ enc = wire labels := by
  induction labels generalizing enc with
  | nil =>
      cases h
      exact ⟨writable_nil, rfl⟩
  | cons label rest ih =>
      obtain ⟨hlabel, out, hout, rfl⟩ := encodeLabels_cons_ok h
      obtain ⟨hwritable, rfl⟩ := ih hout
      exact ⟨List.forall_mem_cons.2 ⟨hlabel, hwritable⟩, (wire_cons label rest).symm⟩

/-! ## Texts and their labels -/

theorem normalizeENSNameBytes_bytes (s : String) : normalizeENSNameBytes (bytes s) = normalizeENSName s := by
  rw [normalizeENSNameBytes, runeText_bytes]

/-- The labels that `ensNameHash` hashes. -/
def labelsOf (name : String) : List Bytes := if name = "" then [] else splitLabels name

theorem ensNameHash_eq (keccak : Hash) (name : Bytes) :
    ensNameHash keccak name = namehash keccak (labelsOf (normalizeENSNameBytes name)) := by
  unfold ensNameHash labelsOf
  dsimp only
  split_ifs
  · rfl
  · rw [List.foldl_reverse, namehash]
    rfl

theorem utf8EncodeChar_dot : String.utf8EncodeChar '.' = [0x2e] := by decide

theorem joinLabels_bytes (l : List (List Char)) :
    joinLabels (l.map fun s => bytes (String.ofList s)) = bytes (String.ofList (['.'].intercalate l)) := by
  rw [joinLabels, bytes_ofList]
  induction l with
  | nil => rfl
  | cons s l ih =>
      cases l with
      | nil => simp [bytes_ofList]
      | cons t l =>
          rw [List.map_cons] at ih
          rw [List.map_cons, List.map_cons, List.intercalate_cons_cons, ih,
            List.intercalate_cons_cons, List.flatMap_append, List.flatMap_append, List.flatMap_singleton,
            utf8EncodeChar_dot, bytes_ofList]

/-- Joining what was split. -/
theorem joinLabels_splitLabels (s : String) : joinLabels (splitLabels s) = bytes s := by
  have hmap : splitLabels s = (s.toList.splitOn '.').map fun l => bytes (String.ofList l) := by
    rw [splitLabels, Split, List.map_map]
    rfl
  rw [hmap, joinLabels_bytes, List.intercalate_splitOn, String.ofList_toList]

theorem joinLabels_labelsOf (s : String) : joinLabels (labelsOf s) = bytes s := by
  unfold labelsOf
  split_ifs with h
  · rw [h]
    rfl
  · exact joinLabels_splitLabels s

theorem not_mem_of_mem_splitOn {sep : Char} {l piece : List Char} (h : piece ∈ l.splitOn sep) :
    sep ∉ piece := by
  intro hmem
  rw [List.splitOn_eq_splitOnP] at h
  exact absurd (mem_piece h hmem).2 (by simp)

theorem dot_mem_of_bytes {s : String} (h : (0x2e : UInt8) ∈ bytes s) : '.' ∈ s.toList := by
  obtain ⟨c, hc, hnat⟩ := mem_bytes_ascii h (by decide)
  have hdot : c = '.' := Char.toNat_inj.1 hnat
  exact hdot ▸ hc

/-- A label of a text is a text without a dot. -/
theorem labelsOf_plain {s : String} {label : Bytes} (h : label ∈ labelsOf s) :
    Valid label ∧ (0x2e : UInt8) ∉ label := by
  unfold labelsOf at h
  split_ifs at h with hempty
  · exact absurd h List.not_mem_nil
  · obtain ⟨t, ht, rfl⟩ := List.mem_map.1 h
    obtain ⟨piece, hpiece, rfl⟩ := List.mem_map.1 ht
    refine ⟨valid_bytes _, fun hdot => not_mem_of_mem_splitOn hpiece ?_⟩
    have hmem := dot_mem_of_bytes hdot
    rwa [String.toList_ofList] at hmem

/-! ## White space and case -/

/-- No other character has the dot as its lower case. -/
theorem toLowerChar_eq_dot {c : Char} : toLowerChar c = '.' ↔ c = '.' := by
  have himages : (caseRanges.all fun r => Nat.blt 46 r.2.2.2) = true := by decide
  constructor
  · intro h
    have hcode : lowerCode c.toNat = 46 := by
      rw [← toNat_toLowerChar, h]
      rfl
    cases hf : caseRanges.find? (fun r => r.contains c.toNat) with
    | none =>
        simp only [lowerCode, hf] at hcode
        exact Char.toNat_inj.1 hcode
    | some r =>
        have hlow := List.all_eq_true.1 himages r (List.mem_of_find?_eq_some hf)
        rw [Nat.blt_eq] at hlow
        simp only [lowerCode, hf] at hcode
        omega
  · rintro rfl
    decide

/-- White space has no lower case of its own. -/
theorem isSpace_toLowerChar_eq (c : Char) : isSpace (toLowerChar c) = isSpace c := by
  cases hspace : isSpace c with
  | false => exact isSpace_toLowerChar hspace
  | true =>
      have hcodes : ∀ n ∈ whiteSpace, lowerCode n = n := by decide
      have hcode : lowerCode c.toNat = c.toNat := hcodes _ (List.contains_iff_mem.1 hspace)
      rw [isSpace, toNat_toLowerChar, hcode]
      exact hspace

/-- White space at an end is cut off. -/
theorem length_trimFunc_lt {l : List Char} (h : ¬ Trimmed isSpace l) :
    (trimFunc isSpace l).length < l.length := by
  have hle : (trimFunc isSpace l).length ≤ (l.dropWhile isSpace).length :=
    (List.rdropWhile_prefix isSpace (l := l.dropWhile isSpace)).length_le
  have hle' := (List.dropWhile_suffix isSpace (l := l)).length_le
  refine lt_of_le_of_ne (hle.trans hle') fun heq => h ?_
  have hfront : l.dropWhile isSpace = l := (List.dropWhile_suffix isSpace).eq_of_length (by omega)
  have hlen : (l.dropWhile isSpace).length = l.length := congrArg List.length hfront
  have htrim : trimFunc isSpace l = l.dropWhile isSpace :=
    (List.rdropWhile_prefix isSpace (l.dropWhile isSpace)).eq_of_length (heq.trans hlen.symm)
  rw [hfront] at htrim
  exact htrim ▸ trimFunc_trimmed isSpace l

theorem length_TrimSuffix_le (s : String) : (TrimSuffix s ".").toList.length ≤ s.toList.length := by
  unfold TrimSuffix
  split_ifs
  · rw [String.toList_ofList, List.length_take]
    exact Nat.min_le_right _ _
  · exact Nat.le_refl _

theorem TrimSuffix_of_not {s : String} (h : s.toList.getLast? ≠ some '.') : TrimSuffix s "." = s := by
  refine if_neg fun hsuffix => h ?_
  obtain ⟨pre, hpre⟩ := List.isSuffixOf_iff_suffix.1 hsuffix
  rw [← hpre]
  exact List.getLast?_concat

theorem TrimSuffix_dot (l : List Char) : TrimSuffix (String.ofList (l ++ ['.'])) "." = String.ofList l := by
  have hdot : ".".toList = ['.'] := rfl
  have hsuffix : ['.'].isSuffixOf (l ++ ['.']) = true :=
    List.isSuffixOf_iff_suffix.2 (List.suffix_append l ['.'])
  have hlen : (l ++ ['.']).length - ['.'].length = l.length := by
    rw [List.length_append]
    rfl
  rw [TrimSuffix, hdot, String.toList_ofList, if_pos hsuffix, hlen, List.take_left]

theorem length_normalizeENSName_le (s : String) :
    (normalizeENSName s).toList.length ≤ (TrimSpace s).toList.length := by
  have h := length_TrimSuffix_le (ToLower (TrimSpace s))
  rw [toList_ToLower, List.length_map] at h
  exact h

theorem length_TrimSpace_le (s : String) : (TrimSpace s).toList.length ≤ s.toList.length := by
  by_cases h : IsTrimmed s
  · rw [h.TrimSpace_eq]
  · rw [toList_TrimSpace]
    exact (length_trimFunc_lt h).le

/-- A name that normalising leaves as long as it was is trimmed. -/
theorem isTrimmed_of_length {s : String} (h : s.toList.length ≤ (normalizeENSName s).toList.length) :
    IsTrimmed s := by
  by_contra hnot
  have hlt := length_trimFunc_lt hnot
  have hle := length_normalizeENSName_le s
  rw [toList_TrimSpace] at hle
  omega

/-- A trimmed name without a final dot is only lower-cased. -/
theorem normalizeENSName_of_trimmed {s : String} (h : IsTrimmed s) (hlast : s.toList.getLast? ≠ some '.') :
    normalizeENSName s = ToLower s := by
  rw [normalizeENSName, h.TrimSpace_eq]
  refine TrimSuffix_of_not fun hdot => hlast ?_
  rw [toList_ToLower, List.getLast?_map, Option.map_eq_some_iff] at hdot
  obtain ⟨c, hc, hlower⟩ := hdot
  rw [hc, toLowerChar_eq_dot.1 hlower]

theorem isTrimmed_ToLower_iff {s : String} : IsTrimmed (ToLower s) ↔ IsTrimmed s := by
  constructor
  · intro h
    rw [IsTrimmed, toList_ToLower] at h
    refine ⟨fun c hc => ?_, fun c hc => ?_⟩
    · have hlower := h.1 (toLowerChar c) (by rw [List.head?_map, hc]; rfl)
      rwa [isSpace_toLowerChar_eq] at hlower
    · have hlower := h.2 (toLowerChar c) (by rw [List.getLast?_map, hc]; rfl)
      rwa [isSpace_toLowerChar_eq] at hlower
  · exact IsTrimmed.ToLower

/-! ## The encoder -/

/-- Without its outer white space the name ends with white space and a dot. -/
def SpaceBeforeDot (name : Bytes) : Prop :=
  ∃ c, isSpace c = true ∧ [c, '.'] <:+ (TrimSpace (runeText name)).toList

/-- The name in front of a final dot. -/
theorem normalizeENSNameBytes_dot {name : Bytes} {l : List Char}
    (h : (TrimSpace (runeText name)).toList = l ++ ['.']) :
    normalizeENSNameBytes name = ToLower (String.ofList l) := by
  have hlower : ToLower (TrimSpace (runeText name)) = String.ofList (l.map toLowerChar ++ ['.']) := by
    rw [ToLower, h, List.map_append, List.map_singleton, toLowerChar_eq_dot.2 rfl]
  rw [normalizeENSNameBytes, normalizeENSName, hlower, TrimSuffix_dot, ToLower, String.toList_ofList]

/-- A name that ends with a dot ends with white space and a dot if that is what it has in front. -/
theorem spaceBeforeDot_iff {name : Bytes} {l : List Char}
    (h : (TrimSpace (runeText name)).toList = l ++ ['.']) :
    SpaceBeforeDot name ↔ ∃ c, l.getLast? = some c ∧ isSpace c = true := by
  rw [SpaceBeforeDot, h]
  constructor
  · rintro ⟨c, hspace, pre, hpre⟩
    have hcut : pre ++ [c] ++ ['.'] = l ++ ['.'] := by
      rw [← hpre, List.append_assoc]
      rfl
    refine ⟨c, ?_, hspace⟩
    rw [← List.append_cancel_right hcut]
    exact List.getLast?_concat
  · rintro ⟨c, hc, hspace⟩
    obtain ⟨pre, rfl⟩ := List.getLast?_eq_some_iff.1 hc
    refine ⟨c, hspace, pre, ?_⟩
    rw [List.append_assoc]
    rfl

/-- A normalised name is trimmed unless a dot behind white space was cut off. -/
theorem isTrimmed_normalize_iff {name : Bytes} :
    IsTrimmed (normalizeENSNameBytes name) ↔ ¬ SpaceBeforeDot name := by
  have htrim := isTrimmed_TrimSpace (runeText name)
  by_cases hdot : (TrimSpace (runeText name)).toList.getLast? = some '.'
  · -- the dot is cut off, and what stood before it comes last
    obtain ⟨l, hl⟩ := List.getLast?_eq_some_iff.1 hdot
    have hhead : ∀ c, l.head? = some c → isSpace c = false := by
      intro c hc
      refine htrim.1 c ?_
      rw [hl, List.head?_append, hc]
      rfl
    rw [normalizeENSNameBytes_dot hl, isTrimmed_ToLower_iff, spaceBeforeDot_iff hl, IsTrimmed,
      String.toList_ofList]
    constructor
    · rintro ⟨-, hend⟩ ⟨c, hc, hspace⟩
      rw [hend c hc] at hspace
      cases hspace
    · intro hnot
      refine ⟨hhead, fun c hc => ?_⟩
      rw [← Bool.not_eq_true]
      exact fun hspace => hnot ⟨c, hc, hspace⟩
  · -- nothing is cut off, so the ends are those of the trimmed text
    have hname : normalizeENSNameBytes name = ToLower (TrimSpace (runeText name)) := by
      have hagain : normalizeENSNameBytes name = normalizeENSName (TrimSpace (runeText name)) := by
        rw [normalizeENSNameBytes, normalizeENSName, normalizeENSName, TrimSpace_idem]
      rw [hagain, normalizeENSName_of_trimmed htrim hdot]
    refine ⟨fun _ => ?_, fun _ => hname ▸ htrim.ToLower⟩
    rintro ⟨c, -, pre, hpre⟩
    refine hdot ?_
    have hpre' : pre ++ [c] ++ ['.'] = (TrimSpace (runeText name)).toList := by
      rw [← hpre, List.append_assoc]
      rfl
    rw [← hpre']
    exact List.getLast?_concat

/-- What the encoder accepts does not end with a dot. -/
theorem getLast?_of_writable {s : String} (h : Writable (splitLabels s)) :
    s.toList.getLast? ≠ some '.' := by
  intro hlast
  obtain ⟨l, hl⟩ := List.getLast?_eq_some_iff.1 hlast
  have hmem : ([] : Bytes) ∈ splitLabels s := by
    have hsplit : s.toList.splitOn '.' = l.splitOn '.' ++ [[]] := by
      rw [hl, List.splitOn_append_cons_self, List.splitOn_nil]
    rw [splitLabels, Split, hsplit]
    simp
  exact (h _ hmem).1 rfl

/-- What the encoder accepts: the empty name, or labels that can be written. -/
theorem encodeDNSName_ok {name enc : Bytes} (h : encodeDNSName name = .ok enc) :
    (normalizeENSNameBytes name = "" ∧ enc = wire []) ∨
      (Writable (splitLabels (normalizeENSNameBytes name)) ∧
        enc = wire (splitLabels (normalizeENSNameBytes name))) := by
  have henc : (if normalizeENSNameBytes name = "" then .ok [0]
      else encodeLabels (splitLabels (normalizeENSNameBytes name))) = Except.ok enc := h
  split_ifs at henc with hempty
  · exact Or.inl ⟨hempty, (Except.ok.inj henc).symm⟩
  · exact Or.inr (encodeLabels_ok henc)

/-- Decoding what was encoded normalises the normalised name again. -/
theorem decode_encode {name enc : Bytes} (h : encodeDNSName name = .ok enc) :
    decodeDNSName enc = .ok (normalizeENSName (normalizeENSNameBytes name)) := by
  rcases encodeDNSName_ok h with ⟨hempty, henc⟩ | ⟨hwritable, henc⟩
  · have hdecode : decodeLabels (wire []) = .ok [] := decodeLabels_wire writable_nil []
    have hjoin : joinLabels [] = bytes "" := rfl
    rw [henc, hempty, decodeDNSName_of_labels hdecode, hjoin, normalizeENSNameBytes_bytes]
  · have hlabels := decodeLabels_wire hwritable []
    rw [List.append_nil, ← henc] at hlabels
    rw [decodeDNSName_of_labels hlabels, joinLabels_splitLabels, normalizeENSNameBytes_bytes]

/-- A normalised name is lower-case. -/
theorem ToLower_normalizeENSName (s : String) : ToLower (normalizeENSName s) = normalizeENSName s := by
  rw [normalizeENSName, TrimSuffix]
  split_ifs
  · refine String.toList_inj.1 ?_
    rw [toList_ToLower, String.toList_ofList, toList_ToLower, List.map_take, List.map_map]
    exact congrArg (List.take _) (List.map_congr_left fun c _ => toLowerChar_idem c)
  · exact ToLower_idem _

/-- What the encoder accepts, normalised, does not end with a dot. -/
theorem getLast?_of_encode {name enc : Bytes} (h : encodeDNSName name = .ok enc) :
    (normalizeENSNameBytes name).toList.getLast? ≠ some '.' := by
  rcases encodeDNSName_ok h with ⟨hempty, -⟩ | ⟨hwritable, -⟩
  · rw [hempty]
    decide
  · exact getLast?_of_writable hwritable

/-- **A name comes back from the wire** just where no dot behind white space was cut off. -/
theorem decode_encode_iff {name enc : Bytes} (h : encodeDNSName name = .ok enc) :
    decodeDNSName enc = .ok (normalizeENSNameBytes name) ↔ ¬ SpaceBeforeDot name := by
  rw [decode_encode h, ← isTrimmed_normalize_iff]
  constructor
  · intro hback
    have heq := Except.ok.inj hback
    refine isTrimmed_of_length ?_
    rw [heq]
  · intro htrim
    have hlower : ToLower (normalizeENSNameBytes name) = normalizeENSNameBytes name :=
      ToLower_normalizeENSName (runeText name)
    rw [normalizeENSName_of_trimmed htrim (getLast?_of_encode h), hlower]

/-! ## The decoder -/

/-- A label in lower case. Bytes that are no text have no lower case and stay as they are. -/
def lowerLabel (label : Bytes) : Bytes :=
  if Valid label then bytes (ToLower (runeText label)) else label

/-- Labels that both splits agree on: texts without a dot, which joined have white space at neither end. -/
structure PlainLabels (labels : List Bytes) : Prop where
  plain : ∀ label ∈ labels, Valid label ∧ (0x2e : UInt8) ∉ label
  trimmed : IsTrimmed (runeText (joinLabels labels))

theorem lowerLabel_bytes (s : String) : lowerLabel (bytes s) = bytes (ToLower s) := by
  rw [lowerLabel, if_pos (valid_bytes s), runeText_bytes]

theorem bytes_dot_mem {s : String} (h : '.' ∈ s.toList) : (0x2e : UInt8) ∈ bytes s := by
  rw [bytes_eq]
  refine List.mem_flatMap.2 ⟨'.', h, ?_⟩
  rw [utf8EncodeChar_dot]
  exact List.mem_singleton_self _

theorem dot_mem_ToLower_iff {s : String} : '.' ∈ (ToLower s).toList ↔ '.' ∈ s.toList := by
  rw [toList_ToLower, List.mem_map]
  constructor
  · rintro ⟨c, hc, hlower⟩
    exact toLowerChar_eq_dot.1 hlower ▸ hc
  · exact fun h => ⟨'.', h, toLowerChar_eq_dot.2 rfl⟩

/-- Lower-casing makes no plain label out of another one. -/
theorem plain_of_lowerLabel {label : Bytes} (h : Valid (lowerLabel label) ∧ (0x2e : UInt8) ∉ lowerLabel label) :
    Valid label ∧ (0x2e : UInt8) ∉ label := by
  by_cases hvalid : Valid label
  · refine ⟨hvalid, fun hdot => h.2 ?_⟩
    rw [lowerLabel, if_pos hvalid]
    refine bytes_dot_mem (dot_mem_ToLower_iff.2 (dot_mem_of_bytes ?_))
    rwa [hvalid]
  · rwa [lowerLabel, if_neg hvalid] at h

/-- The texts of valid labels. -/
theorem exists_texts {labels : List Bytes} (h : ∀ label ∈ labels, Valid label) :
    ∃ l : List (List Char), labels = l.map fun s => bytes (String.ofList s) := by
  refine ⟨labels.map fun label => (runeText label).toList, ?_⟩
  rw [List.map_map]
  refine (List.map_id labels).symm.trans (List.map_congr_left fun label hlabel => ?_)
  rw [Function.comp_apply, String.ofList_toList, h label hlabel]
  rfl

theorem map_lowerLabel (l : List (List Char)) :
    (l.map fun s => bytes (String.ofList s)).map lowerLabel
      = (l.map (List.map toLowerChar)).map fun s => bytes (String.ofList s) := by
  rw [List.map_map, List.map_map]
  refine List.map_congr_left fun s _ => ?_
  rw [Function.comp_apply, lowerLabel_bytes, ToLower, String.toList_ofList]
  rfl

theorem map_intercalate_dot (l : List (List Char)) :
    ['.'].intercalate (l.map (List.map toLowerChar)) = (['.'].intercalate l).map toLowerChar := by
  induction l with
  | nil => rfl
  | cons s l ih =>
      cases l with
      | nil => simp
      | cons t l =>
          rw [List.map_cons] at ih
          rw [List.map_cons, List.map_cons, List.intercalate_cons_cons, ih, List.intercalate_cons_cons,
            List.map_append, List.map_append, List.map_singleton, toLowerChar_eq_dot.2 rfl]

/-- The lower-case labels of texts, joined. -/
theorem joinLabels_lower {l : List (List Char)} : joinLabels ((l.map fun s => bytes (String.ofList s)).map lowerLabel)
    = bytes (ToLower (String.ofList (['.'].intercalate l))) := by
  rw [map_lowerLabel, joinLabels_bytes, map_intercalate_dot, ToLower, String.toList_ofList]

/-- The labels whose hash is the answer of `ensNameHash` for what the decoder reads. -/
def answeredLabels (labels : List Bytes) : List Bytes :=
  labelsOf (normalizeENSName (normalizeENSNameBytes (joinLabels labels)))

theorem ensNameHash_decoded (keccak : Hash) (labels : List Bytes) :
    ensNameHash keccak (bytes (normalizeENSNameBytes (joinLabels labels)))
      = namehash keccak (answeredLabels labels) := by
  rw [ensNameHash_eq, normalizeENSNameBytes_bytes, answeredLabels]

/-- The answered labels are those of the wire only if both splits agree. -/
theorem PlainLabels.of_answered {labels : List Bytes} (h : answeredLabels labels = labels.map lowerLabel) :
    PlainLabels labels := by
  have hplain : ∀ label ∈ labels, Valid label ∧ (0x2e : UInt8) ∉ label := by
    intro label hlabel
    refine plain_of_lowerLabel (labelsOf_plain (s := normalizeENSName (normalizeENSNameBytes (joinLabels labels))) ?_)
    have hmem := List.mem_map_of_mem (f := lowerLabel) hlabel
    rw [← h] at hmem
    exact hmem
  refine ⟨hplain, ?_⟩
  obtain ⟨l, rfl⟩ := exists_texts fun label hlabel => (hplain label hlabel).1
  -- joined, the answered labels are the lower-case text, which is as long as the text itself
  have hjoin := congrArg joinLabels h
  rw [answeredLabels, joinLabels_labelsOf, joinLabels_lower, joinLabels_bytes,
    normalizeENSNameBytes_bytes] at hjoin
  have htext := congrArg (fun s => s.toList.length) (bytes_injective hjoin)
  rw [toList_ToLower, List.length_map] at htext
  rw [joinLabels_bytes, runeText_bytes]
  refine isTrimmed_of_length ?_
  have hle := length_normalizeENSName_le (normalizeENSName (String.ofList (['.'].intercalate l)))
  have hle' := length_TrimSpace_le (normalizeENSName (String.ofList (['.'].intercalate l)))
  omega

theorem intercalate_ne_nil {s : List Char} {l : List (List Char)} (hs : s ≠ []) :
    ['.'].intercalate (s :: l) ≠ [] := by
  cases l with
  | nil => rwa [List.intercalate_singleton]
  | cons t l =>
      rw [List.intercalate_cons_cons, List.append_assoc]
      exact fun hnil => hs (List.append_eq_nil_iff.1 hnil).1

/-- The last label of a name is no empty one and has no dot. -/
theorem getLast?_intercalate {l : List (List Char)} (hne : ∀ s ∈ l, s ≠ []) (hdot : ∀ s ∈ l, '.' ∉ s) :
    (['.'].intercalate l).getLast? ≠ some '.' := by
  induction l with
  | nil => simp
  | cons s l ih =>
      cases l with
      | nil =>
          intro hlast
          rw [List.intercalate_singleton] at hlast
          exact hdot s List.mem_cons_self (List.mem_of_getLast? hlast)
      | cons t l =>
          have hrest := ih (fun u hu => hne u (List.mem_cons_of_mem _ hu))
            fun u hu => hdot u (List.mem_cons_of_mem _ hu)
          have hnil : ['.'].intercalate (t :: l) ≠ [] :=
            intercalate_ne_nil (hne t (List.mem_cons_of_mem _ List.mem_cons_self))
          rw [List.intercalate_cons_cons, List.getLast?_append_of_ne_nil _ hnil]
          exact hrest

/-- Labels joined with dots are split again where they were joined. -/
theorem labelsOf_intercalate {l : List (List Char)} (hne : ∀ s ∈ l, s ≠ []) (hdot : ∀ s ∈ l, '.' ∉ s) :
    labelsOf (String.ofList (['.'].intercalate l)) = l.map fun s => bytes (String.ofList s) := by
  cases l with
  | nil => rfl
  | cons s l =>
      have htext : String.ofList (['.'].intercalate (s :: l)) ≠ "" := by
        intro hempty
        have hnil := congrArg String.toList hempty
        rw [String.toList_ofList] at hnil
        exact intercalate_ne_nil (hne s List.mem_cons_self) hnil
      rw [labelsOf, if_neg htext, splitLabels, Split, String.toList_ofList,
        List.splitOn_intercalate '.' hdot (List.cons_ne_nil _ _), List.map_map]
      rfl

/-- Plain labels are answered as they are on the wire. -/
theorem PlainLabels.answered {labels : List Bytes} (hwritable : Writable labels) (h : PlainLabels labels) :
    answeredLabels labels = labels.map lowerLabel := by
  have htrim := h.trimmed
  obtain ⟨l, rfl⟩ := exists_texts fun label hlabel => (h.plain label hlabel).1
  have hne : ∀ s ∈ l, s ≠ [] := by
    rintro s hs rfl
    exact (hwritable _ (List.mem_map_of_mem hs)).1 rfl
  have hdot : ∀ s ∈ l, '.' ∉ s := by
    intro s hs hdot
    refine (h.plain _ (List.mem_map_of_mem hs)).2 (bytes_dot_mem ?_)
    rwa [String.toList_ofList]
  rw [joinLabels_bytes, runeText_bytes] at htrim
  have hlast : (String.ofList (['.'].intercalate l)).toList.getLast? ≠ some '.' := by
    rw [String.toList_ofList]
    exact getLast?_intercalate hne hdot
  have hlastLower : (ToLower (String.ofList (['.'].intercalate l))).toList.getLast? ≠ some '.' := by
    rw [toList_ToLower, List.getLast?_map, ne_eq, Option.map_eq_some_iff]
    rintro ⟨c, hc, hlower⟩
    exact hlast (toLowerChar_eq_dot.1 hlower ▸ hc)
  -- both times normalising only lower-cases
  have hfirst := normalizeENSName_of_trimmed htrim hlast
  have hsecond := normalizeENSName_of_trimmed htrim.ToLower hlastLower
  have hneLower : ∀ t ∈ l.map (List.map toLowerChar), t ≠ [] := by
    intro t ht hnil
    obtain ⟨s, hs, rfl⟩ := List.mem_map.1 ht
    exact hne s hs (List.map_eq_nil_iff.1 hnil)
  have hdotLower : ∀ t ∈ l.map (List.map toLowerChar), '.' ∉ t := by
    intro t ht hmem
    obtain ⟨s, hs, rfl⟩ := List.mem_map.1 ht
    obtain ⟨c, hc, hlower⟩ := List.mem_map.1 hmem
    exact hdot s hs (toLowerChar_eq_dot.1 hlower ▸ hc)
  rw [answeredLabels, joinLabels_bytes, normalizeENSNameBytes_bytes, hfirst, hsecond, ToLower_idem,
    map_lowerLabel, ToLower, String.toList_ofList, ← map_intercalate_dot,
    labelsOf_intercalate hneLower hdotLower]

/-! ## Answers and hashes -/

/-- The labels of what the decoder accepts. -/
def wireLabels (dns : Bytes) : List Bytes := (decodeLabels dns).toOption.getD []

/-- The labels as they are hashed for the wire name, and for the answer. -/
def hashedFor (keccak : Hash) (labels : List Bytes) : Set Bytes :=
  hashed keccak (labels.map lowerLabel) ∪ hashed keccak (answeredLabels labels)

theorem wireLabels_of_decode {dns : Bytes} {text : String} (h : decodeDNSName dns = .ok text) :
    OnWire (wireLabels dns) dns ∧ text = normalizeENSNameBytes (joinLabels (wireLabels dns)) := by
  obtain ⟨labels, hwire, htext⟩ := decodeDNSName_ok_iff.1 h
  have hlabels : wireLabels dns = labels := by
    obtain ⟨rest, hrest⟩ := hwire.rest
    rw [wireLabels, hrest, decodeLabels_wire hwire.writable]
    rfl
  rw [hlabels]
  exact ⟨hwire, htext⟩

theorem wireLabels_wire {labels : List Bytes} (h : Writable labels) : wireLabels (wire labels) = labels := by
  have hdecode := decodeLabels_wire h []
  rw [List.append_nil] at hdecode
  rw [wireLabels, hdecode]
  rfl

variable {keccak : Hash}

/-- The answer is the hash of the labels on the wire just where both splits agree. -/
theorem ensNameHash_wire_iff {labels : List Bytes} (hwritable : Writable labels)
    (hkeccak : CollisionFree keccak (hashedFor keccak labels)) :
    ensNameHash keccak (bytes (normalizeENSNameBytes (joinLabels labels)))
      = namehash keccak (labels.map lowerLabel) ↔ PlainLabels labels := by
  rw [ensNameHash_decoded]
  constructor
  · intro h
    refine .of_answered (namehash_injective (hkeccak.mono ?_) h)
    rw [hashedFor, Set.union_comm]
  · intro h
    rw [h.answered hwritable]

/-- **Names on the wire.** A name that the encoder accepts comes back normalised if and only if its trimmed
    text does not end with white space and a dot. What the decoder accepts is answered by the hash of its
    lower-case labels if and only if they are texts without a dot and, joined, trimmed; and two such names
    with the same answer have the same labels. -/
theorem dns_names_agree {name enc dns dns' : Bytes} {text text' : String}
    (henc : encodeDNSName name = .ok enc) (hdns : decodeDNSName dns = .ok text)
    (hdns' : decodeDNSName dns' = .ok text')
    (hkeccak : CollisionFree keccak (hashedFor keccak (wireLabels dns) ∪ hashedFor keccak (wireLabels dns'))) :
    (decodeDNSName enc = .ok (normalizeENSNameBytes name) ↔ ¬ SpaceBeforeDot name) ∧
      (OnWire (wireLabels dns) dns ∧
        (ensNameHash keccak (bytes text) = namehash keccak ((wireLabels dns).map lowerLabel) ↔
          PlainLabels (wireLabels dns))) ∧
      (PlainLabels (wireLabels dns) → PlainLabels (wireLabels dns') →
        ensNameHash keccak (bytes text) = ensNameHash keccak (bytes text') →
        (wireLabels dns).map lowerLabel = (wireLabels dns').map lowerLabel) := by
  obtain ⟨hwire, htext⟩ := wireLabels_of_decode hdns
  obtain ⟨hwire', htext'⟩ := wireLabels_of_decode hdns'
  have hanswer := ensNameHash_wire_iff hwire.writable (hkeccak.mono Set.subset_union_left)
  have hanswer' := ensNameHash_wire_iff hwire'.writable (hkeccak.mono Set.subset_union_right)
  rw [htext, htext']
  refine ⟨decode_encode_iff henc, ⟨hwire, hanswer⟩, fun hplain hplain' heq => ?_⟩
  rw [hanswer.2 hplain, hanswer'.2 hplain'] at heq
  refine namehash_injective (hkeccak.mono ?_) heq
  exact Set.union_subset_union Set.subset_union_left Set.subset_union_left

/-- What `keccak256` gives for the label `a`, and for the node of the name `a`. -/
def sampleKeccak : Hash := fun text =>
  if text = [0x61] then 0x3ac225168df54212a25c1c01fd35bebfea408fdac2e31ddd6f80a4bbf9a5f1cb
  else 0x83853f8c4ca91ae85231d68dec421e7d9210f65860b863a574dfc0dc0c7e815e

theorem sampleKeccak_collisionFree (rest : Bytes) :
    CollisionFree sampleKeccak ({[0x61], 0 :: rest} ∪ ∅) := by
  have ha : sampleKeccak [0x61] = 0x3ac225168df54212a25c1c01fd35bebfea408fdac2e31ddd6f80a4bbf9a5f1cb := rfl
  have hnode : sampleKeccak (0 :: rest)
      = 0x83853f8c4ca91ae85231d68dec421e7d9210f65860b863a574dfc0dc0c7e815e :=
    if_neg fun h => absurd (List.cons.inj h).1 (by decide)
  rw [Set.union_empty]
  refine ⟨?_, ?_⟩
  · rintro x (rfl | rfl) y (rfl | rfl) hxy
    · rfl
    · rw [ha, hnode] at hxy
      exact absurd hxy (by decide)
    · rw [ha, hnode] at hxy
      exact absurd hxy (by decide)
    · rfl
  · rintro x (rfl | rfl)
    · rw [ha]
      decide
    · rw [hnode]
      decide

theorem plainLabels_a : PlainLabels [[0x61]] := by
  have ha : bytes "a" = [0x61] := by decide
  refine ⟨fun label hlabel => ?_, ?_⟩
  · obtain rfl := List.mem_singleton.1 hlabel
    exact ⟨ha ▸ valid_bytes "a", by decide⟩
  · have hjoin : joinLabels [[0x61]] = bytes "a" := ha.symm
    rw [hjoin, runeText_bytes]
    refine Trimmed.of_forall fun c hc => ?_
    obtain rfl := List.mem_singleton.1 hc
    decide

theorem writable_a : Writable [[0x61]] := by
  intro label hlabel
  obtain rfl := List.mem_singleton.1 hlabel
  decide

theorem lowerLabel_a : lowerLabel [0x61] = [0x61] := by
  have ha : bytes "a" = [0x61] := by decide
  have hlower : ToLower "a" = "a" := by decide
  rw [← ha, lowerLabel_bytes, hlower]

theorem hashedFor_a : hashedFor sampleKeccak [[0x61]]
    = {[0x61], 0 :: ((word 0).drop 1 ++ word (sampleKeccak [0x61]))} ∪ ∅ := by
  rw [hashedFor, plainLabels_a.answered writable_a, Set.union_self, List.map_singleton, lowerLabel_a]
  rfl

/-- The name `a`. -/
theorem dns_names_agree_a : ensNameHash sampleKeccak (bytes "a") = namehash sampleKeccak [[0x61]] := by
  have hdecode : decodeLabels [1, 0x61, 0] = .ok [[0x61]] := decodeLabels_wire writable_a []
  have hlabels : wireLabels [1, 0x61, 0] = [[0x61]] := wireLabels_wire writable_a
  have hlower : normalizeENSName "a" = "a" := by decide
  have hname : normalizeENSNameBytes (bytes "a") = "a" := by rw [normalizeENSNameBytes_bytes, hlower]
  have hjoin : joinLabels [[0x61]] = bytes "a" := by decide
  have hdns : decodeDNSName [1, 0x61, 0] = .ok "a" := by
    rw [decodeDNSName_of_labels hdecode, hjoin, hname]
  have henc : encodeDNSName (bytes "a") = .ok [1, 0x61, 0] := by
    rw [encodeDNSName, hname]
    decide
  have hkeccak : CollisionFree sampleKeccak
      (hashedFor sampleKeccak (wireLabels [1, 0x61, 0]) ∪ hashedFor sampleKeccak (wireLabels [1, 0x61, 0])) := by
    rw [hlabels, Set.union_self, hashedFor_a]
    exact sampleKeccak_collisionFree _
  have h := (dns_names_agree henc hdns hdns hkeccak).2.1.2
  rw [hlabels, List.map_singleton, lowerLabel_a] at h
  exact h.2 plainLabels_a

/-- The name `abc .` is encoded with a space at its end and decoded without it, and the label `a.b` is
    answered as the labels `a` and `b`. -/
theorem not_dns_names_agree :
    ¬ (∀ name enc, encodeDNSName name = .ok enc →
        decodeDNSName enc = .ok (normalizeENSNameBytes name)) ∧
      ¬ (∀ dns dns' text, decodeDNSName dns = .ok text → decodeDNSName dns' = .ok text →
        (wireLabels dns).map lowerLabel = (wireLabels dns').map lowerLabel) := by
  constructor
  · intro hall
    have hnormal : normalizeENSName "abc ." = "abc " := by decide
    have hname : normalizeENSNameBytes (bytes "abc .") = "abc " := by
      rw [normalizeENSNameBytes_bytes, hnormal]
    have henc : encodeDNSName (bytes "abc .") = .ok [4, 0x61, 0x62, 0x63, 0x20, 0] := by
      rw [encodeDNSName, hname]
      decide
    refine (decode_encode_iff henc).1 (hall _ _ henc) ⟨' ', by decide, ?_⟩
    rw [runeText_bytes, ← List.isSuffixOf_iff_suffix]
    decide
  · intro hall
    have hone : Writable [[0x61, 0x2e, 0x62]] := by
      intro label hlabel
      obtain rfl := List.mem_singleton.1 hlabel
      decide
    have htwo : Writable [[0x61], [0x62]] := by
      intro label hlabel
      rcases List.mem_pair.1 hlabel with rfl | rfl <;> decide
    have hlower : normalizeENSName "a.b" = "a.b" := by decide
    have hdecode : ∀ labels, Writable labels → joinLabels labels = bytes "a.b" →
        decodeDNSName (wire labels) = .ok "a.b" := by
      intro labels hwritable hjoin
      have hlabels := decodeLabels_wire hwritable []
      rw [List.append_nil] at hlabels
      rw [decodeDNSName_of_labels hlabels, hjoin, normalizeENSNameBytes_bytes, hlower]
    have heq := hall _ _ _ (hdecode _ hone (by decide)) (hdecode _ htwo (by decide))
    rw [wireLabels_wire hone, wireLabels_wire htwo] at heq
    exact absurd (congrArg List.length heq) (by simp)

end LesserHost.Ens
