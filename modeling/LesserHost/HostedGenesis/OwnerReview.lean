import LesserHost.HostedGenesis.CandidateValid

set_option autoImplicit false

/-! # Reading a review back

The canonical bytes stand in a review as they are, markers and all: the reader takes the first begin
marker, reads the length in front of it, and cuts that many bytes off. Nothing in front of the marker
looks like it, so what it cuts off is what was written, whatever the bytes are. -/

namespace LesserHost.HostedGenesis

open LesserHost.Go Bytes

variable {lib : Library} {c : DeclarationCandidate}

/-! ## The header -/

/-- A hash is printed in one line. -/
theorem newline_not_mem_hash (body : Bytes) : (0x0a : UInt8) ∉ bytes (hashBytes lib body) := by
  intro h
  obtain ⟨char, hchar, hcode⟩ := mem_bytes_ascii h (by decide)
  simp only [hashBytes, String.toList_append, String.toList_ofList, List.mem_append] at hchar
  have hten : char.toNat = 10 := hcode
  rcases hchar with hstart | hhex
  · have hall : ("sha256:".toList.all fun c => c.toNat != 10) = true := by decide
    exact absurd hten (by simpa using List.all_eq_true.1 hall char hstart)
  · have hspace := isSpace_of_hex (hexEncode_hex _ char hhex)
    rw [isSpace, hten] at hspace
    cases hspace

theorem not_mem_Itoa {b : UInt8} (hb : isDigit b = false) {n : Int} (hn : 0 ≤ n) :
    b ∉ bytes (Itoa n) := by
  obtain ⟨m, rfl⟩ := Int.eq_ofNat_of_zero_le hn
  intro h
  rw [mem_bytes_Itoa h] at hb
  cases hb

/-- The header up to the length. -/
def ownerReviewPreamble (c : DeclarationCandidate) : Bytes :=
  bytes "Hosted Genesis owner review\n\n" ++
  bytes ("Review the exact canonical JSON below. Structural affirmation binds this review text, " ++
    "these canonical bytes, and the candidate revision.\n\n") ++
  bytes ("Candidate revision: " ++ Itoa c.Revision ++ "\nCandidate hash: " ++ c.CandidateHash ++ "\n")

theorem ownerReviewHeader_eq : ownerReviewHeader c = ownerReviewPreamble c ++
    (bytes declarationOwnerReviewCanonicalLength ++ bytes (Itoa c.CanonicalJSON.length)) := by
  rw [ownerReviewHeader, bytes_append declarationOwnerReviewCanonicalLength]
  rfl

/-- No line of the header begins with a hyphen. -/
theorem ownerReviewHeader_apart (hrevision : 0 ≤ c.Revision)
    (hhash : (0x0a : UInt8) ∉ bytes c.CandidateHash) :
    Apart 0x0a 0x2d (ownerReviewHeader c) := by
  have hhead : ∀ {s t : Bytes} {b : UInt8}, s.head? = some b → b ≠ 0x2d → (s ++ t).head? ≠ some 0x2d := by
    intro s t b hs hb h
    rw [List.head?_append, hs, Option.some_or] at h
    exact hb (Option.some.inj h)
  have hlast : ∀ {s t : Bytes}, (0x0a : UInt8) ∉ s → s.getLast? = some 0x0a → t.head? ≠ some 0x2d := by
    intro s t hs h
    exact absurd (List.mem_of_getLast? h) hs
  have hdigits : ∀ {n : Int}, 0 ≤ n → (0x0a : UInt8) ∉ bytes (Itoa n) :=
    fun hn => not_mem_Itoa (by decide) hn
  have hlength : Apart 0x0a 0x2d (bytes declarationOwnerReviewCanonicalLength ++
      bytes (Itoa (c.CanonicalJSON.length : Int))) :=
    .append (by decide) (.of_not_mem (hdigits (Int.natCast_nonneg _)))
      (hlast (by decide))
  rw [ownerReviewHeader_eq, ownerReviewPreamble]
  simp only [bytes_append, List.append_assoc]
  refine .append (by decide) ?_ fun _ => hhead (b := 0x52) (by decide) (by decide)
  rw [← List.append_assoc, ← bytes_append]
  refine .append (by decide +kernel) ?_ fun _ => hhead (b := 0x43) (by decide +kernel) (by decide)
  refine .append (by decide) ?_ (hlast (by decide))
  refine .append (.of_not_mem (hdigits hrevision)) ?_ (hlast (hdigits hrevision))
  refine .append (by decide) ?_ fun h => ?_
  · refine .append (.of_not_mem hhash) ?_ (hlast hhash)
    exact .append (by decide) hlength fun _ => hhead (b := 0x43) (by decide) (by decide)
  · have hspace : (bytes "\nCandidate hash: ").getLast? = some 0x20 := by decide
    rw [hspace] at h
    cases h

/-! ## Reading back -/

/-- The reader behind the header of a candidate: what it accepts is a block of the declared length and the
end marker. -/
theorem Recover_header {body json : Bytes} (hrevision : 0 ≤ c.Revision)
    (hhash : (0x0a : UInt8) ∉ bytes c.CandidateHash) (hne : c.CanonicalJSON ≠ [])
    (hbound : c.CanonicalJSON.length < 2 ^ 63) :
    RecoverDeclarationOwnerReviewCanonicalJSON lib (ownerReviewHeader c ++
        (bytes ("\n" ++ declarationOwnerReviewCanonicalBegin ++ "\n") ++ body)) = .ok json ↔
      RuneCount (ownerReviewHeader c ++
        (bytes ("\n" ++ declarationOwnerReviewCanonicalBegin ++ "\n") ++ body)) ≤
          MaxDeclarationOwnerReviewRunes ∧
      body = json ++ bytes ("\n" ++ declarationOwnerReviewCanonicalEnd ++ "\n") ∧
      json.length = c.CanonicalJSON.length ∧ lib.Valid json = true := by
  set beginToken := bytes ("\n" ++ declarationOwnerReviewCanonicalBegin ++ "\n") with hbegin
  set endToken := bytes ("\n" ++ declarationOwnerReviewCanonicalEnd ++ "\n") with hend
  set text := ownerReviewHeader c ++ (beginToken ++ body) with htext
  have hstart : HasPrefix text (bytes "Hosted Genesis owner review\n\n") = true := by
    rw [htext, ownerReviewHeader]
    refine List.isPrefixOf_iff_prefix.2 ?_
    simp only [List.append_assoc]
    exact List.prefix_append _ _
  have hindex : Index beginToken text = some (ownerReviewHeader c).length := by
    obtain ⟨rest, hrest⟩ : ∃ rest, beginToken = 0x0a :: 0x2d :: rest := ⟨_, rfl⟩
    rw [htext, hrest]
    exact Index_append (by decide) (ownerReviewHeader_apart hrevision hhash)
  have hlabel : LastIndex (bytes declarationOwnerReviewCanonicalLength) (ownerReviewHeader c)
      = some (ownerReviewPreamble c).length := by
    rw [ownerReviewHeader_eq]
    have hrest : bytes declarationOwnerReviewCanonicalLength
        = 0x43 :: bytes "anonical JSON byte length: " := by decide
    rw [hrest]
    exact LastIndex_append (by decide) (not_mem_Itoa (by decide) (Int.natCast_nonneg _))
  have hpos : 0 < c.CanonicalJSON.length := List.length_pos_iff.2 hne
  have htake : text.take (ownerReviewHeader c).length = ownerReviewHeader c := by
    rw [htext, List.take_left]
  have hdrop : (ownerReviewHeader c).drop ((ownerReviewPreamble c).length
      + (bytes declarationOwnerReviewCanonicalLength).length)
      = bytes (Itoa (c.CanonicalJSON.length : Int)) := by
    rw [ownerReviewHeader_eq, ← List.append_assoc, ← List.length_append, List.drop_left]
  have htextLength : text.length = (ownerReviewHeader c).length + (beginToken.length + body.length) := by
    rw [htext, List.length_append, List.length_append]
  unfold RecoverDeclarationOwnerReviewCanonicalJSON
  by_cases hroom : RuneCount text ≤ MaxDeclarationOwnerReviewRunes
  swap
  · rw [if_pos (.inr (not_le.1 hroom))]
    exact iff_of_false (by simp) fun h => hroom h.1
  rw [if_neg (by rw [hstart]; simpa using hroom)]
  dsimp only
  rw [← hbegin, hindex]
  dsimp only
  rw [htake, hlabel]
  dsimp only
  rw [hdrop, if_neg (not_or.2 ⟨not_mem_Itoa (by decide) (Int.natCast_nonneg _),
    bytes_Itoa_ne_nil _⟩), Atoi_Itoa hbound]
  dsimp only
  rw [Int.toNat_natCast]
  by_cases hshort : body.length < c.CanonicalJSON.length
  · -- the block ends too early, whichever check finds it
    refine iff_of_false (fun h => ?_) fun h => ?_
    · split_ifs at h with hlong htruncated
      exact htruncated (by omega)
    · have hlength := congrArg List.length h.2.1
      rw [List.length_append, h.2.2.1] at hlength
      omega
  rw [if_neg (by omega), if_neg (by omega)]
  have hrest : text.drop ((ownerReviewHeader c).length + beginToken.length + c.CanonicalJSON.length) =
      body.drop c.CanonicalJSON.length := by
    rw [htext, ← List.append_assoc, ← List.length_append, ← List.drop_drop, List.drop_left]
  have hcut : (text.take ((ownerReviewHeader c).length + beginToken.length + c.CanonicalJSON.length)).drop
      ((ownerReviewHeader c).length + beginToken.length) = body.take c.CanonicalJSON.length := by
    rw [List.drop_take, Nat.add_sub_cancel_left, htext, ← List.append_assoc, ← List.length_append,
      List.drop_left]
  rw [hrest, hcut, ← hend]
  constructor
  · intro h
    split_ifs at h with hbad
    rw [not_or, not_not, Bool.not_eq_false] at hbad
    obtain rfl := Except.ok.inj h
    refine ⟨hroom, ?_, ?_, hbad.2⟩
    · rw [← hbad.1, List.take_append_drop]
    · rw [List.length_take]
      omega
  · rintro ⟨-, hbody, hlength, hvalid⟩
    rw [hbody, ← hlength, List.drop_left, List.take_left, if_neg (by simp [hvalid])]

/-- **The reader finds the bytes that were written**, whatever they are. -/
theorem Recover_ownerReviewText (hrevision : 0 ≤ c.Revision)
    (hhash : (0x0a : UInt8) ∉ bytes c.CandidateHash) (hne : c.CanonicalJSON ≠ [])
    (hvalid : lib.Valid c.CanonicalJSON = true)
    (hroom : RuneCount (ownerReviewText c) ≤ MaxDeclarationOwnerReviewRunes) :
    RecoverDeclarationOwnerReviewCanonicalJSON lib (ownerReviewText c) = .ok c.CanonicalJSON := by
  have htext : ownerReviewText c = ownerReviewHeader c ++
      (bytes ("\n" ++ declarationOwnerReviewCanonicalBegin ++ "\n") ++
        (c.CanonicalJSON ++ bytes ("\n" ++ declarationOwnerReviewCanonicalEnd ++ "\n"))) := by
    rw [ownerReviewText, List.append_assoc, List.append_assoc]
  have hbound : c.CanonicalJSON.length < 2 ^ 63 := by
    have hlength := length_le_RuneCount (ownerReviewText c)
    rw [htext] at hlength hroom
    simp only [List.length_append] at hlength
    unfold MaxDeclarationOwnerReviewRunes at hroom
    omega
  rw [htext] at hroom ⊢
  exact (Recover_header hrevision hhash hne hbound).2 ⟨hroom, rfl, rfl, hvalid⟩

end LesserHost.HostedGenesis
