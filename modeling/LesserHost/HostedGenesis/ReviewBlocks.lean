import LesserHost.HostedGenesis.Authoring

set_option autoImplicit false

/-! # What a review can carry

The reader of a review takes as many bytes behind the first begin marker as the header declares, and nothing
but the end marker may follow. So an accepted text has its canonical bytes between the markers, and under the
header of a candidate every other block of the same length is read as it stands. -/

namespace LesserHost.HostedGenesis

open LesserHost.Go Bytes

/-! ## Where a marker was found -/

theorem Index_some {sep s : Bytes} {i : Nat} (h : Index sep s = some i) : HasPrefix (s.drop i) sep = true := by
  induction s generalizing i with
  | nil =>
      rw [Index] at h
      split_ifs at h with hsep
      rw [hsep]
      rfl
  | cons b s ih =>
      rw [Index] at h
      split_ifs at h with hpre
      · cases h
        exact hpre
      · obtain ⟨j, hj, rfl⟩ := Option.map_eq_some_iff.1 h
        exact ih hj

theorem LastIndex_some {sep s : Bytes} {i : Nat} (h : LastIndex sep s = some i) :
    HasPrefix (s.drop i) sep = true := by
  induction s generalizing i with
  | nil =>
      rw [LastIndex] at h
      split_ifs at h with hsep
      rw [hsep]
      rfl
  | cons b s ih =>
      rw [LastIndex] at h
      cases hlast : LastIndex sep s with
      | some j =>
          rw [hlast] at h
          cases h
          exact ih hlast
      | none =>
          rw [hlast] at h
          dsimp only at h
          split_ifs at h with hpre
          cases h
          exact hpre

/-- The text around a marker at `i`. -/
theorem eq_around {sep s : Bytes} {i : Nat} (h : HasPrefix (s.drop i) sep = true) :
    s = s.take i ++ sep ++ s.drop (i + sep.length) := by
  obtain ⟨rest, hrest⟩ := List.isPrefixOf_iff_prefix.1 h
  have hdrop : s.drop (i + sep.length) = rest := by
    rw [← List.drop_drop, ← hrest, List.drop_left]
  rw [hdrop, List.append_assoc, hrest, List.take_append_drop]

/-! ## Accepted texts -/

def reviewBegin : Bytes := bytes ("\n" ++ declarationOwnerReviewCanonicalBegin ++ "\n")

def reviewEnd : Bytes := bytes ("\n" ++ declarationOwnerReviewCanonicalEnd ++ "\n")

section Accepted

variable {lib : Library} {c : DeclarationCandidate} {text json body : Bytes}

/-- **An accepted text** has the declared number of bytes between the markers, and nothing behind them. -/
theorem Recover_accepted (h : RecoverDeclarationOwnerReviewCanonicalJSON lib text = .ok json) :
    ∃ pre lengthText : Bytes, text = pre ++ bytes declarationOwnerReviewCanonicalLength ++ lengthText ++
        reviewBegin ++ json ++ reviewEnd ∧
      0x0a ∉ lengthText ∧ Atoi lengthText = some (json.length : Int) ∧ json ≠ [] ∧ lib.Valid json = true ∧
      Index reviewBegin text =
        some (pre ++ bytes declarationOwnerReviewCanonicalLength ++ lengthText).length := by
  unfold RecoverDeclarationOwnerReviewCanonicalJSON at h
  split_ifs at h with henvelope
  dsimp only at h
  split at h
  · cases h
  rename_i beginIndex hbegin
  split at h
  · cases h
  rename_i lengthIndex hlength
  split_ifs at h with hlengthText
  split at h
  · cases h
  rename_i canonicalLength hatoi
  split_ifs at h with hrange htruncated hend
  rw [not_or, not_le, not_lt] at hrange
  rw [not_or, not_not, Bool.not_eq_false] at hend
  rw [not_or] at hlengthText
  obtain ⟨n, rfl⟩ := Int.eq_ofNat_of_zero_le hrange.1.le
  rw [Int.toNat_natCast] at htruncated hend h
  have hheader := eq_around (LastIndex_some hlength)
  have htext := eq_around (Index_some hbegin)
  set header := text.take beginIndex with hheaderdef
  set start := beginIndex + (bytes ("\n" ++ declarationOwnerReviewCanonicalBegin ++ "\n")).length with hstart
  set label := bytes declarationOwnerReviewCanonicalLength with hlabel
  have hjson : json = (text.take (start + n)).drop start := (Except.ok.inj h).symm
  have hlen : json.length = n := by
    rw [hjson, List.length_drop, List.length_take]
    omega
  have hrest : text.drop start = json ++ reviewEnd := by
    have hcut : json = (text.drop start).take n := by rw [hjson, List.drop_take, Nat.add_sub_cancel_left]
    have hsplit := (List.take_append_drop n (text.drop start)).symm
    rwa [List.drop_drop, hend.1, ← hcut] at hsplit
  refine ⟨header.take lengthIndex, header.drop (lengthIndex + label.length), ?_, hlengthText.1, ?_, ?_, ?_, ?_⟩
  · rw [← hheader, List.append_assoc, ← hrest]
    exact htext
  · rw [hatoi, hlen]
  · intro hnil
    rw [hnil, List.length_nil] at hlen
    omega
  · rw [hjson]
    exact hend.2
  · rw [← hheader, hheaderdef, List.length_take]
    have hbound : beginIndex ≤ text.length := by
      by_contra hlarge
      have hempty := Index_some hbegin
      rw [List.drop_eq_nil_of_le (not_le.1 hlarge).le] at hempty
      exact absurd hempty (by decide)
    rw [Nat.min_eq_left hbound]
    exact hbegin

/-- **The owner's review.** What is rendered for a candidate is read back. Under the header of the candidate a
block is accepted exactly when it has the declared length and is JSON, and it is returned as it stands; and
every accepted text has the declared number of bytes between its markers. -/
theorem owner_review_read {sourceTurnID : String} {reviewedAt : Time} {review : DeclarationReviewCheckpoint}
    (hrevision : 0 ≤ c.Revision) (hhash : c.CandidateHash = hashBytes lib c.CanonicalJSON)
    (hne : c.CanonicalJSON ≠ []) (hjson : lib.Valid c.CanonicalJSON = true)
    (hrender : RenderDeclarationOwnerReview lib c sourceTurnID reviewedAt = .ok review) :
    RecoverDeclarationOwnerReviewCanonicalJSON lib review.ReviewText = .ok c.CanonicalJSON ∧
      review.ReviewText = ownerReviewHeader c ++ (reviewBegin ++ (c.CanonicalJSON ++ reviewEnd)) ∧
      (∀ body json : Bytes,
        RecoverDeclarationOwnerReviewCanonicalJSON lib (ownerReviewHeader c ++ (reviewBegin ++ body)) =
            .ok json ↔
          RuneCount (ownerReviewHeader c ++ (reviewBegin ++ body)) ≤ MaxDeclarationOwnerReviewRunes ∧
            body = json ++ reviewEnd ∧ json.length = c.CanonicalJSON.length ∧ lib.Valid json = true) ∧
      ∀ text json : Bytes, RecoverDeclarationOwnerReviewCanonicalJSON lib text = .ok json →
        ∃ pre lengthText : Bytes, text = pre ++ bytes declarationOwnerReviewCanonicalLength ++ lengthText ++
            reviewBegin ++ json ++ reviewEnd ∧
          0x0a ∉ lengthText ∧ Atoi lengthText = some (json.length : Int) ∧ json ≠ [] ∧
          lib.Valid json = true ∧
          Index reviewBegin text =
            some (pre ++ bytes declarationOwnerReviewCanonicalLength ++ lengthText).length := by
  obtain ⟨-, hroom, rfl⟩ := RenderDeclarationOwnerReview_ok.1 hrender
  have hline : (0x0a : UInt8) ∉ bytes c.CandidateHash := hhash ▸ newline_not_mem_hash _
  have hbound : c.CanonicalJSON.length < 2 ^ 63 := by
    have hlength := length_le_RuneCount (ownerReviewText c)
    rw [ownerReviewText, List.length_append, List.length_append] at hlength
    unfold MaxDeclarationOwnerReviewRunes at hroom
    rw [ownerReviewText] at hroom
    omega
  refine ⟨Recover_ownerReviewText hrevision hline hne hjson hroom, ?_, fun body json => ?_, fun text json h => ?_⟩
  · simp only [ownerReviewText, reviewBegin, reviewEnd, List.append_assoc]
  · exact Recover_header hrevision hline hne hbound
  · exact Recover_accepted h

theorem owner_review_read_sample :
    ∃ (c : DeclarationCandidate) (review : DeclarationReviewCheckpoint),
      RecoverDeclarationOwnerReviewCanonicalJSON sampleLibrary review.ReviewText = .ok c.CanonicalJSON := by
  obtain ⟨_, _, c₁, _, rest, checkpoint, -, -, -, -, -, hreviewed⟩ := sample_run
  have hvalid := hreviewed.valid
  obtain ⟨review, hrender, -⟩ := (hvalid.review checkpoint hreviewed.reviewed).rendered
  exact ⟨_, review, (owner_review_read hvalid.revision hvalid.hash (canonicalJSON_ne_nil hvalid.canonical)
    rfl hrender).1⟩

/-- What stands in front of the canonical bytes of a text with five of them. -/
def reviewOfFive : Bytes :=
  bytes "Hosted Genesis owner review\n\nCandidate revision: 1\nCandidate hash: sha256:00\n" ++
    bytes declarationOwnerReviewCanonicalLength ++ bytes "5" ++ reviewBegin

theorem reviewOfFive_read :
    RecoverDeclarationOwnerReviewCanonicalJSON sampleLibrary (reviewOfFive ++ bytes "[1,2]" ++ reviewEnd) =
        .ok (bytes "[1,2]") ∧
      RecoverDeclarationOwnerReviewCanonicalJSON sampleLibrary (reviewOfFive ++ bytes "[2,1]" ++ reviewEnd) =
        .ok (bytes "[2,1]") := by
  decide +kernel

/-- Bytes that are moved within the block are read where they are. -/
theorem not_moved_unread :
    ¬ ∀ (lib : Library) (pre json json' read : Bytes),
      RecoverDeclarationOwnerReviewCanonicalJSON lib (pre ++ json ++ reviewEnd) = .ok json →
      json'.Perm json →
      RecoverDeclarationOwnerReviewCanonicalJSON lib (pre ++ json' ++ reviewEnd) = .ok read → read = json := by
  intro h
  exact absurd (h sampleLibrary reviewOfFive (bytes "[1,2]") (bytes "[2,1]") (bytes "[2,1]")
    reviewOfFive_read.1 (by decide +kernel) reviewOfFive_read.2) (by decide +kernel)

end Accepted

end LesserHost.HostedGenesis
