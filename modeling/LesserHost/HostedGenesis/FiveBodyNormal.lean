import LesserHost.HostedGenesis.FiveBody

set_option autoImplicit false

/-! # When a normalised declaration stays as it is

Every text of a declaration is trimmed first and cut at its limit of runes after that. A cut right
behind white space leaves white space at the end of the text, which the next normalisation trims:
the normal form of such a declaration is not normal. `CutsClean` says that no text the normal form
keeps is cut so, and `normalized_stays` that a normalised declaration is normalised to itself just
then. The gates of `ValidateFiveBodyDeclaration` do not see the difference, as they trim every text
again before they look at it (`validate_normalize`). -/

namespace LesserHost.HostedGenesis

open LesserHost.Go

/-! ## One text -/

/-- The text as a declaration in normal form has it. -/
def normalizeText (max : Nat) (s : String) : String := trimRunes (TrimSpace s) max

/-- Trimmed, and within the limit. -/
structure NormalText (max : Nat) (s : String) : Prop where
  trimmed : IsTrimmed s
  within : s.toList.length ≤ max

/-- Where the trimmed text is longer than the limit, the last rune that is kept is no white space. -/
def CutClean (max : Nat) (s : String) : Prop :=
  max < (TrimSpace s).toList.length →
    ∀ c, ((TrimSpace s).toList.take max).getLast? = some c → isSpace c = false

section Text

variable {max : Nat} {s : String}

theorem trimRunes_eq_self (h : s.toList.length ≤ max) : trimRunes s max = s := by
  unfold trimRunes
  split_ifs
  · rfl
  · rfl

theorem trimRunes_of_lt (hmax : 0 < max) (h : max < s.toList.length) :
    trimRunes s max = String.ofList (s.toList.take max) := by
  unfold trimRunes
  rw [if_neg (by omega), if_neg (by omega)]

theorem length_trimRunes (hmax : 0 < max) : (trimRunes s max).toList.length ≤ max := by
  by_cases h : s.toList.length ≤ max
  · rw [trimRunes_eq_self h]
    exact h
  · rw [trimRunes_of_lt hmax (by omega), String.toList_ofList]
    exact List.length_take_le _ _

theorem trimRunes_eq_empty (hmax : 0 < max) : trimRunes s max = "" ↔ s = "" := by
  by_cases h : s.toList.length ≤ max
  · rw [trimRunes_eq_self h]
  · rw [trimRunes_of_lt hmax (by omega), ← String.toList_inj, ← String.toList_inj]
    rw [String.toList_ofList, String.toList_empty, List.take_eq_nil_iff]
    constructor
    · rintro (h₀ | hnil)
      · omega
      · exact hnil
    · exact Or.inr

theorem normalizeText_eq_empty (hmax : 0 < max) : normalizeText max s = "" ↔ TrimSpace s = "" :=
  trimRunes_eq_empty hmax

theorem NormalText.normalizeText_eq (h : NormalText max s) : normalizeText max s = s := by
  have htrim : TrimSpace s = s := h.trimmed.TrimSpace_eq
  rw [normalizeText, htrim, trimRunes_eq_self h.within]

/-- The front of a trimmed text is free of white space already, so only the cut decides. -/
theorem trimmed_take {l : List Char} (h : Trimmed isSpace l) (hmax : 0 < max) :
    Trimmed isSpace (l.take max) ↔ ∀ c, (l.take max).getLast? = some c → isSpace c = false := by
  refine ⟨fun ht => ht.2, fun hlast => ⟨fun c hc => h.1 c ?_, hlast⟩⟩
  rw [List.head?_take, if_neg (by omega)] at hc
  exact hc

theorem normal_normalizeText_iff (hmax : 0 < max) :
    NormalText max (normalizeText max s) ↔ CutClean max s := by
  have hs : IsTrimmed (TrimSpace s) := isTrimmed_TrimSpace s
  have hwithin : (normalizeText max s).toList.length ≤ max := length_trimRunes hmax
  have hiff : NormalText max (normalizeText max s) ↔ IsTrimmed (normalizeText max s) :=
    ⟨fun h => h.trimmed, fun h => ⟨h, hwithin⟩⟩
  rw [hiff]
  by_cases h : (TrimSpace s).toList.length ≤ max
  · rw [normalizeText, trimRunes_eq_self h]
    exact ⟨fun _ hlong => absurd hlong (by omega), fun _ => hs⟩
  · have hlong : max < (TrimSpace s).toList.length := by omega
    rw [normalizeText, trimRunes_of_lt hmax hlong, IsTrimmed, String.toList_ofList,
      trimmed_take hs hmax]
    exact ⟨fun hclean _ => hclean, fun hclean => hclean hlong⟩

/-- What was cut once is short enough never to be cut again. -/
theorem normal_normalizeText_twice (hmax : 0 < max) :
    NormalText max (normalizeText max (normalizeText max s)) := by
  rw [normal_normalizeText_iff hmax]
  intro hlong
  have hcut : (normalizeText max s).toList.length ≤ max := length_trimRunes hmax
  have htrim : (TrimSpace (normalizeText max s)).toList.length
      ≤ (normalizeText max s).toList.length := by
    rw [toList_TrimSpace, trimFunc]
    exact (List.rdropWhile_prefix isSpace _).length_le.trans (List.dropWhile_suffix _).length_le
  omega

end Text

/-! ## Notes -/

theorem fiveBodyRefusalFieldMaxRunes_pos : 0 < fiveBodyRefusalFieldMaxRunes := by decide

theorem fiveBodySummaryMaxRunes_pos : 0 < fiveBodySummaryMaxRunes := by decide

/-- The notes that get into the normal form: the first eight that are not blank. -/
def keptNotes (notes : List String) : List String :=
  (notes.filter fun note => TrimSpace note ≠ "").take fiveBodyEvidenceMaxItems

structure NormalNotes (notes : List String) : Prop where
  few : notes.length ≤ fiveBodyEvidenceMaxItems
  texts : ∀ note ∈ notes, note ≠ "" ∧ NormalText fiveBodyRefusalFieldMaxRunes note

theorem normalizeFiveBodyNotes_eq (notes : List String) :
    normalizeFiveBodyNotes notes =
      (keptNotes notes).map (normalizeText fiveBodyRefusalFieldMaxRunes) := by
  have hpred : (fun note => decide (note ≠ "")) ∘ normalizeText fiveBodyRefusalFieldMaxRunes =
      fun note => decide (TrimSpace note ≠ "") := by
    funext note
    simp only [Function.comp, ne_eq, normalizeText_eq_empty fiveBodyRefusalFieldMaxRunes_pos]
  have hmap : (fun note => trimRunes (TrimSpace note) fiveBodyRefusalFieldMaxRunes) =
      normalizeText fiveBodyRefusalFieldMaxRunes := rfl
  rw [normalizeFiveBodyNotes, keptNotes, hmap, List.filter_map, List.map_take, hpred]

theorem ne_blank_of_mem_keptNotes {notes : List String} {note : String}
    (h : note ∈ keptNotes notes) : TrimSpace note ≠ "" := by
  have hmem := List.mem_of_mem_take h
  simpa using (List.mem_filter.mp hmem).2

theorem NormalNotes.normalize_eq {notes : List String} (h : NormalNotes notes) :
    normalizeFiveBodyNotes notes = notes := by
  have hkept : keptNotes notes = notes := by
    rw [keptNotes, List.filter_eq_self.mpr, List.take_of_length_le h.few]
    intro note hnote
    obtain ⟨hne, htext⟩ := h.texts note hnote
    simpa [htext.trimmed.TrimSpace_eq] using hne
  rw [normalizeFiveBodyNotes_eq, hkept]
  exact (List.map_congr_left fun note hnote => (h.texts note hnote).2.normalizeText_eq).trans
    (List.map_id' notes)

theorem normalNotes_iff {notes : List String} :
    NormalNotes (normalizeFiveBodyNotes notes) ↔
      ∀ note ∈ keptNotes notes, CutClean fiveBodyRefusalFieldMaxRunes note := by
  rw [normalizeFiveBodyNotes_eq]
  constructor
  · intro h note hnote
    rw [← normal_normalizeText_iff fiveBodyRefusalFieldMaxRunes_pos]
    exact (h.texts _ (List.mem_map_of_mem hnote)).2
  · intro h
    refine ⟨?_, fun note hnote => ?_⟩
    · rw [List.length_map]
      exact List.length_take_le _ _
    · obtain ⟨raw, hraw, rfl⟩ := List.mem_map.mp hnote
      refine ⟨?_, (normal_normalizeText_iff fiveBodyRefusalFieldMaxRunes_pos).mpr (h raw hraw)⟩
      rw [Ne, normalizeText_eq_empty fiveBodyRefusalFieldMaxRunes_pos]
      exact ne_blank_of_mem_keptNotes hraw

/-- No note of a normal form is cut by the next one. -/
theorem normalNotes_twice (notes : List String) :
    NormalNotes (normalizeFiveBodyNotes (normalizeFiveBodyNotes notes)) := by
  rw [normalNotes_iff]
  intro note hnote
  have hmem : note ∈ normalizeFiveBodyNotes notes :=
    (List.mem_filter.mp (List.mem_of_mem_take hnote)).1
  rw [normalizeFiveBodyNotes_eq] at hmem
  obtain ⟨raw, -, rfl⟩ := List.mem_map.mp hmem
  rw [← normal_normalizeText_iff fiveBodyRefusalFieldMaxRunes_pos]
  exact normal_normalizeText_twice fiveBodyRefusalFieldMaxRunes_pos

/-! ## Refusals -/

/-- The three texts of a refusal. -/
def FiveBodyRefusalRule.texts (r : FiveBodyRefusalRule) : List String :=
  [r.Bypass, r.Invariant, r.ClosestSafePath]

/-- The refusals that get into the normal form: the first eight with a text that is not blank. -/
def keptRefusals (refusals : List FiveBodyRefusalRule) : List FiveBodyRefusalRule :=
  (refusals.filter fun r => r.texts.any fun s => TrimSpace s ≠ "").take fiveBodyRefusalsMaxItems

structure NormalRefusals (refusals : List FiveBodyRefusalRule) : Prop where
  few : refusals.length ≤ fiveBodyRefusalsMaxItems
  texts : ∀ r ∈ refusals, (∃ s ∈ r.texts, s ≠ "") ∧
    ∀ s ∈ r.texts, NormalText fiveBodyRefusalFieldMaxRunes s

theorem texts_normalizeRefusal (r : FiveBodyRefusalRule) :
    (normalizeRefusal r).texts = r.texts.map (normalizeText fiveBodyRefusalFieldMaxRunes) := by
  simp only [FiveBodyRefusalRule.texts, normalizeRefusal, normalizeText, List.map_cons,
    List.map_nil]

theorem normalizeRefusal_eq {r : FiveBodyRefusalRule}
    (h : ∀ s ∈ r.texts, NormalText fiveBodyRefusalFieldMaxRunes s) : normalizeRefusal r = r := by
  have hb := (h r.Bypass (by simp [FiveBodyRefusalRule.texts])).normalizeText_eq
  have hi := (h r.Invariant (by simp [FiveBodyRefusalRule.texts])).normalizeText_eq
  have hc := (h r.ClosestSafePath (by simp [FiveBodyRefusalRule.texts])).normalizeText_eq
  unfold normalizeText at hb hi hc
  rw [normalizeRefusal, hb, hi, hc]

theorem normalizeRefusals_eq (refusals : List FiveBodyRefusalRule) :
    normalizeRefusals refusals = (keptRefusals refusals).map normalizeRefusal := by
  have hpred : (fun r : FiveBodyRefusalRule => decide
      ¬ (r.Bypass = "" ∧ r.Invariant = "" ∧ r.ClosestSafePath = "")) ∘ normalizeRefusal =
      fun r => r.texts.any fun s => decide (TrimSpace s ≠ "") := by
    funext r
    have hblank : ∀ s, trimRunes (TrimSpace s) fiveBodyRefusalFieldMaxRunes = "" ↔
        TrimSpace s = "" := fun s => trimRunes_eq_empty fiveBodyRefusalFieldMaxRunes_pos
    simp only [Function.comp, normalizeRefusal, hblank, FiveBodyRefusalRule.texts, List.any_cons,
      List.any_nil, Bool.or_false]
    by_cases hb : TrimSpace r.Bypass = "" <;> by_cases hi : TrimSpace r.Invariant = "" <;>
      by_cases hc : TrimSpace r.ClosestSafePath = "" <;> simp [hb, hi, hc]
  rw [normalizeRefusals, keptRefusals, List.filter_map, List.map_take, hpred]

theorem NormalRefusals.normalize_eq {refusals : List FiveBodyRefusalRule}
    (h : NormalRefusals refusals) : normalizeRefusals refusals = refusals := by
  have hkept : keptRefusals refusals = refusals := by
    rw [keptRefusals, List.filter_eq_self.mpr, List.take_of_length_le h.few]
    intro r hr
    obtain ⟨⟨s, hs, hne⟩, htexts⟩ := h.texts r hr
    refine List.any_eq_true.mpr ⟨s, hs, ?_⟩
    simpa [(htexts s hs).trimmed.TrimSpace_eq] using hne
  rw [normalizeRefusals_eq, hkept]
  exact (List.map_congr_left fun r hr => normalizeRefusal_eq (h.texts r hr).2).trans
    (List.map_id' refusals)

theorem normalRefusals_iff {refusals : List FiveBodyRefusalRule} :
    NormalRefusals (normalizeRefusals refusals) ↔
      ∀ r ∈ keptRefusals refusals, ∀ s ∈ r.texts, CutClean fiveBodyRefusalFieldMaxRunes s := by
  rw [normalizeRefusals_eq]
  constructor
  · intro h r hr s hs
    have htexts := (h.texts _ (List.mem_map_of_mem hr)).2
    rw [texts_normalizeRefusal] at htexts
    rw [← normal_normalizeText_iff fiveBodyRefusalFieldMaxRunes_pos]
    exact htexts _ (List.mem_map_of_mem hs)
  · intro h
    refine ⟨?_, fun r hr => ?_⟩
    · rw [List.length_map]
      exact List.length_take_le _ _
    · obtain ⟨raw, hraw, rfl⟩ := List.mem_map.mp hr
      have hkept := (List.mem_filter.mp (List.mem_of_mem_take hraw)).2
      obtain ⟨s, hs, hne⟩ := List.any_eq_true.mp hkept
      rw [texts_normalizeRefusal]
      refine ⟨⟨_, List.mem_map_of_mem hs, ?_⟩, fun t ht => ?_⟩
      · rw [Ne, normalizeText_eq_empty fiveBodyRefusalFieldMaxRunes_pos]
        simpa using hne
      · obtain ⟨u, hu, rfl⟩ := List.mem_map.mp ht
        exact (normal_normalizeText_iff fiveBodyRefusalFieldMaxRunes_pos).mpr (h raw hraw u hu)

theorem normalRefusals_twice (refusals : List FiveBodyRefusalRule) :
    NormalRefusals (normalizeRefusals (normalizeRefusals refusals)) := by
  rw [normalRefusals_iff]
  intro r hr s hs
  have hmem : r ∈ normalizeRefusals refusals :=
    (List.mem_filter.mp (List.mem_of_mem_take hr)).1
  rw [normalizeRefusals_eq] at hmem
  obtain ⟨raw, -, rfl⟩ := List.mem_map.mp hmem
  rw [texts_normalizeRefusal] at hs
  obtain ⟨u, -, rfl⟩ := List.mem_map.mp hs
  rw [← normal_normalizeText_iff fiveBodyRefusalFieldMaxRunes_pos]
  exact normal_normalizeText_twice fiveBodyRefusalFieldMaxRunes_pos

/-! ## The declaration -/

structure FiveBodySection.Normal (s : FiveBodySection) : Prop where
  summary : NormalText fiveBodySummaryMaxRunes s.Summary
  notes : NormalNotes s.Notes

structure FiveBodySoulBody.Normal (s : FiveBodySoulBody) : Prop where
  summary : NormalText fiveBodySummaryMaxRunes s.Summary
  notes : NormalNotes s.Notes
  refusals : NormalRefusals s.Refusals

/-- Every text trimmed and within its limit, and no empty item. -/
structure FiveBodyDeclaration.Normal (d : FiveBodyDeclaration) : Prop where
  identity : d.Identity.Normal
  philosophy : d.Philosophy.Normal
  discipline : d.Discipline.Normal
  boundaries : d.Boundaries.Normal
  soul : d.Soul.Normal

structure FiveBodySection.CutsClean (s : FiveBodySection) : Prop where
  summary : CutClean fiveBodySummaryMaxRunes s.Summary
  notes : ∀ note ∈ keptNotes s.Notes, CutClean fiveBodyRefusalFieldMaxRunes note

structure FiveBodySoulBody.CutsClean (s : FiveBodySoulBody) : Prop where
  summary : CutClean fiveBodySummaryMaxRunes s.Summary
  notes : ∀ note ∈ keptNotes s.Notes, CutClean fiveBodyRefusalFieldMaxRunes note
  refusals : ∀ r ∈ keptRefusals s.Refusals, ∀ t ∈ r.texts, CutClean fiveBodyRefusalFieldMaxRunes t

/-- No text that gets into the normal form is cut right behind white space. -/
structure FiveBodyDeclaration.CutsClean (d : FiveBodyDeclaration) : Prop where
  identity : d.Identity.CutsClean
  philosophy : d.Philosophy.CutsClean
  discipline : d.Discipline.CutsClean
  boundaries : d.Boundaries.CutsClean
  soul : d.Soul.CutsClean

theorem normalizeFiveBodySection_eq (s : FiveBodySection) : normalizeFiveBodySection s =
    ⟨normalizeText fiveBodySummaryMaxRunes s.Summary, normalizeFiveBodyNotes s.Notes⟩ := by
  simp only [normalizeFiveBodySection, normalizeText]

theorem normalizeSoulBody_eq (s : FiveBodySoulBody) : normalizeSoulBody s =
    ⟨normalizeText fiveBodySummaryMaxRunes s.Summary, normalizeFiveBodyNotes s.Notes,
      normalizeRefusals s.Refusals⟩ := by
  simp only [normalizeSoulBody, normalizeText]

theorem FiveBodySection.normal_mk {summary : String} {notes : List String} :
    (FiveBodySection.mk summary notes).Normal ↔
      NormalText fiveBodySummaryMaxRunes summary ∧ NormalNotes notes :=
  ⟨fun h => ⟨h.summary, h.notes⟩, fun h => ⟨h.1, h.2⟩⟩

theorem FiveBodySoulBody.normal_mk {summary : String} {notes : List String}
    {refusals : List FiveBodyRefusalRule} :
    (FiveBodySoulBody.mk summary notes refusals).Normal ↔
      NormalText fiveBodySummaryMaxRunes summary ∧ NormalNotes notes ∧ NormalRefusals refusals :=
  ⟨fun h => ⟨h.summary, h.notes, h.refusals⟩, fun h => ⟨h.1, h.2.1, h.2.2⟩⟩

theorem FiveBodySection.normal_iff (s : FiveBodySection) :
    (normalizeFiveBodySection s).Normal ↔ s.CutsClean := by
  rw [normalizeFiveBodySection_eq, FiveBodySection.normal_mk,
    normal_normalizeText_iff fiveBodySummaryMaxRunes_pos, normalNotes_iff]
  exact ⟨fun h => ⟨h.1, h.2⟩, fun h => ⟨h.summary, h.notes⟩⟩

theorem FiveBodySoulBody.normal_iff (s : FiveBodySoulBody) :
    (normalizeSoulBody s).Normal ↔ s.CutsClean := by
  rw [normalizeSoulBody_eq, FiveBodySoulBody.normal_mk,
    normal_normalizeText_iff fiveBodySummaryMaxRunes_pos, normalNotes_iff, normalRefusals_iff]
  exact ⟨fun h => ⟨h.1, h.2.1, h.2.2⟩, fun h => ⟨h.summary, h.notes, h.refusals⟩⟩

theorem FiveBodyDeclaration.normal_iff (d : FiveBodyDeclaration) :
    (NormalizeFiveBodyDeclaration d).Normal ↔ d.CutsClean := by
  constructor
  · rintro ⟨h₁, h₂, h₃, h₄, h₅⟩
    exact ⟨d.Identity.normal_iff.mp h₁, d.Philosophy.normal_iff.mp h₂,
      d.Discipline.normal_iff.mp h₃, d.Boundaries.normal_iff.mp h₄, d.Soul.normal_iff.mp h₅⟩
  · rintro ⟨h₁, h₂, h₃, h₄, h₅⟩
    exact ⟨d.Identity.normal_iff.mpr h₁, d.Philosophy.normal_iff.mpr h₂,
      d.Discipline.normal_iff.mpr h₃, d.Boundaries.normal_iff.mpr h₄, d.Soul.normal_iff.mpr h₅⟩

theorem FiveBodySection.Normal.normalize_eq {s : FiveBodySection} (h : s.Normal) :
    normalizeFiveBodySection s = s := by
  rw [normalizeFiveBodySection_eq, h.summary.normalizeText_eq, h.notes.normalize_eq]

theorem FiveBodySoulBody.Normal.normalize_eq {s : FiveBodySoulBody} (h : s.Normal) :
    normalizeSoulBody s = s := by
  rw [normalizeSoulBody_eq, h.summary.normalizeText_eq, h.notes.normalize_eq,
    h.refusals.normalize_eq]

/-- A declaration in normal form is its own normal form. -/
theorem FiveBodyDeclaration.Normal.normalize_eq {d : FiveBodyDeclaration} (h : d.Normal) :
    NormalizeFiveBodyDeclaration d = d := by
  rw [NormalizeFiveBodyDeclaration, h.identity.normalize_eq, h.philosophy.normalize_eq,
    h.discipline.normalize_eq, h.boundaries.normalize_eq, h.soul.normalize_eq]

theorem FiveBodySection.normal_twice (s : FiveBodySection) :
    (normalizeFiveBodySection (normalizeFiveBodySection s)).Normal := by
  rw [normalizeFiveBodySection_eq, normalizeFiveBodySection_eq, FiveBodySection.normal_mk]
  dsimp only
  exact ⟨normal_normalizeText_twice fiveBodySummaryMaxRunes_pos, normalNotes_twice _⟩

theorem FiveBodySoulBody.normal_twice (s : FiveBodySoulBody) :
    (normalizeSoulBody (normalizeSoulBody s)).Normal := by
  rw [normalizeSoulBody_eq, normalizeSoulBody_eq, FiveBodySoulBody.normal_mk]
  dsimp only
  exact ⟨normal_normalizeText_twice fiveBodySummaryMaxRunes_pos, normalNotes_twice _,
    normalRefusals_twice _⟩

/-- Whatever the cuts, the second normalisation ends in normal form. -/
theorem FiveBodyDeclaration.normal_twice (d : FiveBodyDeclaration) :
    (NormalizeFiveBodyDeclaration (NormalizeFiveBodyDeclaration d)).Normal :=
  ⟨d.Identity.normal_twice, d.Philosophy.normal_twice, d.Discipline.normal_twice,
    d.Boundaries.normal_twice, d.Soul.normal_twice⟩

/-! ## The gates -/

/-- A summary is blank before the cut where it is blank after it. -/
theorem TrimSpace_normalizeText_eq_empty {max : Nat} (hmax : 0 < max) (s : String) :
    TrimSpace (normalizeText max (normalizeText max s)) = "" ↔
      TrimSpace (normalizeText max s) = "" := by
  rw [(normal_normalizeText_twice hmax).trimmed.TrimSpace_eq, normalizeText_eq_empty hmax]

/-- The refusals of a normal form are normalised once more before they are looked at. -/
theorem ValidateFiveBodyRefusals_normalize (refusals : List FiveBodyRefusalRule) :
    ValidateFiveBodyRefusals (normalizeRefusals (normalizeRefusals refusals)) =
      ValidateFiveBodyRefusals (normalizeRefusals refusals) := by
  unfold ValidateFiveBodyRefusals
  rw [(normalRefusals_twice refusals).normalize_eq]

theorem validateDeclarationSection_normalize (s : DeclarationSection) (d : FiveBodyDeclaration) :
    validateDeclarationSection s (NormalizeFiveBodyDeclaration (NormalizeFiveBodyDeclaration d)) =
      validateDeclarationSection s (NormalizeFiveBodyDeclaration d) := by
  have hblank := TrimSpace_normalizeText_eq_empty fiveBodySummaryMaxRunes_pos
  cases s <;> simp only [validateDeclarationSection, NormalizeFiveBodyDeclaration,
    normalizeFiveBodySection_eq, normalizeSoulBody_eq, hblank, ValidateFiveBodyRefusals_normalize]

/-- The gates say of a normalised declaration what they say of the declaration itself. -/
theorem validate_normalize (d : FiveBodyDeclaration) :
    ValidateFiveBodyDeclaration (NormalizeFiveBodyDeclaration d) = ValidateFiveBodyDeclaration d := by
  unfold ValidateFiveBodyDeclaration
  have hsections : (fun s => validateDeclarationSection s
      (NormalizeFiveBodyDeclaration (NormalizeFiveBodyDeclaration d))) =
      fun s => validateDeclarationSection s (NormalizeFiveBodyDeclaration d) :=
    funext fun s => validateDeclarationSection_normalize s d
  rw [hsections]

/-! ## Normalised once and for all -/

/-- The normal form of `d` is left alone by the next normalisation, all its texts are trimmed and
within their limits, its notes are not empty, and the gates accept it if they accept `d`. -/
structure StaysNormalized (d : FiveBodyDeclaration) : Prop where
  idempotent : NormalizeFiveBodyDeclaration (NormalizeFiveBodyDeclaration d) =
    NormalizeFiveBodyDeclaration d
  texts : (NormalizeFiveBodyDeclaration d).Normal
  accepted : ValidateFiveBodyDeclaration d = .ok () ↔
    ValidateFiveBodyDeclaration (NormalizeFiveBodyDeclaration d) = .ok ()

theorem normalized_stays (d : FiveBodyDeclaration) : StaysNormalized d ↔ d.CutsClean := by
  constructor
  · intro h
    exact d.normal_iff.mp h.texts
  · intro h
    have hnormal : (NormalizeFiveBodyDeclaration d).Normal := d.normal_iff.mpr h
    exact ⟨hnormal.normalize_eq, hnormal, by rw [validate_normalize]⟩

/-- **The second normalisation is the last one**, for every declaration: what is stored as the normal form of a
normal form is not altered any more. -/
theorem normalized_again_stays (d : FiveBodyDeclaration) : StaysNormalized (NormalizeFiveBodyDeclaration d) where
  idempotent := d.normal_twice.normalize_eq
  texts := d.normal_twice
  accepted := by rw [validate_normalize (NormalizeFiveBodyDeclaration d)]

/-- One note of 481 runes, the 480th of them a space. -/
def cutDeclaration : FiveBodyDeclaration :=
  { FiveBodyDeclaration.empty with
    Identity := ⟨"", [String.ofList (List.replicate 479 'a' ++ [' ', 'b'])]⟩ }

/-- The note is trimmed before it is cut. -/
theorem cutNote_trimmed : TrimSpace (String.ofList (List.replicate 479 'a' ++ [' ', 'b']))
    = String.ofList (List.replicate 479 'a' ++ [' ', 'b']) := by
  refine IsTrimmed.TrimSpace_eq ⟨fun c hc => ?_, fun c hc => ?_⟩
  · rw [String.toList_ofList, List.replicate_succ, List.cons_append, List.head?_cons] at hc
    rw [← Option.some.inj hc]
    decide
  · rw [String.toList_ofList, List.getLast?_append, List.getLast?_cons_cons, List.getLast?_singleton,
      Option.some_or] at hc
    rw [← Option.some.inj hc]
    decide

/-- The space at the end of the kept note goes with the second normalisation. -/
theorem cutDeclaration_changes : ¬ StaysNormalized cutDeclaration := by
  intro h
  have hclean := ((FiveBodyDeclaration.normal_iff _).mp h.texts).identity.notes
  have hne : TrimSpace (String.ofList (List.replicate 479 'a' ++ [' ', 'b'])) ≠ "" := by
    rw [cutNote_trimmed]
    intro hempty
    have hnil := congrArg String.toList hempty
    rw [String.toList_ofList, String.toList_empty, List.append_eq_nil_iff] at hnil
    cases hnil.2
  have hkept : keptNotes cutDeclaration.Identity.Notes
      = [String.ofList (List.replicate 479 'a' ++ [' ', 'b'])] := by
    simp only [keptNotes, cutDeclaration, List.filter_cons, decide_eq_true hne, if_true, List.filter_nil]
    rfl
  have hcut := hclean _ (hkept ▸ List.mem_singleton_self _)
  rw [CutClean, cutNote_trimmed, String.toList_ofList] at hcut
  have hlong : fiveBodyRefusalFieldMaxRunes < (List.replicate 479 'a' ++ [' ', 'b']).length := by
    rw [List.length_append, List.length_replicate]
    decide
  have hspace := hcut hlong ' ' (by
    have htake : (List.replicate 479 'a' ++ [' ', 'b']).take fiveBodyRefusalFieldMaxRunes
        = List.replicate 479 'a' ++ [' '] := by
      rw [List.take_append, List.length_replicate, List.take_replicate]
      rfl
    rw [htake, List.getLast?_append, List.getLast?_singleton, Option.some_or])
  exact absurd hspace (by decide)

end LesserHost.HostedGenesis
