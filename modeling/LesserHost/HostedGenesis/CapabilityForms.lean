import LesserHost.HostedGenesis.Declarations

set_option autoImplicit false

/-! # The normal form of a produced capability

An identifier comes out of `NormalizeProducedCapabilityIdentifier` in one of two ways: it was canonical once
it was trimmed and in lower case, and keeps its separators; or its runs of separators become underscores.
Either way it is canonical, canonical texts are left as they are, and the letters and digits are those of
the text. The retired placeholder has a point and hyphens, so only the first way could yield it, and what
is filtered out beforehand are the texts that lead there.

So a validated list holds fixed points of every check it went through, and goes through them again. -/

namespace LesserHost.HostedGenesis

open LesserHost.Go
open LesserHost.Soul (CapabilityV2)

/-! ## Characters -/

def isCanonicalChar (c : Char) : Bool := isASCIILowerOrDigit c || c == '.' || c == '_' || c == '-'

theorem isASCIILowerOrDigit_iff {c : Char} : isASCIILowerOrDigit c = true ↔
    (97 ≤ c.toNat ∧ c.toNat ≤ 122) ∨ (48 ≤ c.toNat ∧ c.toNat ≤ 57) := by
  have hle : ∀ a b : Char, a ≤ b ↔ a.toNat ≤ b.toNat := fun a b => Iff.rfl
  simp only [isASCIILowerOrDigit, Bool.or_eq_true, Bool.and_eq_true, decide_eq_true_eq, hle]
  exact Iff.rfl

theorem lowerCode_ascii {n : Nat} (h : n < 128) :
    lowerCode n = if 65 ≤ n ∧ n ≤ 90 then n + 32 else n := by
  have hall : ∀ n < 128, lowerCode n = if 65 ≤ n ∧ n ≤ 90 then n + 32 else n := by
    decide +kernel
  exact hall n h

theorem isSpace_ascii {n : Nat} (h : 33 ≤ n ∧ n < 128) : whiteSpace.contains n = false := by
  have hall : ∀ n : Fin 128, 33 ≤ n.val → whiteSpace.contains n.val = false := by decide
  exact hall ⟨n, h.2⟩ h.1

theorem isCanonicalChar_code {c : Char} (h : isCanonicalChar c = true) :
    33 ≤ c.toNat ∧ c.toNat < 128 ∧ ¬ (65 ≤ c.toNat ∧ c.toNat ≤ 90) := by
  simp only [isCanonicalChar, Bool.or_eq_true, beq_iff_eq, isASCIILowerOrDigit_iff] at h
  rcases h with ((h | rfl) | rfl) | rfl
  · omega
  · decide
  · decide
  · decide

theorem toLowerChar_canonical {c : Char} (h : isCanonicalChar c = true) : toLowerChar c = c := by
  obtain ⟨-, hlt, hupper⟩ := isCanonicalChar_code h
  rw [toLowerChar, lowerCode_ascii hlt, if_neg hupper, Char.ofNat_toNat]

theorem isSpace_canonical {c : Char} (h : isCanonicalChar c = true) : isSpace c = false := by
  obtain ⟨hlow, hlt, -⟩ := isCanonicalChar_code h
  exact isSpace_ascii ⟨hlow, hlt⟩

/-! ## Canonical identifiers -/

theorem isCanonical_iff {name : String} : isCanonicalProducedCapabilityIdentifier name = true ↔
    len name ≤ MaxProducedCapabilityIdentifierLength ∧
      ∃ first rest, name.toList = first :: rest ∧ isASCIILowerOrDigit first = true ∧
        ∀ c ∈ rest, isCanonicalChar c = true := by
  unfold isCanonicalProducedCapabilityIdentifier
  split
  case isTrue h =>
    refine iff_of_false nofun ?_
    rintro ⟨hlen, first, rest, hlist, -⟩
    rcases h with rfl | h
    · cases hlist
    · omega
  case isFalse h =>
    have hlen : len name ≤ MaxProducedCapabilityIdentifierLength := not_lt.1 fun hlt => h (Or.inr hlt)
    cases hlist : name.toList with
    | nil => exact iff_of_false nofun (by rintro ⟨-, first, rest, heq, -⟩; cases heq)
    | cons first rest =>
        simp only [Bool.and_eq_true, List.all_eq_true, hlen, true_and]
        constructor
        · intro hall
          exact ⟨first, rest, rfl, hall⟩
        · rintro ⟨_, _, heq, hall⟩
          obtain ⟨rfl, rfl⟩ := List.cons.inj heq
          exact hall

theorem canonical_chars {name : String} (h : isCanonicalProducedCapabilityIdentifier name = true) :
    ∀ c ∈ name.toList, isCanonicalChar c = true := by
  obtain ⟨-, first, rest, hlist, hfirst, hrest⟩ := isCanonical_iff.1 h
  rw [hlist]
  intro c hc
  rcases List.mem_cons.1 hc with rfl | hc
  · rw [isCanonicalChar, hfirst]
    rfl
  · exact hrest c hc

theorem canonical_ne_empty {name : String} (h : isCanonicalProducedCapabilityIdentifier name = true) :
    name ≠ "" := by
  rintro rfl
  cases h

/-- A canonical identifier is trimmed and in lower case. -/
theorem canonical_lower {name : String} (h : isCanonicalProducedCapabilityIdentifier name = true) :
    ToLower (TrimSpace name) = name := by
  have hchars := canonical_chars h
  have htrim : TrimSpace name = name :=
    IsTrimmed.TrimSpace_eq (Trimmed.of_forall fun c hc => isSpace_canonical (hchars c hc))
  rw [htrim, ToLower, List.map_congr_left fun c hc => toLowerChar_canonical (hchars c hc), List.map_id',
    String.ofList_toList]

/-- Canonical identifiers stay as they are. -/
theorem normalizeIdentifier_canonical {name : String}
    (h : isCanonicalProducedCapabilityIdentifier name = true) :
    NormalizeProducedCapabilityIdentifier name = name := by
  have hlen := (isCanonical_iff.1 h).1
  unfold NormalizeProducedCapabilityIdentifier
  dsimp only
  rw [canonical_lower h, if_neg (by rintro (hempty | hlong); exacts [canonical_ne_empty h hempty, by omega]),
    if_pos h]

/-! ## Separators become underscores -/

def isSeparator (c : Char) : Bool := [' ', '.', '_', '/', '-'].contains c

/-- What the loop has written: letters, digits and underscores, a letter or digit first. -/
structure Written (out : List Char) : Prop where
  chars : ∀ c ∈ out, isASCIILowerOrDigit c = true ∨ c = '_'
  first : ∀ c, out.head? = some c → isASCIILowerOrDigit c = true

theorem Written.append {out : List Char} (h : Written out) {ch : Char}
    (hch : isASCIILowerOrDigit ch = true) (pending : Bool) :
    Written (if pending = true ∧ out ≠ [] then out ++ ['_', ch] else out ++ [ch]) := by
  split
  case isTrue hp =>
    constructor
    · intro c hc
      simp only [List.mem_append, List.mem_cons, List.not_mem_nil, or_false] at hc
      rcases hc with hc | rfl | rfl
      · exact h.chars c hc
      · exact Or.inr rfl
      · exact Or.inl hch
    · intro c hc
      rw [List.head?_append_of_ne_nil _ hp.2] at hc
      exact h.first c hc
  case isFalse hp =>
    constructor
    · intro c hc
      rcases List.mem_append.1 hc with hc | hc
      · exact h.chars c hc
      · rw [List.mem_singleton.1 hc]
        exact Or.inl hch
    · intro c hc
      cases out with
      | nil =>
          cases hc
          exact hch
      | cons first out => exact h.first c hc

/-- The letters and digits of a text. -/
def alphanumerics (cs : List Char) : List Char := cs.filter isASCIILowerOrDigit

/-- A text of the loop: it is empty or written, and has the letters and digits that were read; every other
character read is a separator. -/
theorem identifierLoop_spec (cs : List Char) : ∀ (out : List Char) (pending : Bool), Written out →
    identifierLoop out pending cs ≠ "" →
      Written (identifierLoop out pending cs).toList ∧
      (identifierLoop out pending cs).toList.length ≤ MaxProducedCapabilityIdentifierLength ∧
      (identifierLoop out pending cs).toList ≠ [] ∧
      alphanumerics (identifierLoop out pending cs).toList = alphanumerics out ++ alphanumerics cs ∧
      ∀ c ∈ cs, isASCIILowerOrDigit c = true ∨ isSeparator c = true := by
  induction cs with
  | nil =>
      intro out pending hout hne
      rw [identifierLoop] at hne ⊢
      split at hne
      · exact absurd rfl hne
      · rename_i h
        rw [if_neg h, String.toList_ofList]
        rw [not_or, not_or, not_lt] at h
        exact ⟨hout, h.2.2, h.2.1, by simp [alphanumerics], nofun⟩
  | cons ch rest ih =>
      intro out pending hout hne
      rw [identifierLoop] at hne ⊢
      by_cases hch : isASCIILowerOrDigit ch = true
      · rw [if_pos hch] at hne ⊢
        obtain ⟨hwritten, hlen, hnil, halpha, hall⟩ := ih _ false (hout.append hch pending) hne
        refine ⟨hwritten, hlen, hnil, ?_, ?_⟩
        · have hunderscore : isASCIILowerOrDigit '_' = false := by decide
          rw [halpha]
          split <;> simp [alphanumerics, List.filter_append, hch, hunderscore]
        · intro c hc
          rcases List.mem_cons.1 hc with rfl | hc
          · exact Or.inl hch
          · exact hall c hc
      · rw [if_neg hch] at hne ⊢
        by_cases hsep : ch ∈ [' ', '.', '_', '/', '-']
        · rw [if_pos hsep] at hne ⊢
          obtain ⟨hwritten, hlen, hnil, halpha, hall⟩ := ih out true hout hne
          refine ⟨hwritten, hlen, hnil, ?_, ?_⟩
          · rw [halpha, alphanumerics, alphanumerics, alphanumerics, List.filter_cons, if_neg hch]
          · intro c hc
            rcases List.mem_cons.1 hc with rfl | hc
            · exact Or.inr (List.contains_iff_mem.2 hsep)
            · exact hall c hc
        · rw [if_neg hsep] at hne
          exact absurd rfl hne

theorem Written.canonicalChar {out : List Char} (h : Written out) :
    ∀ c ∈ out, isCanonicalChar c = true := by
  intro c hc
  rcases h.chars c hc with hc | rfl
  · rw [isCanonicalChar, hc]
    rfl
  · decide

theorem len_canonical {s : String} (h : ∀ c ∈ s.toList, c.toNat < 128) : len s = s.toList.length := by
  have hsize : ∀ c ∈ s.toList, c.utf8Size = 1 := by
    intro c hc
    have hlt : c.val.toNat < 128 := h c hc
    have hle : c.val ≤ 0x7f := by
      rw [UInt32.le_iff_toNat_le]
      exact Nat.le_of_lt_succ hlt
    unfold Char.utf8Size
    exact if_pos hle
  rw [len, List.map_congr_left hsize]
  simp

/-- The empty loop's identifiers are canonical. -/
theorem identifierLoop_canonical {cs : List Char} (h : identifierLoop [] false cs ≠ "") :
    isCanonicalProducedCapabilityIdentifier (identifierLoop [] false cs) = true := by
  obtain ⟨hwritten, hlen, hnil, -, -⟩ := identifierLoop_spec cs [] false ⟨nofun, nofun⟩ h
  generalize identifierLoop [] false cs = name at *
  refine isCanonical_iff.2 ⟨?_, ?_⟩
  · rw [len_canonical fun c hc => (isCanonicalChar_code (hwritten.canonicalChar c hc)).2.1]
    exact hlen
  · cases hlist : name.toList with
    | nil => exact absurd hlist hnil
    | cons first rest =>
        refine ⟨first, rest, rfl, hwritten.first first (by rw [hlist]; rfl), ?_⟩
        intro c hc
        exact hwritten.canonicalChar c (by rw [hlist]; exact List.mem_cons_of_mem _ hc)

/-- What normalisation makes of a text. -/
theorem normalizeIdentifier_cases {raw : String} (h : NormalizeProducedCapabilityIdentifier raw ≠ "") :
    len (ToLower (TrimSpace raw)) ≤ MaxProducedCapabilityIdentifierLength ∧
    ((isCanonicalProducedCapabilityIdentifier (ToLower (TrimSpace raw)) = true ∧
        NormalizeProducedCapabilityIdentifier raw = ToLower (TrimSpace raw)) ∨
      (NormalizeProducedCapabilityIdentifier raw =
          identifierLoop [] false (ToLower (TrimSpace raw)).toList ∧
        identifierLoop [] false (ToLower (TrimSpace raw)).toList ≠ "")) := by
  unfold NormalizeProducedCapabilityIdentifier at h ⊢
  dsimp only at h ⊢
  generalize ToLower (TrimSpace raw) = name at h ⊢
  split at h
  · exact absurd rfl h
  · rename_i hbounds
    rw [if_neg hbounds]
    rw [not_or, not_lt] at hbounds
    refine ⟨hbounds.2, ?_⟩
    split at h
    · rename_i hcanonical
      rw [if_pos hcanonical]
      exact Or.inl ⟨hcanonical, rfl⟩
    · rename_i hcanonical
      rw [if_neg hcanonical]
      exact Or.inr ⟨rfl, h⟩

/-- **An identifier is canonical** or there is none. -/
theorem normalizeIdentifier_isCanonical {raw : String}
    (h : NormalizeProducedCapabilityIdentifier raw ≠ "") :
    isCanonicalProducedCapabilityIdentifier (NormalizeProducedCapabilityIdentifier raw) = true := by
  obtain ⟨-, ⟨hcanonical, heq⟩ | ⟨heq, hne⟩⟩ := normalizeIdentifier_cases h
  · rw [heq]
    exact hcanonical
  · rw [heq]
    exact identifierLoop_canonical hne

/-- Only texts that are filtered out beforehand would become the placeholder. -/
theorem normalizeIdentifier_placeholder {raw : String}
    (h : NormalizeProducedCapabilityIdentifier raw = hostedFirstDefaultPlaceholderCapability) :
    IsPlaceholderCapability raw = true := by
  have hne : NormalizeProducedCapabilityIdentifier raw ≠ "" := by
    rw [h]
    decide
  obtain ⟨hlen, ⟨-, heq⟩ | ⟨heq, hloop⟩⟩ := normalizeIdentifier_cases hne
  · have hname : ToLower (TrimSpace raw) = hostedFirstDefaultPlaceholderCapability := heq.symm.trans h
    unfold IsPlaceholderCapability normalizeCapabilityName
    rw [hname]
    decide
  · obtain ⟨hwritten, -⟩ := identifierLoop_spec _ [] false ⟨nofun, nofun⟩ hloop
    rw [← heq, h] at hwritten
    have hpoint := hwritten.chars '.' (by decide)
    exact absurd hpoint (by decide)

/-! ## Texts that become one identifier -/

/-- White space and the separators of a label. -/
def isBetweenWords (c : Char) : Bool := isSpace c || isSeparator c

/-- What is left of a text without its separators and its letter case. -/
def wordChars (raw : String) : List Char := (ToLower raw).toList.filter fun c => !isBetweenWords c

theorem toLowerChar_space {c : Char} (h : isSpace c = true) : toLowerChar c = c := by
  have hall : ∀ n ∈ whiteSpace, lowerCode n = n := by decide
  have hcode := hall c.toNat (by simpa [isSpace] using h)
  rw [toLowerChar, hcode, Char.ofNat_toNat]

theorem alphanumeric_not_between {c : Char} (h : isASCIILowerOrDigit c = true) :
    isBetweenWords c = false := by
  have hcanonical : isCanonicalChar c = true := by
    rw [isCanonicalChar, h]
    rfl
  have hcode := isASCIILowerOrDigit_iff.1 h
  have hsep : isSeparator c = false := by
    rw [← Bool.not_eq_true, isSeparator, List.contains_iff_mem]
    intro hmem
    simp only [List.mem_cons, List.not_mem_nil, or_false] at hmem
    rcases hmem with rfl | rfl | rfl | rfl | rfl <;> exact absurd h (by decide)
  rw [isBetweenWords, isSpace_canonical hcanonical, hsep]
  rfl

/-- Trimming takes away white space only. -/
theorem wordChars_trimmed (raw : String) :
    wordChars raw = (ToLower (TrimSpace raw)).toList.filter fun c => !isBetweenWords c := by
  have hdrop : ∀ l : List Char, ((l.dropWhile isSpace).map toLowerChar).filter (fun c => !isBetweenWords c)
      = (l.map toLowerChar).filter fun c => !isBetweenWords c := by
    intro l
    induction l with
    | nil => rfl
    | cons c l ih =>
        rw [List.dropWhile_cons]
        split
        · rename_i hc
          rw [ih, List.map_cons, List.filter_cons, toLowerChar_space hc, isBetweenWords, hc]
          rfl
        · rfl
  have hdropEnd : ∀ l : List Char,
      ((l.rdropWhile isSpace).map toLowerChar).filter (fun c => !isBetweenWords c)
        = (l.map toLowerChar).filter fun c => !isBetweenWords c := by
    intro l
    have hreverse := congrArg List.reverse (hdrop l.reverse)
    rw [← List.filter_reverse, ← List.filter_reverse, ← List.map_reverse, ← List.map_reverse,
      List.reverse_reverse] at hreverse
    exact hreverse
  rw [wordChars, toList_ToLower, toList_ToLower, toList_TrimSpace]
  exact ((hdropEnd _).trans (hdrop _)).symm

theorem filter_between_of_class {cs : List Char}
    (h : ∀ c ∈ cs, isASCIILowerOrDigit c = true ∨ isSeparator c = true) :
    (cs.filter fun c => !isBetweenWords c) = alphanumerics cs := by
  refine List.filter_congr fun c hc => ?_
  by_cases halpha : isASCIILowerOrDigit c = true
  · rw [alphanumeric_not_between halpha, halpha]
    rfl
  · have hsep := (h c hc).resolve_left halpha
    rw [isBetweenWords, hsep, Bool.or_true]
    rw [Bool.not_eq_true] at halpha
    rw [halpha]
    rfl

/-- An identifier has the words of its text. -/
theorem normalizeIdentifier_words {raw : String} (h : NormalizeProducedCapabilityIdentifier raw ≠ "") :
    ((NormalizeProducedCapabilityIdentifier raw).toList.filter fun c => !isBetweenWords c)
      = wordChars raw := by
  rw [wordChars_trimmed]
  obtain ⟨-, ⟨-, heq⟩ | ⟨heq, hne⟩⟩ := normalizeIdentifier_cases h
  · rw [heq]
  · obtain ⟨hwritten, -, -, halpha, hall⟩ := identifierLoop_spec _ [] false ⟨nofun, nofun⟩ hne
    have hclass : ∀ c ∈ (identifierLoop [] false (ToLower (TrimSpace raw)).toList).toList,
        isASCIILowerOrDigit c = true ∨ isSeparator c = true := by
      intro c hc
      rcases hwritten.chars c hc with hc | rfl
      · exact Or.inl hc
      · exact Or.inr (by decide)
    have hnone : alphanumerics [] = [] := rfl
    rw [heq, filter_between_of_class hclass, filter_between_of_class hall, halpha, hnone, List.nil_append]

/-! ## The pattern published to providers -/

def isASCIIAlphanumeric (c : Char) : Bool :=
  isASCIILowerOrDigit c || (decide ('A' ≤ c) && decide (c ≤ 'Z'))

/-- `[A-Za-z0-9._/ -]` -/
def isEvidenceChar (c : Char) : Bool := isASCIIAlphanumeric c || ['.', '_', '/', ' ', '-'].contains c

/-- `ProducedCapabilityEvidencePattern`: `^[A-Za-z0-9](?:[A-Za-z0-9._/ -]{0,62}[A-Za-z0-9])?$`. -/
def matchesEvidencePattern (s : String) : Bool :=
  match s.toList with
  | [] => false
  | first :: rest => isASCIIAlphanumeric first &&
      match rest.getLast? with
      | none => true
      | some last => isASCIIAlphanumeric last && rest.dropLast.all isEvidenceChar &&
          decide (rest.dropLast.length ≤ 62)

theorem alphanumeric_lower {c : Char} (h : isASCIIAlphanumeric c = true) :
    isSpace c = false ∧ isASCIILowerOrDigit (toLowerChar c) = true := by
  have hle : ∀ a b : Char, a ≤ b ↔ a.toNat ≤ b.toNat := fun a b => Iff.rfl
  have hcode : (97 ≤ c.toNat ∧ c.toNat ≤ 122) ∨ (48 ≤ c.toNat ∧ c.toNat ≤ 57) ∨
      (65 ≤ c.toNat ∧ c.toNat ≤ 90) := by
    simp only [isASCIIAlphanumeric, Bool.or_eq_true, isASCIILowerOrDigit_iff, Bool.and_eq_true,
      decide_eq_true_eq, hle] at h
    have hA : ('A' : Char).toNat = 65 := rfl
    have hZ : ('Z' : Char).toNat = 90 := rfl
    omega
  refine ⟨isSpace_ascii (by omega), ?_⟩
  rw [isASCIILowerOrDigit_iff, toNat_toLowerChar, lowerCode_ascii (by omega)]
  split <;> omega

theorem evidenceChar_lower {c : Char} (h : isEvidenceChar c = true) :
    isASCIILowerOrDigit (toLowerChar c) = true ∨ toLowerChar c ∈ [' ', '.', '_', '/', '-'] := by
  rw [isEvidenceChar, Bool.or_eq_true] at h
  rcases h with h | h
  · exact Or.inl (alphanumeric_lower h).2
  · simp only [List.contains_iff_mem, List.mem_cons, List.not_mem_nil, or_false] at h
    rcases h with rfl | rfl | rfl | rfl | rfl <;> exact Or.inr (by decide)

/-- What the loop has written and what it has still to read fit into an identifier: the separator that
waits has been read. -/
theorem identifierLoop_ne_empty (cs : List Char) : ∀ (out : List Char) (pending : Bool),
    (∀ c ∈ cs, isASCIILowerOrDigit c = true ∨ c ∈ [' ', '.', '_', '/', '-']) →
    (∀ c, cs.getLast? = some c → isASCIILowerOrDigit c = true) →
    (cs = [] → out ≠ [] ∧ pending = false) →
    out.length + pending.toNat + cs.length ≤ MaxProducedCapabilityIdentifierLength →
      identifierLoop out pending cs ≠ "" := by
  induction cs with
  | nil =>
      intro out pending _ _ hend hlen
      obtain ⟨hout, hpending⟩ := hend rfl
      rw [identifierLoop, if_neg]
      · intro hempty
        exact hout (by rw [← String.toList_ofList (l := out), hempty]; rfl)
      · rintro (hp | hnil | hlong)
        · rw [hpending] at hp
          cases hp
        · exact hout hnil
        · omega
  | cons ch rest ih =>
      intro out pending hclass hlast _ hlen
      have hclass' : ∀ c ∈ rest, isASCIILowerOrDigit c = true ∨ c ∈ [' ', '.', '_', '/', '-'] :=
        fun c hc => hclass c (List.mem_cons_of_mem _ hc)
      have hlast' : ∀ c, rest.getLast? = some c → isASCIILowerOrDigit c = true := by
        intro c hc
        refine hlast c ?_
        rw [List.getLast?_cons, hc]
        rfl
      rw [List.length_cons] at hlen
      rw [identifierLoop]
      by_cases hch : isASCIILowerOrDigit ch = true
      · rw [if_pos hch]
        refine ih _ false hclass' hlast' (fun _ => ⟨?_, rfl⟩) ?_
        · split <;> simp
        · cases pending with
          | true =>
              split
              · simp only [List.length_append, List.length_cons, List.length_nil, Bool.toNat_false,
                  Bool.toNat_true] at hlen ⊢
                omega
              · simp only [List.length_append, List.length_cons, List.length_nil, Bool.toNat_false,
                  Bool.toNat_true] at hlen ⊢
                omega
          | false =>
              rw [if_neg (by simp)]
              simp only [List.length_append, List.length_cons, List.length_nil, Bool.toNat_false]
                at hlen ⊢
              omega
      · rw [if_neg hch, if_pos ((hclass ch List.mem_cons_self).resolve_left hch)]
        refine ih out true hclass' hlast' (fun hrest => ?_) ?_
        · -- the last character is a letter or a digit
          rw [hrest] at hlast
          exact absurd (hlast ch rfl) hch
        · simp only [Bool.toNat_true]
          have hpending : 0 ≤ pending.toNat := Nat.zero_le _
          omega

theorem evidencePattern_spec {s : String} (h : matchesEvidencePattern s = true) :
    (∀ c ∈ s.toList, isEvidenceChar c = true) ∧
      (∃ a, s.toList.head? = some a ∧ isASCIIAlphanumeric a = true) ∧
      (∃ b, s.toList.getLast? = some b ∧ isASCIIAlphanumeric b = true) ∧
      s.toList.length ≤ MaxProducedCapabilityIdentifierLength := by
  have hchar : ∀ c, isASCIIAlphanumeric c = true → isEvidenceChar c = true := fun c hc => by
    rw [isEvidenceChar, hc]
    rfl
  unfold matchesEvidencePattern at h
  cases hlist : s.toList with
  | nil =>
      rw [hlist] at h
      cases h
  | cons first rest =>
      rw [hlist] at h
      dsimp only at h
      rw [Bool.and_eq_true] at h
      obtain ⟨hfirst, h⟩ := h
      cases hend : rest.getLast? with
      | none =>
          obtain rfl := List.getLast?_eq_none_iff.1 hend
          refine ⟨?_, ⟨first, rfl, hfirst⟩, ⟨first, rfl, hfirst⟩, show 1 ≤ 64 by decide⟩
          intro c hc
          rw [List.mem_singleton.1 hc]
          exact hchar first hfirst
      | some last =>
          rw [hend] at h
          simp only [Bool.and_eq_true, decide_eq_true_eq, List.all_eq_true] at h
          obtain ⟨⟨hlast, hmiddle⟩, hlen⟩ := h
          have hrest : rest = rest.dropLast ++ [last] := by
            obtain ⟨middle, rfl⟩ := List.getLast?_eq_some_iff.1 hend
            rw [List.dropLast_concat]
          refine ⟨?_, ⟨first, rfl, hfirst⟩, ⟨last, ?_, hlast⟩, ?_⟩
          · intro c hc
            rcases List.mem_cons.1 hc with rfl | hc
            · exact hchar c hfirst
            · rw [hrest, List.mem_append, List.mem_singleton] at hc
              rcases hc with hc | rfl
              · exact hmiddle c hc
              · exact hchar c hlast
          · rw [List.getLast?_cons, hend]
            rfl
          · rw [List.length_cons, hrest, List.length_append, List.length_singleton]
            show _ ≤ 64
            omega

/-- **A text of the published pattern** has an identifier. -/
theorem normalizeIdentifier_evidence {s : String} (h : matchesEvidencePattern s = true) :
    NormalizeProducedCapabilityIdentifier s ≠ "" := by
  obtain ⟨hall, ⟨a, ha, haAlpha⟩, ⟨b, hb, hbAlpha⟩, hlength⟩ := evidencePattern_spec h
  have htrim : TrimSpace s = s :=
    (isTrimmed_of_ends ha hb (alphanumeric_lower haAlpha).1 (alphanumeric_lower hbAlpha).1).TrimSpace_eq
  have hclass : ∀ c ∈ (ToLower s).toList,
      isASCIILowerOrDigit c = true ∨ c ∈ [' ', '.', '_', '/', '-'] := by
    intro c hc
    rw [toList_ToLower] at hc
    obtain ⟨d, hd, rfl⟩ := List.mem_map.1 hc
    exact evidenceChar_lower (hall d hd)
  have hascii : ∀ c ∈ (ToLower s).toList, c.toNat < 128 := by
    intro c hc
    rcases hclass c hc with hc | hc
    · have hcode := isASCIILowerOrDigit_iff.1 hc
      omega
    · simp only [List.mem_cons, List.not_mem_nil, or_false] at hc
      rcases hc with rfl | rfl | rfl | rfl | rfl <;> decide
  have hlen : len (ToLower s) ≤ MaxProducedCapabilityIdentifierLength := by
    rw [len_canonical hascii, toList_ToLower, List.length_map]
    exact hlength
  have hne : ToLower s ≠ "" := by
    intro hempty
    have hlist := congrArg String.toList hempty
    rw [toList_ToLower] at hlist
    rw [List.map_eq_nil_iff.1 hlist] at ha
    cases ha
  have hlist : (ToLower s).toList ≠ [] := fun hnil => hne (String.toList_eq_nil_iff.1 hnil)
  unfold NormalizeProducedCapabilityIdentifier
  dsimp only
  rw [htrim, if_neg (by rintro (hempty | hlong); exacts [hne hempty, by omega])]
  split
  · exact hne
  · refine identifierLoop_ne_empty _ [] false hclass ?_ (fun hnil => absurd hnil hlist) ?_
    · intro c hc
      rw [toList_ToLower, List.getLast?_map, hb] at hc
      cases hc
      exact (alphanumeric_lower hbAlpha).2
    · rw [toList_ToLower, List.length_map, List.length_nil, Bool.toNat_false, Nat.zero_add]
      simpa using hlength

/-! ## Lists of capabilities -/

/-- A capability that went through validation: validating it again changes nothing. -/
structure Normal (c : CapabilityV2) : Prop where
  canonical : isCanonicalProducedCapabilityIdentifier c.Capability = true
  kept : IsPlaceholderCapability c.Capability = false
  fixed : normalizeProducedCapability c true = (c, none)
  valid : c.Validate = .ok ()

theorem isPlaceholder_canonical {name : String}
    (h : isCanonicalProducedCapabilityIdentifier name = true) :
    IsPlaceholderCapability name = true ↔ name = hostedFirstDefaultPlaceholderCapability := by
  constructor
  · intro hplaceholder
    rw [IsPlaceholderCapability, beq_iff_eq, normalizeCapabilityName, canonical_lower h] at hplaceholder
    split at hplaceholder
    · exact absurd hplaceholder (by decide)
    · exact hplaceholder
  · intro heq
    refine normalizeIdentifier_placeholder ?_
    rw [normalizeIdentifier_canonical h, heq]

theorem normalizeProducedCapability_code (c : CapabilityV2) (strict : Bool) :
    (normalizeProducedCapability c strict).2
      = validateProducedCapabilityFields (normalizeProducedCapability c strict).1 strict := by
  unfold normalizeProducedCapability
  rfl

theorem normalizeProducedCapability_identifier (c : CapabilityV2) :
    (normalizeProducedCapability c true).1.Capability
      = NormalizeProducedCapabilityIdentifier c.Capability := by
  unfold normalizeProducedCapability
  dsimp only
  rw [if_pos rfl]

/-- The strict checks leave what they have accepted as it is. -/
theorem normalizeCapability_normal {c c' : CapabilityV2}
    (hkept : IsPlaceholderCapability c.Capability = false)
    (h : normalizeProducedCapability c true = (c', none)) (hvalid : c'.Validate = .ok ()) :
    Normal c' := by
  have hfirst : (normalizeProducedCapability c true).1 = c' := by rw [h]
  have hfields : validateProducedCapabilityFields c' true = none := by
    rw [← hfirst, ← normalizeProducedCapability_code, h]
  have hidentifier : c'.Capability = NormalizeProducedCapabilityIdentifier c.Capability := by
    rw [← hfirst, normalizeProducedCapability_identifier]
  have hne : NormalizeProducedCapabilityIdentifier c.Capability ≠ "" := by
    intro hempty
    rw [validateProducedCapabilityFields, hidentifier, if_pos hempty] at hfields
    cases hfields
  have hcanonical : isCanonicalProducedCapabilityIdentifier c'.Capability = true := by
    rw [hidentifier]
    exact normalizeIdentifier_isCanonical hne
  refine ⟨hcanonical, ?_, ?_, hvalid⟩
  · rw [← Bool.not_eq_true, isPlaceholder_canonical hcanonical, hidentifier]
    intro hplaceholder
    rw [normalizeIdentifier_placeholder hplaceholder] at hkept
    cases hkept
  · have hsame : (normalizeProducedCapability c' true).1 = c' := by
      have htexts := hfirst
      have hname := normalizeIdentifier_canonical hcanonical
      unfold normalizeProducedCapability at htexts ⊢
      dsimp only at htexts ⊢
      rw [if_pos rfl] at htexts ⊢
      rw [hname]
      subst htexts
      simp
    refine Prod.ext hsame ?_
    rw [normalizeProducedCapability_code, hsame]
    exact hfields

/-- What the loop adds to its output: capabilities in normal form under new identifiers. -/
theorem capabilitiesLoop_normal (rest : List CapabilityV2) : ∀ out result,
    capabilitiesLoop true out rest = .ok result → (∀ c ∈ out, Normal c) →
    (out.map CapabilityV2.Capability).Nodup →
      (∀ c ∈ result, Normal c) ∧ (result.map CapabilityV2.Capability).Nodup ∧
        result.length ≤ out.length + rest.length := by
  induction rest with
  | nil =>
      intro out result h hnormal hnodup
      cases h
      exact ⟨hnormal, hnodup, Nat.le_refl _⟩
  | cons capability rest ih =>
      intro out result h hnormal hnodup
      rw [List.length_cons]
      rw [capabilitiesLoop] at h
      split at h
      · obtain ⟨hall, hdistinct, hlen⟩ := ih out result h hnormal hnodup
        exact ⟨hall, hdistinct, by omega⟩
      · rename_i hkept
        rw [Bool.not_eq_true] at hkept
        split at h
        · cases h
        · rename_i normalized hnormalized
          split at h
          · cases h
          · rename_i hvalid
            have hnew := normalizeCapability_normal hkept hnormalized hvalid
            split at h
            · obtain ⟨hall, hdistinct, hlen⟩ := ih out result h hnormal hnodup
              exact ⟨hall, hdistinct, by omega⟩
            · rename_i hfresh
              have hnormal' : ∀ c ∈ out ++ [normalized], Normal c := by
                intro c hc
                rcases List.mem_append.1 hc with hc | hc
                · exact hnormal c hc
                · rw [List.mem_singleton.1 hc]
                  exact hnew
              have hnodup' : ((out ++ [normalized]).map CapabilityV2.Capability).Nodup := by
                rw [List.map_append, List.map_singleton, List.nodup_append]
                refine ⟨hnodup, List.pairwise_singleton _ _, ?_⟩
                intro a ha b hb hab
                rw [hab, List.mem_singleton.1 hb] at ha
                exact hfresh ha
              obtain ⟨hall, hdistinct, hlen⟩ := ih _ result h hnormal' hnodup'
              refine ⟨hall, hdistinct, ?_⟩
              rw [List.length_append, List.length_singleton] at hlen
              omega

/-- The loop keeps a list of capabilities in normal form as it is. -/
theorem capabilitiesLoop_fixed (rest : List CapabilityV2) : ∀ out,
    (∀ c ∈ rest, Normal c) → ((out ++ rest).map CapabilityV2.Capability).Nodup →
      capabilitiesLoop true out rest = .ok (out ++ rest) := by
  induction rest with
  | nil =>
      intro out _ _
      rw [capabilitiesLoop, List.append_nil]
  | cons c rest ih =>
      intro out hnormal hnodup
      have hc := hnormal c List.mem_cons_self
      have hfresh : c.Capability ∉ out.map CapabilityV2.Capability := by
        rw [List.map_append, List.nodup_append] at hnodup
        intro hmem
        exact hnodup.2.2 _ hmem _ List.mem_cons_self rfl
      rw [capabilitiesLoop, hc.kept, if_neg Bool.false_ne_true, hc.fixed]
      dsimp only
      rw [hc.valid]
      dsimp only
      rw [if_neg hfresh, ih (out ++ [c]) (fun d hd => hnormal d (List.mem_cons_of_mem _ hd)),
        List.append_assoc, List.singleton_append]
      rw [List.append_assoc, List.singleton_append]
      exact hnodup

/-- **Produced capabilities have one normal form**: a validated list is distinct, canonical and free of the
placeholder, and is validated to itself; every text of the published pattern has a canonical identifier,
and texts of one identifier differ in letter case and separators only. -/
theorem producedCapabilities_normalForm :
    (∀ capabilities result, ValidateAndNormalizeProducedCapabilities capabilities = .ok result →
      (result.map CapabilityV2.Capability).Nodup ∧
      (∀ c ∈ result, isCanonicalProducedCapabilityIdentifier c.Capability = true ∧
        c.Capability ≠ hostedFirstDefaultPlaceholderCapability) ∧
      ValidateAndNormalizeProducedCapabilities result = .ok result) ∧
    (∀ s, matchesEvidencePattern s = true → NormalizeProducedCapabilityIdentifier s ≠ "" ∧
      isCanonicalProducedCapabilityIdentifier (NormalizeProducedCapabilityIdentifier s) = true) ∧
    (∀ s t, NormalizeProducedCapabilityIdentifier s = NormalizeProducedCapabilityIdentifier t →
      NormalizeProducedCapabilityIdentifier s ≠ "" → wordChars s = wordChars t) := by
  refine ⟨fun capabilities result h => ?_, fun s hs => ?_, fun s t heq hne => ?_⟩
  · unfold ValidateAndNormalizeProducedCapabilities normalizeProducedCapabilities at h
    split at h
    · cases h
    · rename_i hcount
      obtain ⟨hnormal, hnodup, hlen⟩ := capabilitiesLoop_normal capabilities [] result h nofun List.nodup_nil
      refine ⟨hnodup, fun c hc => ⟨(hnormal c hc).canonical, fun hplaceholder => ?_⟩, ?_⟩
      · have hkept := (hnormal c hc).kept
        rw [(isPlaceholder_canonical (hnormal c hc).canonical).2 hplaceholder] at hkept
        cases hkept
      · unfold ValidateAndNormalizeProducedCapabilities normalizeProducedCapabilities
        rw [if_neg, capabilitiesLoop_fixed result [] hnormal (by simpa using hnodup), List.nil_append]
        rintro ⟨htrue, hmany⟩
        rw [List.length_nil, Nat.zero_add] at hlen
        exact hcount ⟨htrue, by omega⟩
  · have hne := normalizeIdentifier_evidence hs
    exact ⟨hne, normalizeIdentifier_isCanonical hne⟩
  · rw [← normalizeIdentifier_words hne, ← normalizeIdentifier_words (heq ▸ hne), heq]

def sampleCapability (identifier : String) : CapabilityV2 :=
  ⟨identifier, "reviews", [], "self-declared", "", "", ""⟩

/-- A label, its identifier and another spelling of it. -/
theorem sampleCapability_normalForm :
    ValidateAndNormalizeProducedCapabilities [sampleCapability "code_review"]
      = .ok [sampleCapability "code_review"] ∧
    NormalizeProducedCapabilityIdentifier "Code Review" ≠ "" ∧
    wordChars "Code Review" = wordChars "code/review" := by
  have hlist : ValidateAndNormalizeProducedCapabilities [sampleCapability "Code Review"]
      = .ok [sampleCapability "code_review"] := by decide
  exact ⟨(producedCapabilities_normalForm.1 _ _ hlist).2.2,
    (producedCapabilities_normalForm.2.1 "Code Review" (by decide +kernel)).1,
    producedCapabilities_normalForm.2.2 _ _ (by decide +kernel) (by decide +kernel)⟩

end LesserHost.HostedGenesis
