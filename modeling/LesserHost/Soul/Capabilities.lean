import LesserHost.ControlPlane.Store
import LesserHost.Go.Strings
import Mathlib.Data.List.Sort

set_option autoImplicit false

/-! # Claim levels of capabilities

What a registration file says of the capabilities of an agent, the check of its claim levels against the
index rows of the agent, and the rows it leaves (`handlers_soul_update_registration.go`). Every publish,
of either path, makes the check first and writes the rows afterwards. -/

namespace LesserHost.Soul

open LesserHost.Go
open LesserHost.ControlPlane (AppTheoryError newAppTheoryError)

def soulClaimLevelSelfDeclared : String := "self-declared"
def soulClaimLevelChallengePassed : String := "challenge-passed"
def soulClaimLevelPeerEndorsed : String := "peer-endorsed"
def soulClaimLevelDeprecated : String := "deprecated"

/-! ## The document -/

/-- An item of `capabilities`: a name, or an object with the fields that are texts. -/
inductive CapabilityItem where
  | name (s : String)
  | object (capability claimLevel claim_level : Option String)
  | other

/-- `extractStringField`. -/
def extractStringField (field : Option String) : String := TrimSpace (field.getD "")

def extractCapabilityNames (items : List CapabilityItem) : List String :=
  items.filterMap fun
    | .name s => some (TrimSpace s)
    | .object capability _ _ => capability.map TrimSpace
    | .other => none

def recordCapabilityClaimLevel (out : String → Option String) : CapabilityItem → String → Option String
  | .name s =>
      let name := ToLower (TrimSpace s)
      if name ≠ "" then Function.update out name (some soulClaimLevelSelfDeclared) else out
  | .object capability claimLevel claim_level =>
      let name := ToLower (TrimSpace (extractStringField capability))
      if name = "" then out
      else
        let level := extractStringField claimLevel
        let level := if level = "" then extractStringField claim_level else level
        let level := if level = "" then soulClaimLevelSelfDeclared else level
        Function.update out name (some (ToLower (TrimSpace level)))
  | .other => out

def extractCapabilityClaimLevels (items : List CapabilityItem) : String → Option String :=
  items.foldl recordCapabilityClaimLevel fun _ => none

/-- `strings.ContainsAny(c, " \t\r\n")`. -/
def containsBlank (c : String) : Bool := c.toList.any fun d => d == ' ' || d == '\t' || d == '\r' || d == '\n'

/-- A name that the index takes. -/
def indexable (c : String) : Bool := c != "" && decide (len c ≤ 64) && !containsBlank c

/-- `normalizeSoulCapabilitiesLoose`. -/
def normalizeSoulCapabilitiesLoose (caps : List String) : List String :=
  let out := caps.foldl (fun out c =>
    let c := ToLower (TrimSpace c)
    if indexable c = false then out
    else if c ∈ out then out
    else out ++ [c]) []
  out.insertionSort (· ≤ ·)

/-! ## The check -/

/-- None for an unknown level. -/
def normalizeCapabilityClaimLevel (raw : String) : Option String :=
  let cl := ToLower (TrimSpace raw)
  let cl := if cl = "" then soulClaimLevelSelfDeclared else cl
  if cl ∈ [soulClaimLevelSelfDeclared, soulClaimLevelChallengePassed, soulClaimLevelPeerEndorsed,
      soulClaimLevelDeprecated] then some cl
  else none

def claimLevelRank (cl : String) : Nat :=
  if cl = soulClaimLevelSelfDeclared then 1
  else if cl = soulClaimLevelChallengePassed then 2
  else if cl = soulClaimLevelPeerEndorsed then 3
  else 0

/-- The capabilities of the identity, and of each capability the claim level of its index row. -/
structure CapabilityRows where
  Capabilities : List String
  index : String → Option String

def getExistingCapabilityClaimLevel (rows : CapabilityRows) (capability : String) : String :=
  match rows.index (ToLower (TrimSpace capability)) with
  | none => soulClaimLevelSelfDeclared
  | some level =>
      let cl := ToLower (TrimSpace level)
      if cl = "" then soulClaimLevelSelfDeclared else cl

def validateCapabilityClaimLevelTransitions (rows : CapabilityRows) (claimLevels : String → Option String) :
    List String → Except AppTheoryError Unit
  | [] => .ok ()
  | cap :: caps =>
      match normalizeCapabilityClaimLevel ((claimLevels cap).getD "") with
      | none =>
          .error (newAppTheoryError "app.bad_request" ("invalid claimLevel for capability: " ++ cap))
      | some normNew =>
          let normOld := (normalizeCapabilityClaimLevel (getExistingCapabilityClaimLevel rows cap)).getD
            soulClaimLevelSelfDeclared
          if normOld = soulClaimLevelDeprecated ∧ normNew ≠ soulClaimLevelDeprecated then
            .error (newAppTheoryError "app.bad_request" ("cannot un-deprecate capability: " ++ cap))
          else if normNew = soulClaimLevelDeprecated then
            validateCapabilityClaimLevelTransitions rows claimLevels caps
          else if claimLevelRank normNew < claimLevelRank normOld then
            .error (newAppTheoryError "app.bad_request"
              ("invalid claimLevel transition for capability " ++ cap ++ ": " ++ normOld ++ " -> "
                ++ normNew))
          else validateCapabilityClaimLevelTransitions rows claimLevels caps

/-! ## The rows -/

/-- The claim level of the row of a capability. -/
def rowLevel (claimLevels : String → Option String) (c : String) : String :=
  let cl := (claimLevels c).getD ""
  ToLower (TrimSpace (if TrimSpace cl = "" then soulClaimLevelSelfDeclared else cl))

def updateSoulAgentCapabilities (rows : CapabilityRows) (capsNorm : List String)
    (claimLevels : String → Option String) : CapabilityRows :=
  let oldCaps := normalizeSoulCapabilitiesLoose rows.Capabilities
  let newCaps := normalizeSoulCapabilitiesLoose capsNorm
  let index := oldCaps.foldl (fun index c =>
    if c ∈ newCaps then index else Function.update index (ToLower (TrimSpace c)) none) rows.index
  let index := newCaps.foldl (fun index c =>
    Function.update index (ToLower (TrimSpace c)) (some (rowLevel claimLevels c))) index
  { Capabilities := newCaps, index := index }

/-- A publish, as far as it concerns the capabilities. -/
def publishCapabilities (rows : CapabilityRows) (items : List CapabilityItem) :
    Except AppTheoryError CapabilityRows :=
  let capsNorm := normalizeSoulCapabilitiesLoose (extractCapabilityNames items)
  let claimLevels := extractCapabilityClaimLevels items
  match validateCapabilityClaimLevelTransitions rows claimLevels (normalizeSoulCapabilitiesLoose capsNorm) with
  | .error e => .error e
  | .ok () => .ok (updateSoulAgentCapabilities rows capsNorm claimLevels)

/-- Accepted publishes, one after the other. -/
def publishAll (rows : CapabilityRows) : List (List CapabilityItem) → Except AppTheoryError CapabilityRows
  | [] => .ok rows
  | items :: rest =>
      match publishCapabilities rows items with
      | .error e => .error e
      | .ok rows => publishAll rows rest

/-! ## Histories -/

/-- The levels at which the documents publish a capability, in order. -/
def levelsOf (docs : List (List CapabilityItem)) (name : String) : List String :=
  docs.filterMap fun items => extractCapabilityClaimLevels items name

/-- The order of the levels: up, or to deprecated. -/
def MayFollow (old new : String) : Prop :=
  new = soulClaimLevelDeprecated ∨
    old ≠ soulClaimLevelDeprecated ∧ claimLevelRank old ≤ claimLevelRank new

/-- No capability is ever published at a level that may not follow an earlier one. -/
def ClaimLevelsKept (docs : List (List CapabilityItem)) : Prop :=
  ∀ name, (levelsOf docs name).Pairwise MayFollow

/-- A document that brings a capability back which the one before it left out does so at a level that may
    follow the last one; and so does every document for a name that the index does not take. -/
def ReturnsKept (docs : List (List CapabilityItem)) : Prop :=
  ∀ pre items post, docs = pre ++ items :: post → ∀ name old new,
    (levelsOf pre name).getLast? = some old → extractCapabilityClaimLevels items name = some new →
    indexable name = false ∨ (pre.getLast?.bind fun last => extractCapabilityClaimLevels last name) = none →
    MayFollow old new

theorem MayFollow.trans {a b c : String} (hab : MayFollow a b) (hbc : MayFollow b c) : MayFollow a c := by
  rcases hbc with hc | ⟨hb, hrank⟩
  · exact Or.inl hc
  · rcases hab with hdeprecated | ⟨ha, hrank'⟩
    · exact absurd hdeprecated hb
    · exact Or.inr ⟨ha, hrank'.trans hrank⟩

theorem levelsOf_append (pre post : List (List CapabilityItem)) (name : String) :
    levelsOf (pre ++ post) name = levelsOf pre name ++ levelsOf post name := List.filterMap_append

/-! ## What is read off a document -/

theorem ToLower_eq_empty {s : String} (h : ToLower s = "") : s = "" := by
  have hlist := congrArg String.toList h
  rw [toList_ToLower] at hlist
  exact String.toList_injective (List.map_eq_nil_iff.1 hlist)

/-- The level of an item, if it is one for the name. -/
theorem recordCapabilityClaimLevel_cases (out : String → Option String) (item : CapabilityItem)
    {name level : String} (h : recordCapabilityClaimLevel out item name = some level) :
    out name = some level ∨
      (ToLower (TrimSpace level) = level ∧ level ≠ "") ∧ name ≠ "" ∧
        ∃ raw ∈ extractCapabilityNames [item], ToLower (TrimSpace raw) = name := by
  have hself : ToLower (TrimSpace soulClaimLevelSelfDeclared) = soulClaimLevelSelfDeclared ∧
      soulClaimLevelSelfDeclared ≠ "" := by decide
  cases item with
  | name s =>
      simp only [recordCapabilityClaimLevel] at h
      split at h
      · next hne =>
          by_cases hname : name = ToLower (TrimSpace s)
          · rw [hname, Function.update_self] at h
            obtain rfl := Option.some.inj h
            refine Or.inr ⟨hself, hname ▸ hne, TrimSpace s, ?_, ?_⟩
            · simp [extractCapabilityNames]
            · rw [TrimSpace_idem, hname]
          · rw [Function.update_of_ne hname] at h
            exact Or.inl h
      · exact Or.inl h
  | object capability claimLevel claim_level =>
      simp only [recordCapabilityClaimLevel] at h
      split at h
      · exact Or.inl h
      · next hne =>
          by_cases hname : name = ToLower (TrimSpace (extractStringField capability))
          · rw [hname, Function.update_self] at h
            have hlevel := Option.some.inj h
            refine Or.inr ⟨?_, hname ▸ hne, ?_⟩
            · refine ⟨by rw [← hlevel, TrimSpace_ToLower_TrimSpace, ToLower_idem], fun hempty => ?_⟩
              rw [hempty] at hlevel
              have hblank := ToLower_eq_empty hlevel
              -- a level that is left is trimmed already
              have htrimmed : ∀ field, TrimSpace (extractStringField field) = extractStringField field :=
                fun field => TrimSpace_idem _
              split_ifs at hblank with h₁ h₂
              · have hnormal := hself.1
                rw [hblank] at hnormal
                exact hself.2 (hnormal.symm.trans (by decide))
              · exact h₂ (htrimmed _ ▸ hblank)
              · exact h₁ (htrimmed _ ▸ hblank)
            · cases capability with
              | none =>
                  refine absurd ?_ hne
                  decide
              | some s =>
                  refine ⟨TrimSpace s, by simp [extractCapabilityNames], ?_⟩
                  rw [hname, extractStringField, Option.getD_some]
          · rw [Function.update_of_ne hname] at h
            exact Or.inl h
  | other => exact Or.inl h

theorem foldl_record_cases (items : List CapabilityItem) (out : String → Option String)
    {name level : String} (h : items.foldl recordCapabilityClaimLevel out name = some level) :
    out name = some level ∨
      (ToLower (TrimSpace level) = level ∧ level ≠ "") ∧ name ≠ "" ∧
        ∃ raw ∈ extractCapabilityNames items, ToLower (TrimSpace raw) = name := by
  induction items generalizing out with
  | nil => exact Or.inl h
  | cons item items ih =>
      rw [List.foldl_cons] at h
      have hnames : extractCapabilityNames (item :: items)
          = extractCapabilityNames [item] ++ extractCapabilityNames items := by
        rw [← List.singleton_append]
        exact List.filterMap_append
      rcases ih (recordCapabilityClaimLevel out item) h with hfirst | ⟨hlevel, hne, raw, hraw, heq⟩
      · rcases recordCapabilityClaimLevel_cases out item hfirst with hout | ⟨hlevel, hne, raw, hraw, heq⟩
        · exact Or.inl hout
        · refine Or.inr ⟨hlevel, hne, raw, ?_, heq⟩
          rw [hnames]
          exact List.mem_append_left _ hraw
      · refine Or.inr ⟨hlevel, hne, raw, ?_, heq⟩
        rw [hnames]
        exact List.mem_append_right _ hraw

/-- What a document says of a capability is in normal form, and the capability is among its names. -/
theorem claimLevel_spec {items : List CapabilityItem} {name level : String}
    (h : extractCapabilityClaimLevels items name = some level) :
    (ToLower (TrimSpace level) = level ∧ level ≠ "") ∧ name ≠ "" ∧
      ∃ raw ∈ extractCapabilityNames items, ToLower (TrimSpace raw) = name :=
  (foldl_record_cases items _ h).resolve_left (by simp)

theorem mem_normalizeLoop (caps out : List String) (c : String) :
    c ∈ caps.foldl (fun out c =>
        let c := ToLower (TrimSpace c)
        if indexable c = false then out
        else if c ∈ out then out
        else out ++ [c]) out
      ↔ c ∈ out ∨ indexable c = true ∧ ∃ raw ∈ caps, ToLower (TrimSpace raw) = c := by
  induction caps generalizing out with
  | nil => simp
  | cons cap caps ih =>
      rw [List.foldl_cons, ih]
      dsimp only
      by_cases hindexable : indexable (ToLower (TrimSpace cap)) = false
      · rw [if_pos hindexable]
        refine or_congr Iff.rfl (and_congr_right fun hc => ?_)
        refine ⟨fun ⟨raw, hraw, heq⟩ => ⟨raw, List.mem_cons_of_mem _ hraw, heq⟩, ?_⟩
        rintro ⟨raw, hraw, heq⟩
        rcases List.mem_cons.1 hraw with rfl | hraw
        · rw [heq, hc] at hindexable
          cases hindexable
        · exact ⟨raw, hraw, heq⟩
      · rw [if_neg hindexable]
        rw [Bool.not_eq_false] at hindexable
        by_cases hmem : ToLower (TrimSpace cap) ∈ out
        · rw [if_pos hmem]
          constructor
          · rintro (hout | ⟨hc, raw, hraw, heq⟩)
            · exact Or.inl hout
            · exact Or.inr ⟨hc, raw, List.mem_cons_of_mem _ hraw, heq⟩
          · rintro (hout | ⟨hc, raw, hraw, heq⟩)
            · exact Or.inl hout
            · rcases List.mem_cons.1 hraw with rfl | hraw
              · exact Or.inl (heq ▸ hmem)
              · exact Or.inr ⟨hc, raw, hraw, heq⟩
        · rw [if_neg hmem]
          constructor
          · rintro (hout | ⟨hc, raw, hraw, heq⟩)
            · rcases List.mem_append.1 hout with hout | hout
              · exact Or.inl hout
              · obtain rfl := List.mem_singleton.1 hout
                exact Or.inr ⟨hindexable, cap, List.mem_cons_self, rfl⟩
            · exact Or.inr ⟨hc, raw, List.mem_cons_of_mem _ hraw, heq⟩
          · rintro (hout | ⟨hc, raw, hraw, heq⟩)
            · exact Or.inl (List.mem_append_left _ hout)
            · rcases List.mem_cons.1 hraw with rfl | hraw
              · exact Or.inl (List.mem_append_right _ (List.mem_singleton.2 heq.symm))
              · exact Or.inr ⟨hc, raw, hraw, heq⟩

theorem mem_normalizeSoulCapabilitiesLoose {caps : List String} {c : String} :
    c ∈ normalizeSoulCapabilitiesLoose caps
      ↔ indexable c = true ∧ ∃ raw ∈ caps, ToLower (TrimSpace raw) = c := by
  have hloop := mem_normalizeLoop caps [] c
  simp only [List.not_mem_nil, false_or] at hloop
  exact (List.mem_insertionSort (· ≤ ·)).trans hloop

theorem normalizeSoulCapabilitiesLoose_normal {caps : List String} {c : String}
    (h : c ∈ normalizeSoulCapabilitiesLoose caps) : ToLower (TrimSpace c) = c := by
  obtain ⟨-, raw, -, rfl⟩ := mem_normalizeSoulCapabilitiesLoose.1 h
  rw [TrimSpace_ToLower_TrimSpace, ToLower_idem]

theorem mem_normalize_twice {caps : List String} {c : String}
    (h : c ∈ normalizeSoulCapabilitiesLoose caps) :
    c ∈ normalizeSoulCapabilitiesLoose (normalizeSoulCapabilitiesLoose caps) :=
  mem_normalizeSoulCapabilitiesLoose.2
    ⟨(mem_normalizeSoulCapabilitiesLoose.1 h).1, c, h, normalizeSoulCapabilitiesLoose_normal h⟩

/-! ## What a publish checks and writes -/

theorem validate_ok {rows : CapabilityRows} {claimLevels : String → Option String} {caps : List String}
    (h : validateCapabilityClaimLevelTransitions rows claimLevels caps = .ok ()) {c : String}
    (hc : c ∈ caps) :
    ∃ new, normalizeCapabilityClaimLevel ((claimLevels c).getD "") = some new ∧
      MayFollow ((normalizeCapabilityClaimLevel (getExistingCapabilityClaimLevel rows c)).getD
        soulClaimLevelSelfDeclared) new := by
  induction caps with
  | nil => cases hc
  | cons cap caps ih =>
      unfold validateCapabilityClaimLevelTransitions at h
      split at h
      · cases h
      · next normNew hnew =>
          dsimp only at h
          split at h
          · cases h
          · next hkeep =>
              have hrest : validateCapabilityClaimLevelTransitions rows claimLevels caps = .ok () := by
                split at h
                · exact h
                · split at h
                  · cases h
                  · exact h
              rcases List.mem_cons.1 hc with rfl | hc
              · refine ⟨normNew, hnew, ?_⟩
                by_cases hdeprecated : normNew = soulClaimLevelDeprecated
                · exact Or.inl hdeprecated
                · rw [if_neg hdeprecated] at h
                  split at h
                  · cases h
                  · next hrank =>
                      exact Or.inr ⟨fun hold => hkeep ⟨hold, hdeprecated⟩, Nat.le_of_not_lt hrank⟩
              · exact ih hrest hc

theorem foldl_rows {caps : List String} (hnormal : ∀ c ∈ caps, ToLower (TrimSpace c) = c)
    (f : String → Option String) (index : String → Option String) {c : String} (hc : c ∈ caps) :
    caps.foldl (fun index c => Function.update index (ToLower (TrimSpace c)) (f c)) index c = f c := by
  induction caps using List.reverseRecOn with
  | nil => cases hc
  | append_singleton caps d ih =>
      rw [List.foldl_append, List.foldl_cons, List.foldl_nil, hnormal d (by simp)]
      by_cases hcd : c = d
      · subst hcd
        rw [Function.update_self]
      · rw [Function.update_of_ne hcd]
        refine ih (fun e he => hnormal e (List.mem_append_left _ he)) ?_
        rcases List.mem_append.1 hc with hc | hc
        · exact hc
        · exact absurd (List.mem_singleton.1 hc) hcd

/-- The rows have what the document says of the capabilities that the index takes. -/
def Indexed (items : List CapabilityItem) (rows : CapabilityRows) : Prop :=
  ∀ name level, extractCapabilityClaimLevels items name = some level → indexable name = true →
    rows.index name = some level ∧ normalizeCapabilityClaimLevel level = some level

theorem normalize_of_normal {level new : String} (hnormal : ToLower (TrimSpace level) = level)
    (hne : level ≠ "") (h : normalizeCapabilityClaimLevel level = some new) : new = level := by
  unfold normalizeCapabilityClaimLevel at h
  dsimp only at h
  rw [hnormal, if_neg hne] at h
  split at h
  · exact (Option.some.inj h).symm
  · cases h

/-- What an accepted publish has checked and leaves behind. -/
theorem publishCapabilities_ok {rows rows' : CapabilityRows} {items : List CapabilityItem}
    (h : publishCapabilities rows items = .ok rows') :
    Indexed items rows' ∧
      ∀ name level, extractCapabilityClaimLevels items name = some level → indexable name = true →
        MayFollow ((normalizeCapabilityClaimLevel (getExistingCapabilityClaimLevel rows name)).getD
          soulClaimLevelSelfDeclared) level := by
  unfold publishCapabilities at h
  dsimp only at h
  split at h
  · cases h
  · next hvalid =>
      obtain rfl := Except.ok.inj h
      have hall : ∀ name level, extractCapabilityClaimLevels items name = some level →
          indexable name = true →
          name ∈ normalizeSoulCapabilitiesLoose
              (normalizeSoulCapabilitiesLoose (extractCapabilityNames items)) ∧
            normalizeCapabilityClaimLevel level = some level ∧
            MayFollow ((normalizeCapabilityClaimLevel (getExistingCapabilityClaimLevel rows name)).getD
              soulClaimLevelSelfDeclared) level := by
        intro name level hlevel hindexable
        obtain ⟨⟨hnormal, hne⟩, -, raw, hraw, heq⟩ := claimLevel_spec hlevel
        have hmem := mem_normalize_twice
          (mem_normalizeSoulCapabilitiesLoose.2 ⟨hindexable, raw, hraw, heq⟩)
        obtain ⟨new, hnew, hfollow⟩ := validate_ok hvalid hmem
        rw [hlevel, Option.getD_some] at hnew
        obtain rfl := normalize_of_normal hnormal hne hnew
        exact ⟨hmem, hnew, hfollow⟩
      refine ⟨fun name level hlevel hindexable => ?_, fun name level hlevel hindexable =>
        (hall name level hlevel hindexable).2.2⟩
      obtain ⟨hmem, hvalidLevel, -⟩ := hall name level hlevel hindexable
      obtain ⟨⟨hnormal, hne⟩, -⟩ := claimLevel_spec hlevel
      refine ⟨?_, hvalidLevel⟩
      rw [updateSoulAgentCapabilities]
      dsimp only
      rw [foldl_rows (fun c hc => normalizeSoulCapabilitiesLoose_normal hc)
        (fun c => some (rowLevel (extractCapabilityClaimLevels items) c)) _ hmem]
      have hblank : TrimSpace level ≠ "" := by
        intro hblank
        rw [hblank] at hnormal
        exact hne (hnormal ▸ by decide)
      rw [rowLevel, hlevel, Option.getD_some, if_neg hblank, hnormal]

/-- A capability that stays may only move up. -/
theorem Indexed.mayFollow {rows rows' : CapabilityRows} {last items : List CapabilityItem}
    (hlast : Indexed last rows) (h : publishCapabilities rows items = .ok rows') {name old new : String}
    (hold : extractCapabilityClaimLevels last name = some old)
    (hnew : extractCapabilityClaimLevels items name = some new) (hindexable : indexable name = true) :
    MayFollow old new := by
  obtain ⟨hrow, hvalid⟩ := hlast name old hold hindexable
  obtain ⟨⟨hnormal, hne⟩, -⟩ := claimLevel_spec hold
  have hname : ToLower (TrimSpace name) = name := by
    obtain ⟨-, -, raw, -, rfl⟩ := claimLevel_spec hnew
    rw [TrimSpace_ToLower_TrimSpace, ToLower_idem]
  have hexisting : getExistingCapabilityClaimLevel rows name = old := by
    unfold getExistingCapabilityClaimLevel
    rw [hname, hrow]
    dsimp only
    rw [hnormal, if_neg hne]
  have hfollow := (publishCapabilities_ok h).2 name new hnew hindexable
  rw [hexisting, hvalid, Option.getD_some] at hfollow
  exact hfollow

/-! ## Whole histories -/

theorem claimLevelsKept_append {pre : List (List CapabilityItem)} {items : List CapabilityItem}
    (hpre : ClaimLevelsKept pre)
    (hlast : ∀ name old new, (levelsOf pre name).getLast? = some old →
      extractCapabilityClaimLevels items name = some new → MayFollow old new) :
    ClaimLevelsKept (pre ++ [items]) := by
  intro name
  rw [levelsOf_append, List.pairwise_append]
  refine ⟨hpre name, ?_, fun a ha b hb => ?_⟩
  · unfold levelsOf
    cases h : extractCapabilityClaimLevels items name <;> simp [h]
  · have hnew : extractCapabilityClaimLevels items name = some b := by
      unfold levelsOf at hb
      cases h : extractCapabilityClaimLevels items name with
      | none => simp [h] at hb
      | some level =>
          simp only [List.filterMap_cons, h, List.filterMap_nil, List.mem_singleton] at hb
          rw [hb]
    -- an earlier level is the last one or comes before it
    obtain ⟨init, last, hsplit⟩ := List.eq_nil_or_concat (levelsOf pre name) |>.resolve_left
      (List.ne_nil_of_mem ha)
    have hlevels := hpre name
    rw [hsplit, List.concat_eq_append] at ha hlevels
    have hfollow := hlast name last b (by rw [hsplit, List.concat_eq_append, List.getLast?_concat]) hnew
    rcases List.mem_append.1 ha with ha | ha
    · exact ((List.pairwise_append.1 hlevels).2.2 a ha last (by simp)).trans hfollow
    · rw [List.mem_singleton.1 ha]
      exact hfollow

theorem publishAll_kept {rows rows' : CapabilityRows} {pre docs : List (List CapabilityItem)}
    (hpre : ClaimLevelsKept pre) (hrows : ∀ last, pre.getLast? = some last → Indexed last rows)
    (h : publishAll rows docs = .ok rows') (hreturns : ReturnsKept (pre ++ docs)) :
    ClaimLevelsKept (pre ++ docs) := by
  induction docs generalizing pre rows with
  | nil => simpa using hpre
  | cons items docs ih =>
      rw [publishAll] at h
      split at h
      · cases h
      · next rows₁ hfirst =>
          rw [List.append_cons] at hreturns ⊢
          refine ih ?_ ?_ h hreturns
          · refine claimLevelsKept_append hpre fun name old new hold hnew => ?_
            by_cases hfree : indexable name = false ∨
                (pre.getLast?.bind fun last => extractCapabilityClaimLevels last name) = none
            · exact hreturns pre items docs (by simp) name old new hold hnew hfree
            · rw [not_or, Bool.not_eq_false] at hfree
              obtain ⟨hindexable, hkept⟩ := hfree
              obtain ⟨level, hlevel⟩ := Option.ne_none_iff_exists'.1 hkept
              obtain ⟨last, hlast, hsaid⟩ := Option.bind_eq_some_iff.1 hlevel
              -- the last level of the history is that of the last document
              obtain ⟨init, rfl⟩ := List.getLast?_eq_some_iff.1 hlast
              have hsame : old = level := by
                rw [levelsOf_append] at hold
                simp only [levelsOf, List.filterMap_cons, hsaid, List.filterMap_nil,
                  List.getLast?_concat] at hold
                exact (Option.some.inj hold).symm
              rw [hsame]
              exact (hrows last hlast).mayFollow hfirst hsaid hnew hindexable
          · intro last hlast
            rw [List.getLast?_concat] at hlast
            obtain rfl := Option.some.inj hlast
            exact (publishCapabilities_ok hfirst).1

/-- **Claim levels never go back** in a history of accepted publishes if and only if they do not go back
    where a capability returns. -/
theorem claim_levels_kept_iff (rows rows' : CapabilityRows) (docs : List (List CapabilityItem))
    (h : publishAll rows docs = .ok rows') : ClaimLevelsKept docs ↔ ReturnsKept docs := by
  constructor
  · intro hkept pre items post hsplit name old new hold hnew _
    have hlevels := hkept name
    rw [hsplit, levelsOf_append, List.pairwise_append] at hlevels
    refine hlevels.2.2 old (List.mem_of_getLast? hold) new ?_
    simp [levelsOf, hnew]
  · intro hreturns
    have hempty : ClaimLevelsKept [] := fun name => List.Pairwise.nil
    exact @publishAll_kept rows rows' [] docs hempty (by simp) h hreturns

/-! ## A capability that comes back

It is published as endorsed, left out, and published as declared by the agent itself. -/

def sampleEndorsed : List CapabilityItem := [.object (some "a") (some soulClaimLevelPeerEndorsed) none]

def sampleDeclared : List CapabilityItem := [.name "a"]

def sampleHistory : List (List CapabilityItem) := [sampleEndorsed, [], sampleDeclared]

def sampleRows : CapabilityRows := ⟨[], fun _ => none⟩

theorem exists_ok {ε α : Type} {x : Except ε α} (h : x.isOk = true) : ∃ a, x = .ok a := by
  cases x with
  | ok a => exact ⟨a, rfl⟩
  | error e => cases h

theorem sampleHistory_accepted : ∃ rows, publishAll sampleRows sampleHistory = .ok rows := by
  have hok : (publishAll sampleRows sampleHistory).isOk = true := by decide
  exact exists_ok hok

/-- **A claim level can go back** once its capability has been left out. -/
theorem not_claim_levels_kept :
    (∃ rows, publishAll sampleRows sampleHistory = .ok rows) ∧ ¬ ClaimLevelsKept sampleHistory := by
  refine ⟨sampleHistory_accepted, fun h => ?_⟩
  have hlevels : levelsOf sampleHistory "a" = [soulClaimLevelPeerEndorsed, soulClaimLevelSelfDeclared] := by
    decide
  have hkept := h "a"
  rw [hlevels, List.pairwise_pair] at hkept
  revert hkept
  unfold MayFollow
  decide

theorem claim_levels_kept_iff_sample : ClaimLevelsKept sampleHistory ↔ ReturnsKept sampleHistory := by
  obtain ⟨rows, hrows⟩ := sampleHistory_accepted
  exact claim_levels_kept_iff sampleRows rows sampleHistory hrows

end LesserHost.Soul
