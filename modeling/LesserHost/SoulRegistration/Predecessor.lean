import LesserHost.SoulRegistration.Runs

set_option autoImplicit false

/-! # The predecessor a document names

A document of version 2 or 3 names the version before it by a URI. The number of that version is read from
the URI by `url.Parse` and `Atoi`, which take many spellings of one number; then the URI is rebuilt from the
number and compared with what was written. So the first step says which number is meant, and the second
that it is written as it was recorded: whatever the parser makes of a text, only a recorded URI passes
both.

The other way needs the parser to read a recorded URI back. It does so for the names of buckets in
letters, digits, dots and hyphens, but not for every name that S3 takes for a bucket. -/

namespace LesserHost.SoulRegistration

open LesserHost.Go
open LesserHost.ControlPlane (AppTheoryError newAppTheoryError)
open LesserHost.HostedGenesis (bind_ok seq_ok pure_ok guard_ok)
open LesserHost.Outbound (URL)

/-- The document's version that goes through its own validator. -/
inductive Schema where
  | v2
  | v3
  deriving DecidableEq

/-- `validateSoulRegistrationPreviousVersionURIv3`. -/
def validateSoulRegistrationPreviousVersionURIv3 (cfg : Config) (previousVersionURI : Option String)
    (agentIDHex : String) (nextVersion : Int) : Except AppTheoryError Unit :=
  let invalid (message : String) := newAppTheoryError "app.bad_request" message
  if nextVersion ≤ 1 then
    match previousVersionURI with
    | none => .ok ()
    | some uri =>
        if TrimSpace uri ≠ "" then .error (invalid "previousVersionUri must be null for the first version")
        else .ok ()
  else
    let prevKey := soulRegistrationVersionedS3Key agentIDHex (nextVersion - 1)
    let expected := "s3://" ++ TrimSpace cfg.SoulPackBucketName ++ "/" ++ prevKey
    match previousVersionURI with
    | none => .error (invalid "previousVersionUri is required for subsequent versions")
    | some uri =>
        if TrimSpace uri = "" then
          .error (invalid "previousVersionUri is required for subsequent versions")
        else if TrimSpace uri ≠ expected then
          .error (invalid "previousVersionUri does not match the expected previous version")
        else .ok ()

def validatePrevious (schema : Schema) (cfg : Config) (agentIDHex : String) (nextVersion : Int)
    (previousVersionURI : Option String) : Except AppTheoryError Unit :=
  match schema with
  | .v2 => validateSoulRegistrationPreviousVersionURI (TrimSpace cfg.SoulPackBucketName) agentIDHex
      nextVersion previousVersionURI
  | .v3 => validateSoulRegistrationPreviousVersionURIv3 cfg previousVersionURI agentIDHex nextVersion

/-- The number that is read from the URI and the next one, which is a number of 64 bits, once the URI has
passed the validator. -/
def acceptPredecessor (schema : Schema) (std : Std) (cfg : Config) (agentIDHex : String)
    (previousVersionURI : Option String) : Except AppTheoryError (Int × Int) := do
  let (prev, next) ←
    deriveSoulRegistrationNextVersion std agentIDHex previousVersionURI cfg.SoulPackBucketName
  let next := int64 next
  validatePrevious schema cfg agentIDHex next previousVersionURI
  return (prev, next)

/-! ## The two validators -/

theorem validateV3_eq (cfg : Config) (uri : Option String) (agentIDHex : String) (next : Int) :
    validateSoulRegistrationPreviousVersionURIv3 cfg uri agentIDHex next =
      validateSoulRegistrationPreviousVersionURI (TrimSpace cfg.SoulPackBucketName) agentIDHex next uri := by
  have hblank : TrimSpace "" = "" := by decide
  unfold validateSoulRegistrationPreviousVersionURIv3 validateSoulRegistrationPreviousVersionURI
  cases uri with
  | none => simp only [Option.getD_none, hblank, ne_eq, not_true_eq_false, if_false, if_true]
  | some uri => rfl

/-- Both validators are the same function. -/
theorem validatePrevious_eq (schema : Schema) (cfg : Config) (agentIDHex : String) (next : Int)
    (uri : Option String) : validatePrevious schema cfg agentIDHex next uri =
      validateSoulRegistrationPreviousVersionURI (TrimSpace cfg.SoulPackBucketName) agentIDHex next uri := by
  cases schema with
  | v2 => rfl
  | v3 => exact validateV3_eq cfg uri agentIDHex next

theorem validate_ok {bucketName agentIDHex : String} {next : Int} {uri : Option String} {done : Unit} :
    validateSoulRegistrationPreviousVersionURI bucketName agentIDHex next uri = .ok done ↔
      (next ≤ 1 ∧ TrimSpace (uri.getD "") = "") ∨
        (1 < next ∧ TrimSpace (uri.getD "") = versionURI bucketName agentIDHex (next - 1)) := by
  unfold validateSoulRegistrationPreviousVersionURI
  dsimp only
  by_cases hfirst : next ≤ 1
  · rw [if_pos hfirst, guard_ok]
    simp only [hfirst, ne_eq, not_not, and_true, true_and, not_lt.2 hfirst, false_and, or_false]
  · rw [if_neg hfirst, guard_ok, guard_ok]
    simp only [hfirst, ne_eq, not_not, and_true, false_and, not_le.1 hfirst, true_and, false_or,
      and_iff_right_iff_imp]
    intro huri
    rw [huri]
    exact versionURI_ne_empty _ _

/-! ## What the first step reads -/

/-- The checks on a parsed URI that give the number of a version. -/
structure NamesVersion (u : URL) (bucketName agentIDHex : String) (n : Int) : Prop where
  scheme : ToLower (TrimSpace u.Scheme) = "s3"
  host : TrimSpace u.Host ≠ ""
  bucket : EqualFold (TrimSpace u.Host) (TrimSpace bucketName) = true
  agent : HasPrefix (TrimPrefix (TrimSpace u.Path) "/")
    ("registry/v1/agents/" ++ ToLower (TrimSpace agentIDHex) ++ "/versions/") = true
  number : ∃ version name, Split (TrimPrefix (TrimPrefix (TrimSpace u.Path) "/")
      ("registry/v1/agents/" ++ ToLower (TrimSpace agentIDHex) ++ "/versions/")) '/' = [version, name] ∧
    TrimSpace name = "registration.json" ∧ Atoi (bytes (TrimSpace version)) = some n
  positive : 0 < n

theorem derive_iff {std : Std} {agentIDHex bucketName : String} {uri : Option String} {prev next : Int} :
    deriveSoulRegistrationNextVersion std agentIDHex uri bucketName = .ok (prev, next) ↔
      (TrimSpace (uri.getD "") = "" ∧ prev = 0 ∧ next = 1) ∨
        (TrimSpace (uri.getD "") ≠ "" ∧ next = prev + 1 ∧
          ∃ u, std.Parse (TrimSpace (uri.getD "")) = some u ∧
            NamesVersion u bucketName agentIDHex prev) := by
  unfold deriveSoulRegistrationNextVersion
  dsimp only
  generalize TrimSpace (uri.getD "") = text
  by_cases hblank : text = ""
  · rw [if_pos hblank, Except.ok.injEq, Prod.mk.injEq]
    constructor
    · rintro ⟨hprev, hnext⟩
      exact Or.inl ⟨hblank, hprev.symm, hnext.symm⟩
    · rintro (⟨-, hprev, hnext⟩ | ⟨htext, -⟩)
      · exact ⟨hprev.symm, hnext.symm⟩
      · exact absurd hblank htext
  · rw [if_neg hblank]
    constructor
    · intro h
      refine Or.inr ⟨hblank, ?_⟩
      split at h
      · cases h
      · rename_i u hparse
        simp only [guard_ok, not_or, ne_eq, not_not, Bool.not_eq_false] at h
        obtain ⟨⟨hscheme, hhost⟩, hbucket, hagent, h⟩ := h
        split at h
        · rename_i version name hsplit
          rw [guard_ok, not_not] at h
          obtain ⟨hname, h⟩ := h
          split at h
          · rename_i n hnumber
            rw [guard_ok, Except.ok.injEq, Prod.mk.injEq] at h
            obtain ⟨hpos, hprev, hnext⟩ := h
            rw [hprev] at hnumber hnext hpos
            exact ⟨hnext.symm, u, hparse, hscheme, hhost, hbucket, hagent,
              ⟨version, name, hsplit, hname, hnumber⟩, by omega⟩
          · cases h
        · cases h
    · rintro (⟨htext, -⟩ | ⟨-, hnext, u, hparse, hnames⟩)
      · exact absurd htext hblank
      · obtain ⟨version, name, hsplit, hname, hnumber⟩ := hnames.number
        have hfirst : ¬ (ToLower (TrimSpace u.Scheme) ≠ "s3" ∨ TrimSpace u.Host = "") := by
          rintro (hscheme | hhost)
          · exact hscheme hnames.scheme
          · exact hnames.host hhost
        have hpos : ¬ prev ≤ 0 := not_le.2 hnames.positive
        simp only [hparse, if_neg hfirst, hnames.bucket, hnames.agent, hsplit, hname, hnumber,
          Bool.true_eq_false, if_false, ne_eq, not_true_eq_false, if_neg hpos, hnext]

theorem Atoi_lt {s : Bytes} {n : Int} (h : Atoi s = some n) : n < 2 ^ 63 := by
  unfold Atoi at h
  have hrange := (Option.filter_eq_some_iff.1 h).2
  simp only [Bool.and_eq_true, decide_eq_true_eq] at hrange
  exact hrange.2

theorem NamesVersion.lt {u : URL} {bucketName agentIDHex : String} {n : Int}
    (h : NamesVersion u bucketName agentIDHex n) : n < 2 ^ 63 := by
  obtain ⟨version, name, -, -, hnumber⟩ := h.number
  exact Atoi_lt hnumber

/-! ## Recorded URIs -/

/-- The parser reads the URI of a version back. -/
def ReadsBack (parse : String → Option URL) (cfg : Config) (agentIDHex : String) (n : Int) : Prop :=
  ∃ u, parse (versionURI (TrimSpace cfg.SoulPackBucketName) agentIDHex n) = some u ∧
    NamesVersion u cfg.SoulPackBucketName agentIDHex n

/-- It does for a bucket's name in letters, digits, dots and hyphens and an agent's id in hexadecimal. -/
theorem readsBack_of_names {std : Std} {cfg : Config} {agentIDHex : String}
    (hparse : ParsesObjects std.Parse) (bucket : IsBucketName cfg.SoulPackBucketName)
    (agent : IsAgentIDHex agentIDHex) {n : Int} (hpos : 0 < n) (hn : n < 2 ^ 63) :
    ReadsBack std.Parse cfg agentIDHex n := by
  obtain ⟨m, rfl⟩ := Int.eq_ofNat_of_zero_le hpos.le
  have hderive := derive_versionURI hparse bucket agent (n := m) (by omega) (by omega)
  rw [derive_iff, Option.getD_some, versionURI_trimmed agent] at hderive
  obtain ⟨hblank, -⟩ | ⟨-, -, hread⟩ := hderive
  · exact absurd hblank (versionURI_ne_empty _ _)
  · exact hread

/-! ## What is accepted -/

theorem accept_iff (schema : Schema) (std : Std) (cfg : Config) (agentIDHex : String)
    (uri : Option String) (prev next : Int) :
    acceptPredecessor schema std cfg agentIDHex uri = .ok (prev, next) ↔
      (prev = 0 ∧ next = 1 ∧ TrimSpace (uri.getD "") = "") ∨
        (1 < next ∧ next = prev + 1 ∧ next < 2 ^ 63 ∧
          TrimSpace (uri.getD "") = versionURI (TrimSpace cfg.SoulPackBucketName) agentIDHex prev ∧
          ReadsBack std.Parse cfg agentIDHex prev) := by
  have hone : int64 1 = 1 := int64_eq (by decide) (by decide)
  simp only [acceptPredecessor, bind_ok, Prod.exists, pure_ok, Prod.mk.injEq, validatePrevious_eq,
    validate_ok, exists_const, derive_iff]
  constructor
  · rintro ⟨prev', sum, (⟨hblank, hprev, hsum⟩ | ⟨htext, hsum, u, hparse, hnames⟩), hvalid, hp, hnext⟩
    · rw [hsum, hone] at hnext
      exact Or.inl ⟨by omega, hnext.symm, hblank⟩
    · have hlt := hnames.lt
      have hpos := hnames.positive
      obtain ⟨-, hblank⟩ | ⟨hlater, huri⟩ := hvalid
      · exact absurd hblank htext
      · -- the sum has not wrapped around, or it would be negative
        have hsucc : int64 (prev' + 1) = prev' + 1 := int64_succ hpos.le (by rw [← hsum]; omega) hlt
        have hbound : int64 (prev' + 1) < 2 ^ 63 := by
          unfold int64
          omega
        rw [hsum, hsucc, Int.add_sub_cancel] at huri
        rw [hsum, hsucc] at hnext
        rw [hsucc] at hbound
        subst hp
        refine Or.inr ⟨by omega, hnext.symm, by omega, huri, u, ?_, hnames⟩
        rw [← huri]
        exact hparse
  · rintro (⟨hprev, hnext, hblank⟩ | ⟨hlater, hnext, hbound, huri, u, hparse, hnames⟩)
    · refine ⟨0, 1, Or.inl ⟨hblank, rfl, rfl⟩, Or.inl ⟨?_, hblank⟩, hprev.symm, ?_⟩
      · rw [hone]
      · rw [hone, hnext]
    · have hsucc : int64 (prev + 1) = prev + 1 := int64_eq (by omega) (by omega)
      have htext : TrimSpace (uri.getD "") ≠ "" := by
        rw [huri]
        exact versionURI_ne_empty _ _
      refine ⟨prev, prev + 1, Or.inr ⟨htext, rfl, u, ?_, hnames⟩, Or.inr ⟨?_, ?_⟩, rfl, ?_⟩
      · rw [huri]
        exact hparse
      · rw [hsucc]
        omega
      · rw [hsucc, Int.add_sub_cancel]
        exact huri
      · rw [hsucc, hnext]

/-- **Only recorded URIs are predecessors.** In both versions of a document the next version is `prev + 1`
exactly where the text is the recorded URI of `prev`, the sum is a number of 64 bits and the parser reads
that URI back; it is 1 exactly where no text is there. -/
theorem predecessor_recorded (std : Std) (cfg : Config) (agentIDHex : String) :
    (∀ schema uri prev next, acceptPredecessor schema std cfg agentIDHex uri = .ok (prev, next) ↔
      (prev = 0 ∧ next = 1 ∧ TrimSpace (uri.getD "") = "") ∨
        (1 < next ∧ next = prev + 1 ∧ next < 2 ^ 63 ∧
          TrimSpace (uri.getD "") = versionURI (TrimSpace cfg.SoulPackBucketName) agentIDHex prev ∧
          ReadsBack std.Parse cfg agentIDHex prev)) ∧
      (ParsesObjects std.Parse → IsBucketName cfg.SoulPackBucketName → IsAgentIDHex agentIDHex →
        ∀ n : Int, 0 < n → n < 2 ^ 63 → ReadsBack std.Parse cfg agentIDHex n) :=
  ⟨fun schema uri prev next => accept_iff schema std cfg agentIDHex uri prev next,
    fun hparse bucket agent _ hpos hn => readsBack_of_names hparse bucket agent hpos hn⟩

/-- The sample agent's second document names the first. -/
theorem sample_predecessor :
    acceptPredecessor .v3 sampleStd sampleConfig sampleAgent
      (some (versionURI (TrimSpace sampleConfig.SoulPackBucketName) sampleAgent 1)) = .ok (1, 2) := by
  have hrecorded := predecessor_recorded sampleStd sampleConfig sampleAgent
  refine (hrecorded.1 .v3 _ 1 2).2 (Or.inr ⟨by decide, by decide, by decide, ?_, ?_⟩)
  · exact versionURI_trimmed sample_deployed.agent _ 1
  · exact hrecorded.2 sample_deployed.parse sample_deployed.bucket sample_deployed.agent 1 (by decide)
      (by decide)

/-! ## A name that the parser does not take -/

/-- A colon in a host has to begin a port; here every host with a colon is refused. -/
def portlessParse (uri : String) : Option URL :=
  if ((TrimPrefix uri "s3://").toList.takeWhile (· != '/')).contains ':' then none else sampleParse uri

def accessPointStd : Std := { sampleStd with Parse := portlessParse }

/-- S3 takes the name of an access point for the name of a bucket. -/
def accessPointConfig : Config :=
  { sampleConfig with
    SoulPackBucketName := "arn:aws:s3:us-east-1:123456789012:accesspoint/registry" }

theorem accessPoint_unread (n : Int) :
    portlessParse (versionURI (TrimSpace accessPointConfig.SoulPackBucketName) sampleAgent n) = none := by
  have htrim : TrimSpace accessPointConfig.SoulPackBucketName
      = "arn:aws:s3:us-east-1:123456789012:accesspoint/registry" := by decide
  have hname : "arn:aws:s3:us-east-1:123456789012:accesspoint/registry".toList
      = 'a' :: 'r' :: 'n' :: ':' :: "aws:s3:us-east-1:123456789012:accesspoint/registry".toList := by
    decide
  have hrest : (TrimPrefix (versionURI (TrimSpace accessPointConfig.SoulPackBucketName) sampleAgent n)
      "s3://").toList = 'a' :: 'r' :: 'n' :: ':' ::
        ("aws:s3:us-east-1:123456789012:accesspoint/registry".toList ++
          ("/" ++ soulRegistrationVersionedS3Key sampleAgent n).toList) := by
    rw [htrim, versionURI, String.append_assoc, String.append_assoc, TrimPrefix_append,
      String.toList_append, hname]
    rfl
  rw [portlessParse, hrest, if_pos]
  simp

theorem accessPoint_refused :
    ¬ ∀ (schema : Schema) (std : Std) (cfg : Config) (agentIDHex : String) (uri : Option String)
      (prev next : Int), IsAgentIDHex agentIDHex →
      (acceptPredecessor schema std cfg agentIDHex uri = .ok (prev, next) ↔
        (prev = 0 ∧ next = 1 ∧ TrimSpace (uri.getD "") = "") ∨
          (1 < next ∧ next = prev + 1 ∧ next < 2 ^ 63 ∧
            TrimSpace (uri.getD "") = versionURI (TrimSpace cfg.SoulPackBucketName) agentIDHex prev)) := by
  intro hall
  have hagent := sample_deployed.agent
  have htext := versionURI_trimmed hagent (TrimSpace accessPointConfig.SoulPackBucketName) 1
  have haccept := (hall .v2 accessPointStd accessPointConfig sampleAgent
    (some (versionURI (TrimSpace accessPointConfig.SoulPackBucketName) sampleAgent 1)) 1 2 hagent).2
    (Or.inr ⟨by decide, by decide, by decide, htext⟩)
  obtain ⟨hprev, -⟩ | ⟨-, -, -, -, u, hparse, -⟩ := (accept_iff _ _ _ _ _ _ _).1 haccept
  · cases hprev
  · rw [show accessPointStd.Parse = portlessParse from rfl, accessPoint_unread] at hparse
    cases hparse

end LesserHost.SoulRegistration
