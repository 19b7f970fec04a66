import LesserHost.SoulRegistration.Versions

set_option autoImplicit false

/-! # Recovering a published agent

`handlers_soul_recovery.go` reads the version rows that the identity claims, binds each to its object and
to the row before it, and compares the last one with the current object. -/

namespace LesserHost.SoulRegistration

open LesserHost.Go
open LesserHost.HostedGenesis (bind_ok seq_ok pure_ok guard_ok)

structure SoulRecoveryError where
  Code : String
  Message : String
  StatusCode : Nat
  deriving DecidableEq

def soulRecoveryMaxVersions : Int := 100
def soulRecoveryMaxArtifactSize : Nat := 1024 * 1024

def soulRecoveryCodeIntegrityConflict : String := "soul_recovery.integrity_conflict"
def soulRecoveryCodeResponseTooLarge : String := "soul_recovery.response_too_large"
def soulRecoveryCodeInternal : String := "soul_recovery.internal"

def soulRecoveryClassificationPublished : String := "published_artifact_verified"
def soulRecoveryClassificationLegacy : String := "legacy_declarations_only"

def integrityConflict (message : String) : SoulRecoveryError :=
  ⟨soulRecoveryCodeIntegrityConflict, message, 409⟩

structure SoulRecoveryVersion where
  VersionNumber : Int
  RegistrationURI : String
  RegistrationSHA256 : String
  PreviousRegistrationSHA256 : String
  CreatedAt : Time
  ChecksumVerified : Bool

structure SoulRecoveryArtifactState where
  Versions : List SoulRecoveryVersion
  CurrentPresent : Bool
  CurrentSHA256 : String

section Reader

variable (std : Std) (cfg : Config) (agentIDHex : String) (reg : Registry)

def getSoulRecoveryObject (key : String) : Except SoulRecoveryError (Option Bytes) :=
  match GetObject reg key soulRecoveryMaxArtifactSize with
  | .ok body => .ok (some body)
  | .error .NoSuchKey => .ok none
  | .error .tooLarge =>
      .error ⟨soulRecoveryCodeResponseTooLarge, "registration artifact is too large", 413⟩

def soulRecoverySHA256Matches (body : Bytes) (expected : String) : Bool :=
  let expected := ToLower (TrimSpace expected)
  len expected == 64 && regSHA256Hex std body == expected

/-- What the recovery shows of a row. -/
def recoveryVersion (version : Int) (record : SoulAgentVersion) : SoulRecoveryVersion where
  VersionNumber := version
  RegistrationURI := versionURI (TrimSpace cfg.SoulPackBucketName) agentIDHex version
  RegistrationSHA256 := ToLower (TrimSpace record.RegistrationSHA256)
  PreviousRegistrationSHA256 := ToLower (TrimSpace record.PreviousRegistrationSHA256)
  CreatedAt := record.CreatedAt.UTC
  ChecksumVerified := true

def loadSoulRecoveryVersionArtifact (version : Int) :
    Except SoulRecoveryError (Option SoulRecoveryVersion) :=
  let expectedKey := soulRegistrationVersionedS3Key agentIDHex version
  match getSoulAgentVersionRecord reg version with
  | none => do
      if (← getSoulRecoveryObject reg expectedKey).isSome then
        .error (integrityConflict "registration version object has no bound version row")
      else .ok none
  | some record =>
      if EqualFold record.AgentID agentIDHex = false ∨ record.VersionNumber ≠ version ∨
          record.CreatedAt.IsZero = true then
        .error (integrityConflict "registration version binding is invalid")
      else if TrimSpace record.RegistrationURI
          ≠ versionURI (TrimSpace cfg.SoulPackBucketName) agentIDHex version then
        .error (integrityConflict "registration version URI is invalid")
      else do
        let body ← getSoulRecoveryObject reg expectedKey
        if (body.any fun body => soulRecoverySHA256Matches std body record.RegistrationSHA256) = false then
          .error (integrityConflict "registration version checksum is invalid")
        else .ok (some (recoveryVersion cfg agentIDHex version record))

/-- The versions that are there, and how many are missing. -/
def loadVersions : List Nat → Except SoulRecoveryError (List SoulRecoveryVersion × Nat)
  | [] => .ok ([], 0)
  | version :: rest => do
      let view ← loadSoulRecoveryVersionArtifact std cfg agentIDHex reg version
      let (views, missing) ← loadVersions rest
      match view with
      | some view => return (view :: views, missing)
      | none => return (views, missing + 1)

def loadSoulRecoveryArtifacts : Except SoulRecoveryError SoulRecoveryArtifactState :=
  let agentID := ToLower (TrimSpace agentIDHex)
  let claimed := reg.identity.SelfDescriptionVersion
  if TrimSpace cfg.SoulPackBucketName = "" then
    .error ⟨soulRecoveryCodeInternal, "recovery artifact store is not configured", 500⟩
  else if soulRecoveryMaxVersions < claimed then
    .error ⟨soulRecoveryCodeResponseTooLarge, "registration version history is too large", 413⟩
  else do
    let (views, missing) ← loadVersions std cfg agentID reg (List.range' 1 claimed.toNat)
    let current ← getSoulRecoveryObject reg (soulRegistrationS3Key agentID)
    if 0 < missing ∧ (missing : Int) ≠ claimed then
      .error (integrityConflict "registration version history is incomplete")
    else .ok ⟨views, current.isSome, (current.map (regSHA256Hex std)).getD ""⟩

end Reader

def pointsBack (previous : Option String) (version : SoulRecoveryVersion) : Bool :=
  match previous with
  | none => TrimSpace version.PreviousRegistrationSHA256 == ""
  | some digest => EqualFold version.PreviousRegistrationSHA256 digest

/-- The rows in order, each with the digest of the one before. -/
def validateSoulRecoveryChain : Int → Option String → List SoulRecoveryVersion →
    Except SoulRecoveryError Unit
  | _, _, [] => .ok ()
  | number, previous, version :: rest =>
      if version.VersionNumber ≠ number ∨ version.ChecksumVerified = false then
        .error (integrityConflict "registration version history is invalid")
      else if pointsBack previous version = false then
        .error (integrityConflict "registration version chain is invalid")
      else validateSoulRecoveryChain (number + 1) (some version.RegistrationSHA256) rest

def classifySoulRecoveryArtifacts (identityVersion : Int) (state : SoulRecoveryArtifactState) :
    Except SoulRecoveryError String :=
  if identityVersion ≤ 0 then
    .error (integrityConflict "identity has no published version claim")
  else if state.Versions = [] ∧ state.CurrentPresent = false then .ok soulRecoveryClassificationLegacy
  else if (state.Versions.length : Int) ≠ identityVersion ∨ state.CurrentPresent = false then
    .error (integrityConflict "registration artifact history is incomplete")
  else do
    validateSoulRecoveryChain 1 none state.Versions
    if (state.Versions.getLast?.any fun latest =>
        EqualFold state.CurrentSHA256 latest.RegistrationSHA256) = false then
      .error (integrityConflict "current registration checksum is invalid")
    else .ok soulRecoveryClassificationPublished

/-! ## What a verified publication is -/

section Sound

variable {std : Std} {cfg : Config} {agentIDHex : String} {reg : Registry}

/-- A claimed version: its row, bound to its object and to the row before. -/
structure BoundVersion (std : Std) (cfg : Config) (agentIDHex : String) (reg : Registry) (v : Nat) :
    Prop where
  row : ∃ row body, getSoulAgentVersionRecord reg v = some row ∧
    TrimSpace row.RegistrationURI = versionURI (TrimSpace cfg.SoulPackBucketName) agentIDHex v ∧
    reg.objects (soulRegistrationVersionedS3Key agentIDHex v) = some body ∧
    regSHA256Hex std body = ToLower (TrimSpace row.RegistrationSHA256) ∧
    (v = 1 → TrimSpace (ToLower (TrimSpace row.PreviousRegistrationSHA256)) = "") ∧
    ∀ u, v = u + 1 → 1 ≤ u → ∃ before, getSoulAgentVersionRecord reg u = some before ∧
      EqualFold (ToLower (TrimSpace row.PreviousRegistrationSHA256))
        (ToLower (TrimSpace before.RegistrationSHA256)) = true

/-- The versions 1 to `n` are bound, and the current object is the last of them. -/
structure VerifiedPublication (std : Std) (cfg : Config) (agentIDHex : String) (reg : Registry)
    (n : Nat) : Prop where
  published : 1 ≤ n
  bound : ∀ v, 1 ≤ v → v ≤ n → BoundVersion std cfg agentIDHex reg v
  current : ∃ row body, getSoulAgentVersionRecord reg n = some row ∧
    reg.objects (soulRegistrationS3Key agentIDHex) = some body ∧
    EqualFold (regSHA256Hex std body) (ToLower (TrimSpace row.RegistrationSHA256)) = true

theorem getObject_some {key : String} {body : Bytes}
    (h : getSoulRecoveryObject reg key = .ok (some body)) :
    reg.objects key = some body ∧ body.length ≤ soulRecoveryMaxArtifactSize := by
  unfold getSoulRecoveryObject GetObject at h
  cases hobject : reg.objects key with
  | none =>
      rw [hobject] at h
      cases h
  | some stored =>
      rw [hobject] at h
      dsimp only at h
      split_ifs at h with hsize
      cases h
      exact ⟨rfl, not_lt.1 hsize⟩

theorem getObject_of_some {key : String} {body : Bytes} (h : reg.objects key = some body)
    (hsize : body.length ≤ soulRecoveryMaxArtifactSize) :
    getSoulRecoveryObject reg key = .ok (some body) := by
  rw [getSoulRecoveryObject, GetObject, h]
  dsimp only
  rw [if_neg (not_lt.2 hsize)]

theorem loadVersion_some {v : Nat} {view : SoulRecoveryVersion}
    (h : loadSoulRecoveryVersionArtifact std cfg agentIDHex reg v = .ok (some view)) :
    ∃ row body, getSoulAgentVersionRecord reg v = some row ∧
      TrimSpace row.RegistrationURI = versionURI (TrimSpace cfg.SoulPackBucketName) agentIDHex v ∧
      reg.objects (soulRegistrationVersionedS3Key agentIDHex v) = some body ∧
      regSHA256Hex std body = ToLower (TrimSpace row.RegistrationSHA256) ∧
      body.length ≤ soulRecoveryMaxArtifactSize ∧ view = recoveryVersion cfg agentIDHex v row := by
  unfold loadSoulRecoveryVersionArtifact at h
  dsimp only at h
  cases hrow : getSoulAgentVersionRecord reg v with
  | none =>
      rw [hrow] at h
      simp only [bind_ok, guard_ok, Except.ok.injEq, reduceCtorEq, and_false, exists_false] at h
  | some row =>
      rw [hrow] at h
      simp only [bind_ok, guard_ok, not_not] at h
      obtain ⟨-, huri, found, hfound, hmatches, h⟩ := h
      cases h
      cases found with
      | none => exact absurd rfl hmatches
      | some body =>
          rw [Option.any_some, Bool.not_eq_false, soulRecoverySHA256Matches, Bool.and_eq_true,
            beq_iff_eq, beq_iff_eq] at hmatches
          obtain ⟨hobject, hsize⟩ := getObject_some hfound
          exact ⟨row, body, rfl, huri, hobject, hmatches.2, hsize, rfl⟩

theorem loadVersions_ok {versions : List Nat} {views : List SoulRecoveryVersion} {missing : Nat}
    (h : loadVersions std cfg agentIDHex reg versions = .ok (views, missing)) :
    views.length + missing = versions.length ∧ (missing = 0 →
      versions.map (fun v : Nat => loadSoulRecoveryVersionArtifact std cfg agentIDHex reg v)
        = views.map fun view => .ok (some view)) := by
  induction versions generalizing views missing with
  | nil =>
      cases h
      exact ⟨rfl, fun _ => rfl⟩
  | cons version rest ih =>
      simp only [loadVersions, bind_ok] at h
      obtain ⟨view, hview, ⟨others, absent⟩, hrest, h⟩ := h
      obtain ⟨hlength, hall⟩ := ih hrest
      cases view with
      | none =>
          simp only [pure_ok, Prod.mk.injEq] at h
          obtain ⟨rfl, rfl⟩ := h
          rw [List.length_cons]
          exact ⟨by omega, nofun⟩
      | some view =>
          simp only [pure_ok, Prod.mk.injEq] at h
          obtain ⟨rfl, rfl⟩ := h
          rw [List.length_cons, List.length_cons]
          refine ⟨by omega, fun hnone => ?_⟩
          rw [List.map_cons, List.map_cons, hall hnone, hview]

/-- A version that was loaded stands at its place. -/
theorem views_at {n : Nat} {views : List SoulRecoveryVersion}
    (h : (List.range' 1 n).map (fun v : Nat => loadSoulRecoveryVersionArtifact std cfg agentIDHex reg v)
      = views.map fun view => .ok (some view)) {v : Nat} (hlow : 1 ≤ v) (hhigh : v ≤ n) :
    ∃ view, views[v - 1]? = some view ∧
      loadSoulRecoveryVersionArtifact std cfg agentIDHex reg (v : Int) = .ok (some view) := by
  have hentry := congrArg (fun l : List (Except SoulRecoveryError (Option SoulRecoveryVersion)) =>
    l[v - 1]?) h
  simp only [List.getElem?_map] at hentry
  rw [List.getElem?_range' (by omega), Option.map_some] at hentry
  obtain ⟨view, hview, hok⟩ := Option.map_eq_some_iff.1 hentry.symm
  refine ⟨view, hview, ?_⟩
  rw [hok]
  congr 1
  omega

theorem chain_ok {number : Int} {previous : Option String} {views : List SoulRecoveryVersion}
    (h : validateSoulRecoveryChain number previous views = .ok ()) {k : Nat} {view : SoulRecoveryVersion}
    (hview : views[k]? = some view) :
    (k = 0 → pointsBack previous view = true) ∧
      ∀ j, k = j + 1 → ∃ before, views[j]? = some before ∧
        EqualFold view.PreviousRegistrationSHA256 before.RegistrationSHA256 = true := by
  induction views generalizing number previous k with
  | nil => cases hview
  | cons first rest ih =>
      simp only [validateSoulRecoveryChain, guard_ok, Bool.not_eq_false] at h
      obtain ⟨-, hpoints, hrest⟩ := h
      cases k with
      | zero =>
          cases hview
          exact ⟨fun _ => hpoints, nofun⟩
      | succ k =>
          refine ⟨nofun, fun j hj => ?_⟩
          obtain rfl : k = j := by omega
          obtain ⟨hfirst, hlater⟩ := ih hrest hview
          cases k with
          | zero => exact ⟨first, rfl, hfirst rfl⟩
          | succ k => exact hlater k rfl

/-- **What recovery calls published** is bound from the first version to the one that the identity
claims. -/
theorem recovery_sound {state : SoulRecoveryArtifactState}
    (hload : loadSoulRecoveryArtifacts std cfg agentIDHex reg = .ok state)
    (hclass : classifySoulRecoveryArtifacts reg.identity.SelfDescriptionVersion state
      = .ok soulRecoveryClassificationPublished) :
    VerifiedPublication std cfg (ToLower (TrimSpace agentIDHex)) reg
      reg.identity.SelfDescriptionVersion.toNat := by
  simp only [loadSoulRecoveryArtifacts, bind_ok, guard_ok] at hload
  obtain ⟨-, -, ⟨views, missing⟩, hviews, current, hcurrent, -, hstate⟩ := hload
  cases hstate
  unfold classifySoulRecoveryArtifacts at hclass
  rw [guard_ok] at hclass
  obtain ⟨hclaimed, hclass⟩ := hclass
  split at hclass
  · exact absurd (Except.ok.inj hclass) (by decide)
  simp only [guard_ok, seq_ok, not_or, not_not, Bool.not_eq_false] at hclass
  obtain ⟨⟨hlength, hpresent⟩, hchain, hlatest, -⟩ := hclass
  obtain ⟨htotal, hall⟩ := loadVersions_ok hviews
  rw [List.length_range'] at htotal
  generalize hn : reg.identity.SelfDescriptionVersion.toNat = n at *
  have hviewsLength : views.length = n := by omega
  have hview {v : Nat} (hlow : 1 ≤ v) (hhigh : v ≤ n) := views_at (hall (by omega)) hlow hhigh
  refine ⟨by omega, fun v hlow hhigh => ?_, ?_⟩
  · obtain ⟨view, hat, hok⟩ := hview hlow hhigh
    obtain ⟨row, body, hrow, huri, hobject, hdigest, -, rfl⟩ := loadVersion_some hok
    obtain ⟨hfirst, hlater⟩ := chain_ok hchain hat
    refine ⟨row, body, hrow, huri, hobject, hdigest, fun hone => ?_, fun u hu hpos => ?_⟩
    · have hpoints := hfirst (by omega)
      rwa [pointsBack, beq_iff_eq] at hpoints
    · obtain ⟨before, hbefore, hequal⟩ := hlater (u - 1) (by omega)
      obtain ⟨other, hother, hload⟩ := hview hpos (by omega : u ≤ n)
      obtain rfl : before = other := Option.some.inj (hbefore.symm.trans hother)
      obtain ⟨row', _, hrow', -, -, -, -, rfl⟩ := loadVersion_some hload
      exact ⟨row', hrow', hequal⟩
  · obtain ⟨view, hat, hok⟩ := hview (by omega : 1 ≤ n) le_rfl
    obtain ⟨row, _, hrow, -, -, -, -, rfl⟩ := loadVersion_some hok
    obtain ⟨body, hbody⟩ := Option.isSome_iff_exists.1 hpresent
    subst hbody
    rw [List.getLast?_eq_getElem?, hviewsLength, hat, Option.any_some] at hlatest
    exact ⟨row, body, hrow, (getObject_some hcurrent).1, hlatest⟩

/-- Rows above the claimed version are not looked at. -/
theorem loadSoulRecoveryArtifacts_congr {other : Registry} (hidentity : other.identity = reg.identity)
    (hobjects : other.objects = reg.objects)
    (hrows : ∀ v : Nat, 1 ≤ v → v ≤ reg.identity.SelfDescriptionVersion.toNat →
      getSoulAgentVersionRecord other v = getSoulAgentVersionRecord reg v) :
    loadSoulRecoveryArtifacts std cfg agentIDHex other
      = loadSoulRecoveryArtifacts std cfg agentIDHex reg := by
  have hobject : ∀ key, getSoulRecoveryObject other key = getSoulRecoveryObject reg key := by
    intro key
    rw [getSoulRecoveryObject, getSoulRecoveryObject, GetObject, GetObject, hobjects]
  have hload : ∀ id (v : Nat), 1 ≤ v → v ≤ reg.identity.SelfDescriptionVersion.toNat →
      loadSoulRecoveryVersionArtifact std cfg id other v
        = loadSoulRecoveryVersionArtifact std cfg id reg v := by
    intro id v hlow hhigh
    simp only [loadSoulRecoveryVersionArtifact, hrows v hlow hhigh, hobject]
  have hall : ∀ id (versions : List Nat),
      (∀ v ∈ versions, 1 ≤ v ∧ v ≤ reg.identity.SelfDescriptionVersion.toNat) →
      loadVersions std cfg id other versions = loadVersions std cfg id reg versions := by
    intro id versions hrange
    induction versions with
    | nil => rfl
    | cons version rest ih =>
        have hfirst := hrange version List.mem_cons_self
        rw [loadVersions, loadVersions, hload id version hfirst.1 hfirst.2,
          ih fun v hv => hrange v (List.mem_cons_of_mem version hv)]
  simp only [loadSoulRecoveryArtifacts, hidentity, hobject]
  rw [hall]
  intro v hv
  rw [List.mem_range'_1] at hv
  omega

end Sound

end LesserHost.SoulRegistration
