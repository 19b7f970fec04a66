import LesserHost.HostedGenesis.SessionCommits
import LesserHost.SoulRegistration.Publish

set_option autoImplicit false

/-! # The versions of an agent

Three things say which version an agent is at: its version rows, the counter of its identity and the
object that is current. Every publish of a document of version 2 or 3 and every append of a boundary
moves all three. A legacy update moves the rows and the object and leaves the counter, and after that no
document is published any more. -/

namespace LesserHost.SoulRegistration

open LesserHost.Go
open LesserHost.ControlPlane (AppTheoryError newAppTheoryError)
open LesserHost.HostedGenesis (bind_ok seq_ok pure_ok guard_ok)
open LesserHost.SoulLifecycle

/-! ## What is claimed of a state -/

/-- The highest recorded version. -/
def highestVersion (reg : Registry) : Int := (latestVersion reg.versions).1

/-- Rows, counter and current object are at one version. -/
structure Agrees (std : Std) (agentIDHex : String) (reg : Registry) (n : Int) : Prop where
  highest : highestVersion reg = n
  described : reg.identity.SelfDescriptionVersion = n
  current : (reg.objects (soulRegistrationS3Key agentIDHex)).map (regSHA256Hex std)
    = (getSoulAgentVersionRecord reg n).map (·.RegistrationSHA256)

/-- A document of version 2 or 3 that names the highest recorded version, and passes the checks of its
signatures, its binding and its claim levels. -/
structure NextDocument (cfg : Config) (agentIDHex : String) (reg : Registry) (r : UpdateRequest) :
    Prop where
  typed : isTypedVersion r.version = true
  names : r.publication.PreviousVersionURI = if highestVersion reg = 0 then none
    else some (versionURI (TrimSpace cfg.SoulPackBucketName) agentIDHex (highestVersion reg))
  expected : ∀ v ∈ r.publication.expectedVersion, v = highestVersion reg
  verified : r.verified = .ok ()
  bound : r.bound = .ok ()
  claimLevels : r.publication.claimLevels = .ok ()

/-- There is a next document, and every such document is published. -/
structure CanPublish (std : Std) (cfg : Config) (agentIDHex : String) (reg : Registry) : Prop where
  document : ∃ r, NextDocument cfg agentIDHex reg r
  published : ∀ r, NextDocument cfg agentIDHex reg r →
    ∃ next, completeSoulAgentRegistrationUpdate std cfg agentIDHex r reg
        = (next, .ok (highestVersion reg + 1)) ∧
      Agrees std agentIDHex next (highestVersion reg + 1)

/-! ## Keys and digests -/

section Keys

variable {std : Std} {agentIDHex : String}

theorem append_inner {a b c d x y : String} (h : a ++ b ++ c ++ x ++ d = a ++ b ++ c ++ y ++ d) :
    x = y := by
  have hlist := congrArg String.toList h
  simp only [String.toList_append, List.append_assoc] at hlist
  exact String.toList_inj.1 (List.append_cancel_right (List.append_cancel_left
    (List.append_cancel_left (List.append_cancel_left hlist))))

theorem append_outer {a b c d x e : String} (h : a ++ b ++ c ++ x ++ d = a ++ b ++ e) :
    c.toList ++ (x ++ d).toList = e.toList := by
  have hlist := congrArg String.toList h
  simp only [String.toList_append, List.append_assoc] at hlist
  rw [String.toList_append]
  exact List.append_cancel_left (List.append_cancel_left hlist)

theorem versionedKey_injective {m n : Nat}
    (h : soulRegistrationVersionedS3Key agentIDHex m = soulRegistrationVersionedS3Key agentIDHex n) :
    m = n := by
  rw [← digitsValue_Itoa m, ← digitsValue_Itoa n, append_inner h]

theorem currentKey_ne (n : Int) :
    soulRegistrationVersionedS3Key agentIDHex n ≠ soulRegistrationS3Key agentIDHex := by
  intro h
  have hhead := congrArg (fun l : List Char => l[1]?) (append_outer h)
  have hversions : "/versions/".toList = '/' :: 'v' :: "ersions/".toList := by decide
  have hcurrent : "/registration.json".toList = '/' :: 'r' :: "egistration.json".toList := by decide
  rw [hversions, hcurrent] at hhead
  revert hhead
  simp

theorem regSHA256Hex_normal (regBytes : Bytes) :
    ToLower (TrimSpace (regSHA256Hex std regBytes)) = regSHA256Hex std regBytes := by
  rw [regSHA256Hex, TrimSpace_hex (hexEncode_hex _), ToLower_hex (hexEncode_hex _)]

theorem regSHA256Hex_len (regBytes : Bytes) : len (TrimSpace (regSHA256Hex std regBytes)) = 64 := by
  rw [regSHA256Hex, TrimSpace_hex (hexEncode_hex _), len, String.toList_ofList,
    sum_utf8Size_of_hex (hexEncode_hex _), hexEncode_length, Vector.length_toList]

theorem PutObject_same (reg : Registry) (key : String) (body : Bytes) :
    (PutObject reg key body).objects key = some body := if_pos rfl

theorem PutObject_other (reg : Registry) {key other : String} (body : Bytes) (h : other ≠ key) :
    (PutObject reg key body).objects other = reg.objects other := if_neg h

end Keys

-- From here on a key is a name: objects are looked up, and no text is computed.
attribute [local irreducible] soulRegistrationS3Key soulRegistrationVersionedS3Key

/-! ## A state in order -/

structure Consistent (std : Std) (agentIDHex : String) (reg : Registry) (n : Nat) : Prop where
  active : effectiveStatus reg.identity = SoulAgentStatusActive
  described : reg.identity.SelfDescriptionVersion = n
  recorded : ∀ v : Int, (getSoulAgentVersionRecord reg v).isSome ↔ 1 ≤ v ∧ v ≤ n
  normal : ∀ row ∈ reg.versions, ToLower (TrimSpace row.RegistrationSHA256) = row.RegistrationSHA256
  unpublished : ∀ v : Nat, n < v → reg.objects (soulRegistrationVersionedS3Key agentIDHex v) = none
  current : (reg.objects (soulRegistrationS3Key agentIDHex)).map (regSHA256Hex std)
    = (getSoulAgentVersionRecord reg n).map (·.RegistrationSHA256)

section Rows

variable {std : Std} {agentIDHex : String} {reg : Registry}

theorem laterVersion_max (latest : Int × String) (row : SoulAgentVersion) :
    latest.1 ≤ (laterVersion latest row).1 ∧ row.VersionNumber ≤ (laterVersion latest row).1 ∧
      ((laterVersion latest row).1 = latest.1 ∨ row.VersionNumber = (laterVersion latest row).1) := by
  unfold laterVersion
  split_ifs with h
  · exact ⟨le_of_lt h, le_rfl, Or.inr rfl⟩
  · exact ⟨le_rfl, not_lt.1 h, Or.inl rfl⟩

theorem latestVersion_max (rows : List SoulAgentVersion) (start : Int × String) :
    start.1 ≤ (rows.foldl laterVersion start).1 ∧
      (∀ row ∈ rows, row.VersionNumber ≤ (rows.foldl laterVersion start).1) ∧
      ((rows.foldl laterVersion start).1 = start.1 ∨
        ∃ row ∈ rows, row.VersionNumber = (rows.foldl laterVersion start).1) := by
  induction rows generalizing start with
  | nil => exact ⟨le_rfl, nofun, Or.inl rfl⟩
  | cons row rows ih =>
      rw [List.foldl_cons]
      obtain ⟨hstart, hall, hmem⟩ := ih (laterVersion start row)
      obtain ⟨hfirst, hrow, hone⟩ := laterVersion_max start row
      refine ⟨hfirst.trans hstart, fun other hother => ?_, ?_⟩
      · rcases List.mem_cons.1 hother with rfl | hother
        · exact hrow.trans hstart
        · exact hall other hother
      · rcases hmem with hmem | ⟨other, hother, hmem⟩
        · rw [hmem]
          exact hone.imp_right fun h => ⟨row, List.mem_cons_self, h⟩
        · exact Or.inr ⟨other, List.mem_cons_of_mem _ hother, hmem⟩

theorem getVersion_mem {v : Int} {row : SoulAgentVersion}
    (h : getSoulAgentVersionRecord reg v = some row) : row ∈ reg.versions ∧ row.VersionNumber = v :=
  ⟨List.mem_of_find?_eq_some h, by simpa using List.find?_some h⟩

theorem getVersion_isSome {v : Int} :
    (getSoulAgentVersionRecord reg v).isSome ↔ ∃ row ∈ reg.versions, row.VersionNumber = v := by
  rw [getSoulAgentVersionRecord, List.find?_isSome]
  simp only [beq_iff_eq]

theorem Consistent.highest {n : Nat} (h : Consistent std agentIDHex reg n) :
    highestVersion reg = n := by
  obtain ⟨hstart, hall, hmem⟩ := latestVersion_max reg.versions (0, "")
  refine le_antisymm ?_ ?_
  · rcases hmem with hzero | ⟨row, hrow, hlast⟩
    · rw [highestVersion, latestVersion, hzero]
      exact Int.natCast_nonneg n
    · rw [highestVersion, latestVersion, ← hlast]
      exact ((h.recorded _).1 (getVersion_isSome.2 ⟨row, hrow, rfl⟩)).2
  · rcases Nat.eq_zero_or_pos n with rfl | hpos
    · exact hstart
    · obtain ⟨row, hrow, hnumber⟩ := getVersion_isSome.1 ((h.recorded n).2 ⟨by omega, le_rfl⟩)
      rw [← hnumber]
      exact hall row hrow

theorem Consistent.agrees {n : Nat} (h : Consistent std agentIDHex reg n) :
    Agrees std agentIDHex reg n := ⟨h.highest, h.described, h.current⟩

end Rows

/-! ## A publish of a version -/

section Publishing

variable {std : Std} {cfg : Config} {agentIDHex : String} {reg stored : Registry} {n : Nat}

theorem derive_ok {previousVersionURI : Option String} {bucketName : String} {prev next : Int}
    (h : deriveSoulRegistrationNextVersion std agentIDHex previousVersionURI bucketName
      = .ok (prev, next)) : next = prev + 1 ∧ 0 ≤ prev := by
  unfold deriveSoulRegistrationNextVersion at h
  dsimp only at h
  split_ifs at h with hnone
  · simp only [Except.ok.injEq, Prod.mk.injEq] at h
    obtain ⟨rfl, rfl⟩ := h
    exact ⟨rfl, le_rfl⟩
  · split at h
    · cases h
    · simp only [guard_ok] at h
      obtain ⟨-, -, -, h⟩ := h
      split at h
      · rw [guard_ok] at h
        obtain ⟨-, h⟩ := h
        split at h
        · rw [guard_ok] at h
          obtain ⟨hpos, h⟩ := h
          simp only [Except.ok.injEq, Prod.mk.injEq] at h
          obtain ⟨rfl, rfl⟩ := h
          exact ⟨rfl, by omega⟩
        · cases h
      · cases h

/-- The objects of a version are written, and nothing else. -/
structure Stored (agentIDHex : String) (version : Int) (regBytes : Bytes) (reg stored : Registry) :
    Prop where
  identity : stored.identity = reg.identity
  versions : stored.versions = reg.versions
  current : stored.objects (soulRegistrationS3Key agentIDHex) = some regBytes
  others : ∀ key, key ≠ soulRegistrationS3Key agentIDHex →
    key ≠ soulRegistrationVersionedS3Key agentIDHex version → stored.objects key = reg.objects key

theorem stored_put {version : Int} {regBytes : Bytes} (body : Bytes) :
    Stored agentIDHex version regBytes reg
      (PutObject (PutObject reg (soulRegistrationVersionedS3Key agentIDHex version) body)
        (soulRegistrationS3Key agentIDHex) regBytes) where
  identity := rfl
  versions := rfl
  current := PutObject_same _ _ _
  others _ hcurrent hversioned := (PutObject_other _ _ hcurrent).trans (PutObject_other _ _ hversioned)

theorem artifacts_ok {version : Int} {regBytes : Bytes}
    (h : ensureSoulRegistrationS3Artifacts std agentIDHex version regBytes reg = .ok stored) :
    Stored agentIDHex version regBytes reg stored := by
  simp only [ensureSoulRegistrationS3Artifacts, bind_ok, pure_ok] at h
  obtain ⟨checked, hchecked, rfl⟩ := h
  unfold ensureSoulPackObjectSHA256 at hchecked
  split at hchecked
  · rw [guard_ok] at hchecked
    obtain ⟨-, hchecked⟩ := hchecked
    cases hchecked
    exact ⟨rfl, rfl, PutObject_same _ _ _, fun _ hcurrent _ => PutObject_other _ _ hcurrent⟩
  · cases hchecked
    exact stored_put regBytes
  · cases hchecked

/-- A version that has no object yet is stored. -/
theorem artifacts_new (std : Std) {version : Int} (regBytes : Bytes)
    (h : reg.objects (soulRegistrationVersionedS3Key agentIDHex version) = none) :
    ∃ stored, ensureSoulRegistrationS3Artifacts std agentIDHex version regBytes reg = .ok stored := by
  refine ⟨PutObject (PutObject reg (soulRegistrationVersionedS3Key agentIDHex version) regBytes)
    (soulRegistrationS3Key agentIDHex) regBytes, ?_⟩
  rw [ensureSoulRegistrationS3Artifacts, ensureSoulPackObjectSHA256, GetObject, h]
  rfl

theorem versions_finalize (version : Int) : (finalizeIdentity version reg).versions = reg.versions := by
  simp only [finalizeIdentity]

theorem objects_finalize (version : Int) : (finalizeIdentity version reg).objects = reg.objects := by
  simp only [finalizeIdentity]

theorem described_finalize (version : Int) :
    (finalizeIdentity version reg).identity.SelfDescriptionVersion = version := by
  simp only [finalizeIdentity]

theorem effectiveStatus_finalize {version : Int}
    (h : effectiveStatus reg.identity = SoulAgentStatusActive) :
    effectiveStatus (finalizeIdentity version reg).identity = SoulAgentStatusActive := by
  have hactivation :
      shouldPersistSoulIdentityActivationOnRegistrationPublish reg.identity true = true := by
    unfold shouldPersistSoulIdentityActivationOnRegistrationPublish
    unfold effectiveStatus at h
    have hlower : ToLower SoulAgentStatusActive = SoulAgentStatusActive := by decide
    split_ifs at h with hlifecycle
    · have hempty : ToLower (TrimSpace reg.identity.LifecycleStatus) = "" := by
        rw [hlifecycle]
        decide
      simp only [hempty, if_pos, h, hlower]
      decide
    · have hne : SoulAgentStatusActive ≠ "" := by decide
      simp only [h, hlower, if_neg hne]
      decide
  simp only [finalizeIdentity, hactivation, activated, effectiveStatus, if_true]
  decide

/-- A state is in order at the version whose row and objects were written last. -/
theorem Consistent.of_stored {m : Nat} {regBytes : Bytes} {row : SoulAgentVersion}
    (active : effectiveStatus reg.identity = SoulAgentStatusActive)
    (recorded : ∀ v : Int, (getSoulAgentVersionRecord reg v).isSome ↔ 1 ≤ v ∧ v ≤ m)
    (normal : ∀ row ∈ reg.versions, ToLower (TrimSpace row.RegistrationSHA256) = row.RegistrationSHA256)
    (unpublished : ∀ v : Nat, m < v →
      reg.objects (soulRegistrationVersionedS3Key agentIDHex v) = none)
    (hrow : getSoulAgentVersionRecord reg m = some row)
    (hdigest : row.RegistrationSHA256 = regSHA256Hex std regBytes)
    (hstored : Stored agentIDHex m regBytes reg stored) :
    Consistent std agentIDHex (finalizeIdentity m stored) m := by
  have hversions : (finalizeIdentity m stored).versions = reg.versions :=
    (versions_finalize _).trans hstored.versions
  have hrows : ∀ v, getSoulAgentVersionRecord (finalizeIdentity m stored) v
      = getSoulAgentVersionRecord reg v := by
    intro v
    rw [getSoulAgentVersionRecord, hversions, getSoulAgentVersionRecord]
  have hobjects : (finalizeIdentity m stored).objects = stored.objects := objects_finalize _
  refine ⟨effectiveStatus_finalize (hstored.identity ▸ active), described_finalize _, fun v => ?_,
    fun row hmem => ?_, fun v hv => ?_, ?_⟩
  · rw [hrows]
    exact recorded v
  · exact normal row (hversions ▸ hmem)
  · have hother : soulRegistrationVersionedS3Key agentIDHex v
        ≠ soulRegistrationVersionedS3Key agentIDHex m := by
      intro hkey
      have := versionedKey_injective hkey
      omega
    rw [hobjects, hstored.others _ (currentKey_ne _) hother, unpublished v hv]
  · rw [hrows, hrow, hobjects, hstored.current, Option.map_some, Option.map_some, hdigest]

/-- The row of the next version. -/
def nextRecord (std : Std) (cfg : Config) (agentIDHex : String) (n : Nat) (previous : String)
    (p : Publication) : SoulAgentVersion :=
  (buildSoulVersionRecord agentIDHex cfg.SoulPackBucketName
    (soulRegistrationVersionedS3Key agentIDHex ((n : Int) + 1)) ((n : Int) + 1)
    (regSHA256Hex std p.regBytes) previous p.changeSummary p.selfSig p.now).UpdateKeys

theorem nextRecord_digest (previous : String) (p : Publication) :
    (nextRecord std cfg agentIDHex n previous p).RegistrationSHA256 = regSHA256Hex std p.regBytes :=
  regSHA256Hex_normal p.regBytes

theorem nextRecord_number (previous : String) (p : Publication) :
    (nextRecord std cfg agentIDHex n previous p).VersionNumber = (n : Int) + 1 := rfl

/-- What a plan says in a state in order: the last version again, or the next one. -/
theorem prepare_ok {p : Publication} {plan : Plan} (h : Consistent std agentIDHex reg n)
    (hplan : prepareSoulRegistrationPublish std cfg agentIDHex p reg = .ok plan) :
    (∃ row stored, getSoulAgentVersionRecord reg n = some row ∧
        row.RegistrationSHA256 = regSHA256Hex std p.regBytes ∧
        ensureSoulRegistrationS3Artifacts std agentIDHex n p.regBytes reg = .ok stored ∧
        plan = .repaired n (finalizeIdentity n stored)) ∨
      ∃ previous, loadPreviousSoulRegistrationSHA cfg n reg = .ok previous ∧
        plan = .create n (nextRecord std cfg agentIDHex n previous p) := by
  simp only [prepareSoulRegistrationPublish, bind_ok, guard_ok] at hplan
  obtain ⟨⟨prev, next⟩, hderive, -, _, -, _, -, hadvanced, _, -, repaired, hrepaired, hplan⟩ := hplan
  obtain ⟨rfl, hprev⟩ := derive_ok hderive
  rw [h.described] at hadvanced
  unfold repairExistingSoulRegistrationVersion at hrepaired
  cases hexisting : getSoulAgentVersionRecord reg (prev + 1) with
  | some existing =>
      rw [hexisting] at hrepaired
      simp only [guard_ok, bind_ok, pure_ok, not_not, regSHA256Hex_normal] at hrepaired
      obtain ⟨hdigest, stored, hstored, rfl⟩ := hrepaired
      have hrange := (h.recorded (prev + 1)).1 (by rw [hexisting]; rfl)
      have hlast : prev + 1 = n := by omega
      simp only [hlast] at hplan hstored hexisting
      cases hplan
      refine Or.inl ⟨existing, stored, hexisting, ?_, hstored, rfl⟩
      rw [← hdigest, h.normal existing (getVersion_mem hexisting).1]
  | none =>
      rw [hexisting] at hrepaired
      cases hrepaired
      simp only [guard_ok, bind_ok, pure_ok, not_not] at hplan
      obtain ⟨hversion, previous, hprevious, rfl⟩ := hplan
      have hlast : prev = n := by rw [← hversion, h.described]
      subst hlast
      exact Or.inr ⟨previous, hprevious, rfl⟩

/-- The row of the next version is added. -/
theorem recordVersion_some {row : SoulAgentVersion} {boundary : Option String}
    {next : Registry} (h : recordVersion n row boundary reg = some next) :
    next.identity = reg.identity ∧ next.versions = reg.versions ++ [row] ∧
      next.objects = reg.objects := by
  unfold recordVersion createVersion at h
  split_ifs at h
  · cases h
  · simp only [Option.map_some, Option.some.injEq] at h
    subst h
    exact ⟨rfl, rfl, rfl⟩

theorem getVersion_append {next : Registry} {row : SoulAgentVersion}
    (h : next.versions = reg.versions ++ [row]) (v : Int) :
    getSoulAgentVersionRecord next v = (getSoulAgentVersionRecord reg v).or
      (if row.VersionNumber = v then some row else none) := by
  rw [getSoulAgentVersionRecord, h, List.find?_append, getSoulAgentVersionRecord,
    List.find?_singleton]
  simp only [beq_iff_eq]

/-- **The next version** is recorded, stored and described. -/
theorem Consistent.create {p : Publication} {previous : String} {boundary : Option String}
    {next : Registry} (h : Consistent std agentIDHex reg n)
    (hnext : recordVersion n (nextRecord std cfg agentIDHex n previous p) boundary reg = some next) :
    ∃ stored, ensureSoulRegistrationS3Artifacts std agentIDHex ((n : Int) + 1) p.regBytes next
        = .ok stored ∧
      Consistent std agentIDHex (finalizeIdentity ((n : Int) + 1) stored) (n + 1) := by
  obtain ⟨hidentity, hversions, hobjects⟩ := recordVersion_some hnext
  have hnumber : (nextRecord std cfg agentIDHex n previous p).VersionNumber = ((n + 1 : Nat) : Int) := rfl
  have hdigest : (nextRecord std cfg agentIDHex n previous p).RegistrationSHA256
      = regSHA256Hex std p.regBytes := nextRecord_digest previous p
  have hfree : next.objects (soulRegistrationVersionedS3Key agentIDHex ((n : Int) + 1)) = none := by
    rw [hobjects]
    exact h.unpublished (n + 1) (Nat.lt_succ_self n)
  obtain ⟨stored, hstored⟩ := artifacts_new std p.regBytes hfree
  refine ⟨stored, hstored, ?_⟩
  have hnone : getSoulAgentVersionRecord reg ((n + 1 : Nat) : Int) = none := by
    rw [← Option.not_isSome_iff_eq_none, h.recorded]
    omega
  refine Consistent.of_stored (m := n + 1) (hidentity ▸ h.active) (fun v => ?_) (fun other hother => ?_)
    (fun v hv => ?_) ?_ hdigest (artifacts_ok hstored)
  · rw [getVersion_append hversions, Option.isSome_or, Bool.or_eq_true, h.recorded, hnumber]
    split_ifs with hv <;> simp only [Option.isSome_some, Option.isSome_none, or_true, true_iff,
      Bool.false_eq_true, or_false] <;> omega
  · rw [hversions, List.mem_append, List.mem_singleton] at hother
    rcases hother with hother | rfl
    · exact h.normal other hother
    · rw [hdigest, regSHA256Hex_normal]
  · rw [hobjects]
    exact h.unpublished v (by omega)
  · rw [getVersion_append hversions, hnone, Option.none_or, if_pos hnumber]

/-- What a publish leaves of a state in order: the state, the last version again, or the next one. -/
theorem Consistent.publish_cases (cfg : Config) (h : Consistent std agentIDHex reg n)
    (p : Publication) :
    (publishSoulAgentRegistration std cfg agentIDHex p reg).1 = reg ∨
      (∃ row stored, getSoulAgentVersionRecord reg n = some row ∧
        row.RegistrationSHA256 = regSHA256Hex std p.regBytes ∧
        ensureSoulRegistrationS3Artifacts std agentIDHex n p.regBytes reg = .ok stored ∧
        (publishSoulAgentRegistration std cfg agentIDHex p reg).1 = finalizeIdentity n stored) ∨
      ∃ previous next stored, loadPreviousSoulRegistrationSHA cfg n reg = .ok previous ∧
        recordVersion n (nextRecord std cfg agentIDHex n previous p) p.boundary reg = some next ∧
        ensureSoulRegistrationS3Artifacts std agentIDHex ((n : Int) + 1) p.regBytes next = .ok stored ∧
        (publishSoulAgentRegistration std cfg agentIDHex p reg).1
          = finalizeIdentity ((n : Int) + 1) stored := by
  unfold publishSoulAgentRegistration
  split
  · exact Or.inl rfl
  · split
    · exact Or.inl rfl
    · rename_i hplan
      rcases prepare_ok h hplan with ⟨row, stored, hrow, hdigest, hstored, heq⟩ | ⟨_, _, heq⟩
      · cases heq
        exact Or.inr (Or.inl ⟨row, stored, hrow, hdigest, hstored, rfl⟩)
      · cases heq
    · rename_i prev row hplan
      rcases prepare_ok h hplan with ⟨_, _, _, _, _, heq⟩ | ⟨previous, hprevious, heq⟩
      · cases heq
      · cases heq
        split
        · exact Or.inl rfl
        · rename_i next hnext
          obtain ⟨stored, hstored, -⟩ := h.create hnext
          refine Or.inr (Or.inr ⟨previous, next, stored, hprevious, hnext, hstored, ?_⟩)
          rw [nextRecord_number, hstored]

/-- **One publish**: the state stays at its version, or it is at the next. -/
theorem Consistent.publish (h : Consistent std agentIDHex reg n) (p : Publication) :
    ∃ m ≤ n + 1, Consistent std agentIDHex (publishSoulAgentRegistration std cfg agentIDHex p reg).1 m := by
  rcases h.publish_cases cfg p with hsame | ⟨row, stored, hrow, hdigest, hstored, heq⟩ |
    ⟨previous, next, stored, -, hnext, hstored, heq⟩
  · rw [hsame]
    exact ⟨n, Nat.le_succ n, h⟩
  · rw [heq]
    exact ⟨n, Nat.le_succ n, Consistent.of_stored h.active h.recorded h.normal h.unpublished hrow hdigest
      (artifacts_ok hstored)⟩
  · obtain ⟨other, hother, hconsistent⟩ := h.create hnext
    obtain rfl : stored = other := Except.ok.inj (hstored.symm.trans hother)
    rw [heq]
    exact ⟨n + 1, le_rfl, hconsistent⟩

end Publishing

/-! ## Where a version is found again -/

/-- The characters of a bucket's name. -/
def isHostChar (c : Char) : Bool :=
  (decide ('0' ≤ c) && decide (c ≤ '9')) || (decide ('a' ≤ c) && decide (c ≤ 'z')) || c == '.' || c == '-'

/-- The characters of an object's key. -/
def isKeyChar (c : Char) : Bool :=
  (decide ('0' ≤ c) && decide (c ≤ '9')) || (decide ('a' ≤ c) && decide (c ≤ 'z')) || c == '.' || c == '/'

/-- What `url.Parse` and `url.ParseRequestURI` make of the URI of an object. -/
def ParsesObjects (parse : String → Option Outbound.URL) : Prop :=
  ∀ host key, host ≠ "" → (∀ c ∈ host.toList, isHostChar c = true) →
    (∀ c ∈ key.toList, isKeyChar c = true) →
    parse ("s3://" ++ host ++ "/" ++ key) = some ⟨"s3", none, host, "/" ++ key, "", ""⟩

def IsBucketName (bucketName : String) : Prop :=
  TrimSpace bucketName ≠ "" ∧ ∀ c ∈ (TrimSpace bucketName).toList, isHostChar c = true

/-- What `parseSoulAgentIDHex` returns. -/
def IsAgentIDHex (agentIDHex : String) : Prop :=
  ∃ digits : List Char, (∀ c ∈ digits, isLowerHexChar c = true) ∧
    agentIDHex = String.ofList ('0' :: 'x' :: digits)

section Texts

theorem isKeyChar_of_hex {c : Char} (h : isLowerHexChar c = true) : isKeyChar c = true := by
  simp only [isLowerHexChar, Bool.or_eq_true, Bool.and_eq_true, decide_eq_true_eq] at h
  have hz : ∀ c : Char, c ≤ 'f' → c ≤ 'z' := fun c hc => Char.le_trans hc (by decide)
  simp only [isKeyChar, Bool.or_eq_true, Bool.and_eq_true, decide_eq_true_eq]
  rcases h with h | h
  · exact Or.inl (Or.inl (Or.inl h))
  · exact Or.inl (Or.inl (Or.inr ⟨h.1, hz c h.2⟩))

theorem hex_Itoa (n : Nat) : ∀ c ∈ (Itoa n).toList, isLowerHexChar c = true := by
  intro c hc
  rw [Itoa, if_neg (by omega), String.toList_ofList] at hc
  have hdigit : c.isDigit = true := Nat.isDigit_of_mem_toDigits (by decide) (by decide) hc
  obtain ⟨hlow, hhigh⟩ := Char.isDigit_bounds hdigit
  simp only [isLowerHexChar, Bool.or_eq_true, Bool.and_eq_true, decide_eq_true_eq]
  exact Or.inl ⟨hlow, hhigh⟩

theorem IsAgentIDHex.normal {agentIDHex : String} (h : IsAgentIDHex agentIDHex) :
    ToLower (TrimSpace agentIDHex) = agentIDHex := by
  obtain ⟨digits, hhex, rfl⟩ := h
  have htrim : TrimSpace (String.ofList ('0' :: 'x' :: digits))
      = String.ofList ('0' :: 'x' :: digits) := by
    refine IsTrimmed.TrimSpace_eq ?_
    rw [IsTrimmed, String.toList_ofList]
    refine Trimmed.of_forall fun c hc => ?_
    rcases List.mem_cons.1 hc with rfl | hc
    · decide
    · rcases List.mem_cons.1 hc with rfl | hc
      · decide
      · exact isSpace_of_hex (hhex c hc)
  rw [htrim, ToLower, String.toList_ofList, List.map_cons, List.map_cons,
    List.map_congr_left fun c hc => toLowerChar_of_hex (hhex c hc), List.map_id']
  rfl

variable {std : Std} {cfg : Config} {agentIDHex : String}

/-- A version's key, cut at its number. -/
theorem versionedKey_eq (agent : IsAgentIDHex agentIDHex) (n : Int) :
    soulRegistrationVersionedS3Key agentIDHex n
      = ("registry/v1/agents/" ++ agentIDHex ++ "/versions/") ++ (Itoa n ++ "/registration.json") := by
  unfold soulRegistrationVersionedS3Key
  rw [agent.normal, String.append_assoc]

theorem isKeyChar_versionedKey (agent : IsAgentIDHex agentIDHex) (n : Nat) :
    ∀ c ∈ (soulRegistrationVersionedS3Key agentIDHex n).toList, isKeyChar c = true := by
  intro c hc
  have hall : ∀ text ∈ ["registry/v1/agents/", "/versions/", "/registration.json"],
      (text.toList.all isKeyChar) = true := by decide
  have hliteral : ∀ text ∈ ["registry/v1/agents/", "/versions/", "/registration.json"],
      c ∈ text.toList → isKeyChar c = true := fun text htext hmem =>
    List.all_eq_true.1 (hall text htext) c hmem
  rw [versionedKey_eq agent] at hc
  simp only [String.toList_append, List.mem_append] at hc
  rcases hc with ((hc | hc) | hc) | hc | hc
  · exact hliteral _ (by simp) hc
  · obtain ⟨digits, hhex, rfl⟩ := agent
    rw [String.toList_ofList] at hc
    rcases List.mem_cons.1 hc with rfl | hc
    · decide
    · rcases List.mem_cons.1 hc with rfl | hc
      · decide
      · exact isKeyChar_of_hex (hhex c hc)
  · exact hliteral _ (by simp) hc
  · exact isKeyChar_of_hex (hex_Itoa n c hc)
  · exact hliteral _ (by simp) hc

theorem versionedKey_last (agent : IsAgentIDHex agentIDHex) (n : Int) :
    (soulRegistrationVersionedS3Key agentIDHex n).toList.getLast? = some 'n' := by
  rw [versionedKey_eq agent]
  exact getLast?_append (getLast?_append (by decide))

theorem versionURI_trimmed (agent : IsAgentIDHex agentIDHex) (bucketName : String) (n : Int) :
    TrimSpace (versionURI bucketName agentIDHex n) = versionURI bucketName agentIDHex n := by
  refine IsTrimmed.TrimSpace_eq (isTrimmed_of_ends (a := 's') (b := 'n') ?_ ?_ (by decide) (by decide))
  · exact head?_append (head?_append (head?_append (by decide)))
  · exact getLast?_append (versionedKey_last agent n)

theorem versionURI_ne_empty (bucketName : String) (n : Int) :
    versionURI bucketName agentIDHex n ≠ "" := by
  intro h
  have hhead : (versionURI bucketName agentIDHex n).toList.head? = some 's' :=
    head?_append (head?_append (head?_append (by decide)))
  rw [h] at hhead
  cases hhead

theorem versionURI_parsed {parse : String → Option Outbound.URL} (hparse : ParsesObjects parse)
    (bucket : IsBucketName cfg.SoulPackBucketName) (agent : IsAgentIDHex agentIDHex) (n : Nat) :
    parse (versionURI (TrimSpace cfg.SoulPackBucketName) agentIDHex n)
      = some ⟨"s3", none, TrimSpace cfg.SoulPackBucketName,
        "/" ++ soulRegistrationVersionedS3Key agentIDHex n, "", ""⟩ :=
  hparse _ _ bucket.1 bucket.2 (isKeyChar_versionedKey agent n)

/-- The number of a version is read from its key. -/
theorem split_version (n : Nat) :
    Split (Itoa n ++ "/registration.json") '/' = [Itoa n, "registration.json"] := by
  have hlist : (Itoa n ++ "/registration.json").toList
      = (Itoa n).toList ++ '/' :: "registration.json".toList := by
    rw [String.toList_append]
    rfl
  have hnumber : '/' ∉ (Itoa n).toList := by
    intro hmem
    exact absurd (hex_Itoa n _ hmem) (by decide)
  rw [Split, hlist, List.splitOn_append_cons_self, List.splitOn_eq_singleton hnumber,
    List.splitOn_eq_singleton (by decide)]
  simp only [List.singleton_append, List.map_cons, List.map_nil, String.ofList_toList]

/-- **The URI of a version** names that version. -/
theorem derive_versionURI (hparse : ParsesObjects std.Parse)
    (bucket : IsBucketName cfg.SoulPackBucketName) (agent : IsAgentIDHex agentIDHex) {n : Nat}
    (hpos : 0 < n) (hn : n < 2 ^ 63) :
    deriveSoulRegistrationNextVersion std agentIDHex
      (some (versionURI (TrimSpace cfg.SoulPackBucketName) agentIDHex n)) cfg.SoulPackBucketName
      = .ok ((n : Int), (n : Int) + 1) := by
  have hpath : TrimSpace ("/" ++ soulRegistrationVersionedS3Key agentIDHex n)
      = "/" ++ soulRegistrationVersionedS3Key agentIDHex n :=
    IsTrimmed.TrimSpace_eq (isTrimmed_of_ends (a := '/') (b := 'n') (head?_append (by decide))
      (getLast?_append (versionedKey_last agent n)) (by decide) (by decide))
  have hkey : TrimPrefix (TrimSpace ("/" ++ soulRegistrationVersionedS3Key agentIDHex n)) "/"
      = ("registry/v1/agents/" ++ agentIDHex ++ "/versions/") ++ (Itoa n ++ "/registration.json") := by
    rw [hpath, TrimPrefix_append, versionedKey_eq agent]
  have hnumber : TrimSpace (Itoa n) = Itoa n := by
    have htrim := TrimSpace_hex (hex_Itoa n)
    rwa [String.ofList_toList] at htrim
  have hscheme : ToLower (TrimSpace "s3") = "s3" := by decide
  have hname : TrimSpace "registration.json" = "registration.json" := by decide
  simp only [deriveSoulRegistrationNextVersion, Option.getD_some, versionURI_trimmed agent,
    if_neg (versionURI_ne_empty _ _), versionURI_parsed hparse bucket agent, agent.normal, hscheme,
    TrimSpace_idem, bucket.1, EqualFold_self, hkey, TrimPrefix_append, HasPrefix_append, split_version,
    hname, hnumber, Atoi_Itoa hn, ne_eq, not_true_eq_false, or_self, if_false, Bool.true_eq_false]
  rw [if_neg (by omega)]

end Texts

/-! ## The next document -/

section Next

variable {std : Std} {cfg : Config} {agentIDHex : String} {reg : Registry} {n : Nat}

/-- What a deployment and a request for one of its agents come with. -/
structure Deployed (std : Std) (cfg : Config) (agentIDHex : String) : Prop where
  enabled : cfg.SoulEnabled = true
  bucket : IsBucketName cfg.SoulPackBucketName
  agent : IsAgentIDHex agentIDHex
  parse : ParsesObjects std.Parse
  parseRequest : ParsesObjects std.ParseRequestURI

theorem Consistent.no_history (h : Consistent std agentIDHex reg 0) :
    ensureNoSoulRegistrationVersionHistory reg = .ok () := by
  have hversions : reg.versions = [] := by
    refine List.eq_nil_iff_forall_not_mem.2 fun row hrow => ?_
    have hrange := (h.recorded _).1 (getVersion_isSome.2 ⟨row, hrow, rfl⟩)
    omega
  rw [ensureNoSoulRegistrationVersionHistory, getNextSoulAgentVersion, collectVersions, hversions]
  rfl

/-- The document that names version `n` makes a plan for the next one. -/
theorem Consistent.prepare_next (h : Consistent std agentIDHex reg n) {p : Publication}
    (hderive : deriveSoulRegistrationNextVersion std agentIDHex p.PreviousVersionURI
      cfg.SoulPackBucketName = .ok ((n : Int), (n : Int) + 1))
    (hexpected : ∀ v ∈ p.expectedVersion, v = (n : Int))
    (hprevious : validateSoulRegistrationPreviousVersionURI (TrimSpace cfg.SoulPackBucketName) agentIDHex
      ((n : Int) + 1) p.PreviousVersionURI = .ok ())
    (hclaims : p.claimLevels = .ok ()) :
    ∃ previous, prepareSoulRegistrationPublish std cfg agentIDHex p reg
      = .ok (.create n (nextRecord std cfg agentIDHex n previous p)) := by
  have hany : (p.expectedVersion.any fun expected => expected != (n : Int)) = false := by
    cases hv : p.expectedVersion with
    | none => rfl
    | some v =>
        obtain rfl := hexpected v hv
        exact bne_self_eq_false _
  have hfirst : ensureFirstVersion n ((n : Int) + 1) reg = .ok () := by
    unfold ensureFirstVersion
    split_ifs with hzero
    · obtain rfl : n = 0 := by omega
      exact h.no_history
    · rfl
  have hnone : getSoulAgentVersionRecord reg ((n : Int) + 1) = none := by
    rw [← Option.not_isSome_iff_eq_none, h.recorded]
    omega
  obtain ⟨previous, hload⟩ : ∃ previous, loadPreviousSoulRegistrationSHA cfg n reg = .ok previous := by
    unfold loadPreviousSoulRegistrationSHA
    by_cases hzero : (n : Int) ≤ 0
    · rw [if_pos hzero]
      exact ⟨_, rfl⟩
    · obtain ⟨row, hrow⟩ := Option.isSome_iff_exists.1 ((h.recorded n).2 ⟨by omega, le_rfl⟩)
      rw [if_neg hzero, hrow]
      exact ⟨_, rfl⟩
  have hadvanced : ¬ (n : Int) + 1 < n := by omega
  simp only [prepareSoulRegistrationPublish, hderive, bind, Except.bind, hany, hprevious, hfirst,
    h.described, hclaims, repairExistingSoulRegistrationVersion, hnone, hload, Bool.false_eq_true,
    if_false, ne_eq, not_true_eq_false, pure, Except.pure, hadvanced]
  exact ⟨_, rfl⟩

/-- The document that names version `n` is published as the next one. -/
theorem Consistent.publish_next (h : Consistent std agentIDHex reg n)
    (deployed : Deployed std cfg agentIDHex) {p : Publication}
    (hderive : deriveSoulRegistrationNextVersion std agentIDHex p.PreviousVersionURI
      cfg.SoulPackBucketName = .ok ((n : Int), (n : Int) + 1))
    (hexpected : ∀ v ∈ p.expectedVersion, v = (n : Int))
    (hprevious : validateSoulRegistrationPreviousVersionURI (TrimSpace cfg.SoulPackBucketName) agentIDHex
      ((n : Int) + 1) p.PreviousVersionURI = .ok ())
    (hclaims : p.claimLevels = .ok ()) (hboundary : p.boundary = none) :
    ∃ next, publishSoulAgentRegistration std cfg agentIDHex p reg = (next, .ok ((n : Int) + 1)) ∧
      Consistent std agentIDHex next (n + 1) := by
  obtain ⟨previous, hplan⟩ := h.prepare_next hderive hexpected hprevious hclaims
  have hnone : getSoulAgentVersionRecord reg ((n : Int) + 1) = none := by
    rw [← Option.not_isSome_iff_eq_none, h.recorded]
    omega
  have hmax : max (n : Int) 0 = n := by omega
  obtain ⟨recorded, hrecorded⟩ : ∃ recorded,
      recordVersion n (nextRecord std cfg agentIDHex n previous p) p.boundary reg = some recorded := by
    have hcreate : createVersion reg (nextRecord std cfg agentIDHex n previous p)
        = some { reg with versions := reg.versions ++ [nextRecord std cfg agentIDHex n previous p] } := by
      rw [createVersion, if_neg]
      rw [Bool.not_eq_true, Option.isSome_eq_false_iff, Option.isNone_iff_eq_none]
      exact hnone
    rw [recordVersion, h.described, hmax, if_neg (by simp), hboundary, Option.any_none,
      if_neg (by simp), hcreate, Option.map_some]
    exact ⟨_, rfl⟩
  obtain ⟨stored, hstored, hconsistent⟩ := h.create hrecorded
  have hbase : validateSoulRegistrationPublishBase cfg (regSHA256Hex std p.regBytes) = .ok () := by
    rw [validateSoulRegistrationPublishBase, deployed.enabled, if_neg (by simp),
      if_neg deployed.bucket.1, regSHA256Hex_len, if_neg (by simp)]
  refine ⟨_, ?_, hconsistent⟩
  rw [publishSoulAgentRegistration, hbase]
  simp only [hplan, hrecorded, nextRecord_number, hstored]

/-- **A state in order** takes every next document. -/
theorem Consistent.canPublish (h : Consistent std agentIDHex reg n)
    (deployed : Deployed std cfg agentIDHex) (hn : n < 2 ^ 63) : CanPublish std cfg agentIDHex reg := by
  refine ⟨⟨⟨"2", ⟨⟨0, .utc⟩, if highestVersion reg = 0 then none
    else some (versionURI (TrimSpace cfg.SoulPackBucketName) agentIDHex (highestVersion reg)), [], "", "",
      none, .ok (), none⟩, .ok (), .ok ()⟩, rfl, rfl, nofun, rfl, rfl, rfl⟩, fun r next => ?_⟩
  have hnames := next.names
  rw [h.highest] at hnames
  have hderive : deriveSoulRegistrationNextVersion std agentIDHex r.publication.PreviousVersionURI
      cfg.SoulPackBucketName = .ok ((n : Int), (n : Int) + 1) := by
    rcases Nat.eq_zero_or_pos n with rfl | hpos
    · rw [hnames]
      rfl
    · rw [hnames, if_neg (by omega)]
      exact derive_versionURI deployed.parse deployed.bucket deployed.agent hpos hn
  have hprevious : validateSoulRegistrationPreviousVersionURI (TrimSpace cfg.SoulPackBucketName)
      agentIDHex ((n : Int) + 1) r.publication.PreviousVersionURI = .ok () := by
    rcases Nat.eq_zero_or_pos n with rfl | hpos
    · rw [hnames]
      rfl
    · rw [hnames, if_neg (by omega), validateSoulRegistrationPreviousVersionURI, if_neg (by omega),
        Option.getD_some, versionURI_trimmed deployed.agent, if_neg (versionURI_ne_empty _ _),
        Int.add_sub_cancel, if_neg (by simp)]
  have hschema : validateSoulUpdateRegistrationSchema std r = .ok () := by
    have hlegacy : isLegacyVersion r.version = false := by
      have htyped := next.typed
      simp only [isTypedVersion, Bool.or_eq_true, beq_iff_eq] at htyped
      rcases htyped with htyped | htyped <;> rw [htyped] <;> decide
    rw [validateSoulUpdateRegistrationSchema, hlegacy, if_neg (by simp), next.typed, if_pos rfl, hnames,
      validateOptionalPreviousVersionURI]
    rcases Nat.eq_zero_or_pos n with rfl | hpos
    · rfl
    · have hn : ¬ (n : Int) = 0 := by omega
      simp only [if_neg hn, Option.getD_some, versionURI_trimmed deployed.agent]
      rw [if_neg (versionURI_ne_empty _ _), versionURI_parsed deployed.parseRequest deployed.bucket
        deployed.agent]
      rfl
  have hadmit : admitUpdate std r reg = .ok () := by
    rw [admitUpdate, requireActiveSoulAgent, h.active, if_neg (by simp), next.verified, hschema, next.bound]
    rfl
  obtain ⟨after, hpublish, hconsistent⟩ :=
    h.publish_next deployed (p := { r.publication with boundary := none }) hderive
      (fun v hv => (next.expected v hv).trans h.highest) hprevious next.claimLevels rfl
  rw [h.highest]
  refine ⟨after, ?_, ?_⟩
  · rw [completeSoulAgentRegistrationUpdate, hadmit, next.typed]
    exact hpublish
  · exact hconsistent.agrees

end Next

end LesserHost.SoulRegistration
