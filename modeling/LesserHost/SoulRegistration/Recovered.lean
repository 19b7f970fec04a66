import LesserHost.SoulRegistration.Recovery
import LesserHost.SoulRegistration.Runs

set_option autoImplicit false

/-! # Recovery after publishes

What the publishes and the appends write is what the recovery asks for: the keys and the URIs, the
digests and the digest of the version before, as long as no document is larger than what the recovery
reads. -/

namespace LesserHost.SoulRegistration

open LesserHost.Go
open LesserHost.ControlPlane (AppTheoryError)
open LesserHost.HostedGenesis (bind_ok seq_ok pure_ok guard_ok)

attribute [local irreducible] soulRegistrationS3Key soulRegistrationVersionedS3Key

/-! ## The chain that publishes leave -/

/-- The digest of the version before. -/
def digestBefore (reg : Registry) (v : Nat) : String :=
  ((getSoulAgentVersionRecord reg ((v : Int) - 1)).map (·.RegistrationSHA256)).getD ""

/-- A version as it was published. -/
def Kept (std : Std) (cfg : Config) (agentIDHex : String) (reg : Registry) (v : Nat) : Prop :=
  ∃ row body, getSoulAgentVersionRecord reg v = some row ∧ row.AgentID = agentIDHex ∧
    row.CreatedAt.IsZero = false ∧
    row.RegistrationURI = versionURI (TrimSpace cfg.SoulPackBucketName) agentIDHex v ∧
    row.RegistrationSHA256 = regSHA256Hex std body ∧
    row.PreviousRegistrationSHA256 = digestBefore reg v ∧
    reg.objects (soulRegistrationVersionedS3Key agentIDHex v) = some body ∧
    body.length ≤ soulRecoveryMaxArtifactSize

structure Chained (std : Std) (cfg : Config) (agentIDHex : String) (reg : Registry) (n : Nat) : Prop where
  versions : ∀ v, 1 ≤ v → v ≤ n → Kept std cfg agentIDHex reg v
  current : 1 ≤ n → ∃ body, reg.objects (soulRegistrationS3Key agentIDHex) = some body ∧
    body.length ≤ soulRecoveryMaxArtifactSize

/-- A publication that the recovery can read: it has a date, and its document is not too large. -/
def Publication.Fits (p : Publication) : Prop :=
  p.now.IsZero = false ∧ p.regBytes.length ≤ soulRecoveryMaxArtifactSize

section Chain

variable {std : Std} {cfg : Config} {agentIDHex : String} {reg stored : Registry} {n : Nat}

theorem Kept.of_same {after : Registry} {v : Nat} (h : Kept std cfg agentIDHex reg v)
    (hrows : ∀ u : Int, u ≤ v → getSoulAgentVersionRecord after u = getSoulAgentVersionRecord reg u)
    (hobject : after.objects (soulRegistrationVersionedS3Key agentIDHex v)
      = reg.objects (soulRegistrationVersionedS3Key agentIDHex v)) :
    Kept std cfg agentIDHex after v := by
  obtain ⟨row, body, hrow, hagent, hdate, huri, hdigest, hprevious, hbody, hsize⟩ := h
  refine ⟨row, body, (hrows v le_rfl).trans hrow, hagent, hdate, huri, hdigest, ?_, hobject.trans hbody,
    hsize⟩
  rw [hprevious, digestBefore, digestBefore, hrows _ (by omega)]

/-- An object that is there stays. -/
theorem artifacts_kept {version : Int} {regBytes body : Bytes}
    (h : ensureSoulRegistrationS3Artifacts std agentIDHex version regBytes reg = .ok stored)
    (hne : soulRegistrationVersionedS3Key agentIDHex version ≠ soulRegistrationS3Key agentIDHex)
    (hbody : reg.objects (soulRegistrationVersionedS3Key agentIDHex version) = some body) :
    stored.objects (soulRegistrationVersionedS3Key agentIDHex version) = some body := by
  simp only [ensureSoulRegistrationS3Artifacts, bind_ok, pure_ok] at h
  obtain ⟨checked, hchecked, rfl⟩ := h
  rw [PutObject_other _ _ hne]
  unfold ensureSoulPackObjectSHA256 at hchecked
  split at hchecked
  · rw [guard_ok] at hchecked
    obtain ⟨-, hchecked⟩ := hchecked
    cases hchecked
    exact hbody
  · rename_i hmissing
    rw [GetObject, hbody] at hmissing
    dsimp only at hmissing
    split at hmissing <;> cases hmissing
  · cases hchecked

theorem artifacts_written {version : Int} {regBytes : Bytes}
    (h : ensureSoulRegistrationS3Artifacts std agentIDHex version regBytes reg = .ok stored)
    (hne : soulRegistrationVersionedS3Key agentIDHex version ≠ soulRegistrationS3Key agentIDHex)
    (hnone : reg.objects (soulRegistrationVersionedS3Key agentIDHex version) = none) :
    stored.objects (soulRegistrationVersionedS3Key agentIDHex version) = some regBytes := by
  simp only [ensureSoulRegistrationS3Artifacts, bind_ok, pure_ok] at h
  obtain ⟨checked, hchecked, rfl⟩ := h
  rw [PutObject_other _ _ hne]
  rw [ensureSoulPackObjectSHA256, GetObject, hnone] at hchecked
  cases hchecked
  exact PutObject_same _ _ _

theorem getVersion_finalize (version v : Int) :
    getSoulAgentVersionRecord (finalizeIdentity version reg) v = getSoulAgentVersionRecord reg v := by
  rw [getSoulAgentVersionRecord, versions_finalize, getSoulAgentVersionRecord]

theorem getVersion_stored {version : Int} {regBytes : Bytes}
    (h : Stored agentIDHex version regBytes reg stored) (v : Int) :
    getSoulAgentVersionRecord stored v = getSoulAgentVersionRecord reg v := by
  rw [getSoulAgentVersionRecord, h.versions, getSoulAgentVersionRecord]

/-- The last version is published again. -/
theorem Chained.repaired (h : Chained std cfg agentIDHex reg n) {regBytes : Bytes} (hpos : 1 ≤ n)
    (hsize : regBytes.length ≤ soulRecoveryMaxArtifactSize)
    (hstored : ensureSoulRegistrationS3Artifacts std agentIDHex n regBytes reg = .ok stored) :
    Chained std cfg agentIDHex (finalizeIdentity n stored) n := by
  have hwrites := artifacts_ok hstored
  refine ⟨fun v hlow hhigh => ?_, fun _ => ⟨regBytes, ?_, hsize⟩⟩
  · refine (h.versions v hlow hhigh).of_same (fun u _ => ?_) ?_
    · rw [getVersion_finalize, getVersion_stored hwrites]
    · rw [objects_finalize]
      obtain ⟨_, body, -, -, -, -, -, -, hbody, -⟩ := h.versions v hlow hhigh
      rcases eq_or_ne v n with rfl | hne
      · rw [artifacts_kept hstored (currentKey_ne _) hbody, hbody]
      · exact hwrites.others _ (currentKey_ne _) fun hkey => hne (versionedKey_injective hkey)
  · rw [objects_finalize, hwrites.current]

/-- The digest that the next row points to. -/
theorem nextRecord_previous (hc : Consistent std agentIDHex reg n) {previous : String}
    (hload : loadPreviousSoulRegistrationSHA cfg n reg = .ok previous) (p : Publication) :
    (nextRecord std cfg agentIDHex n previous p).PreviousRegistrationSHA256
      = ((getSoulAgentVersionRecord reg n).map (·.RegistrationSHA256)).getD "" := by
  have hvalue : (nextRecord std cfg agentIDHex n previous p).PreviousRegistrationSHA256
      = ToLower (TrimSpace (TrimSpace previous)) := rfl
  rw [hvalue, TrimSpace_idem]
  unfold loadPreviousSoulRegistrationSHA at hload
  cases hrow : getSoulAgentVersionRecord reg n with
  | none =>
      have hzero : (n : Int) ≤ 0 := by
        by_contra hpos
        have hsome := (hc.recorded n).2 ⟨by omega, le_rfl⟩
        rw [hrow] at hsome
        cases hsome
      rw [if_pos hzero] at hload
      cases hload
      decide
  | some row =>
      have hrange := (hc.recorded n).1 (by rw [hrow]; rfl)
      rw [if_neg (by omega), hrow] at hload
      cases hload
      rw [TrimSpace_idem, hc.normal row (getVersion_mem hrow).1]
      rfl

/-- The next version is published. -/
theorem Chained.create (deployed : Deployed std cfg agentIDHex) (hc : Consistent std agentIDHex reg n)
    (h : Chained std cfg agentIDHex reg n) {p : Publication} (fits : p.Fits) {previous : String}
    {boundary : Option String} {next : Registry}
    (hload : loadPreviousSoulRegistrationSHA cfg n reg = .ok previous)
    (hnext : recordVersion n (nextRecord std cfg agentIDHex n previous p) boundary reg = some next)
    (hstored : ensureSoulRegistrationS3Artifacts std agentIDHex ((n : Int) + 1) p.regBytes next
      = .ok stored) :
    Chained std cfg agentIDHex (finalizeIdentity ((n : Int) + 1) stored) (n + 1) := by
  obtain ⟨-, hversions, hobjects⟩ := recordVersion_some hnext
  have hwrites := artifacts_ok hstored
  have hcast : ((n : Int) + 1) = ((n + 1 : Nat) : Int) := rfl
  have hnumber : (nextRecord std cfg agentIDHex n previous p).VersionNumber = ((n + 1 : Nat) : Int) := rfl
  have hrows : ∀ u : Int, getSoulAgentVersionRecord (finalizeIdentity ((n : Int) + 1) stored) u
      = (getSoulAgentVersionRecord reg u).or
        (if ((n + 1 : Nat) : Int) = u then some (nextRecord std cfg agentIDHex n previous p) else none) := by
    intro u
    rw [getVersion_finalize, getVersion_stored hwrites, getVersion_append hversions, hnumber]
  have hearlier : ∀ u : Int, u ≤ n →
      getSoulAgentVersionRecord (finalizeIdentity ((n : Int) + 1) stored) u
        = getSoulAgentVersionRecord reg u := by
    intro u hu
    rw [hrows, if_neg (by omega), Option.or_none]
  refine ⟨fun v hlow hhigh => ?_, fun _ => ⟨p.regBytes, ?_, fits.2⟩⟩
  · rcases Nat.lt_or_ge n v with hlast | hold
    · obtain rfl : v = n + 1 := by omega
      have hnone : getSoulAgentVersionRecord reg ((n + 1 : Nat) : Int) = none := by
        rw [← Option.not_isSome_iff_eq_none, hc.recorded]
        omega
      refine ⟨nextRecord std cfg agentIDHex n previous p, p.regBytes, ?_, deployed.agent.normal, fits.1,
        versionURI_trimmed deployed.agent _ _, nextRecord_digest previous p, ?_, ?_, fits.2⟩
      · rw [hrows, hnone, Option.none_or, if_pos rfl]
      · rw [nextRecord_previous hc hload, digestBefore, hearlier _ (by omega)]
        congr 3
        omega
      · rw [objects_finalize]
        refine artifacts_written hstored (currentKey_ne _) ?_
        rw [hobjects]
        exact hc.unpublished (n + 1) (Nat.lt_succ_self n)
    · refine (h.versions v hlow hold).of_same (fun u hu => hearlier u (by omega)) ?_
      rw [objects_finalize, hwrites.others _ (currentKey_ne _), hobjects]
      intro hkey
      have := versionedKey_injective (n := n + 1) hkey
      omega
  · rw [objects_finalize, hwrites.current]

/-- **One publish** keeps the chain. -/
theorem Chained.publish (deployed : Deployed std cfg agentIDHex) (hc : Consistent std agentIDHex reg n)
    (h : Chained std cfg agentIDHex reg n) {p : Publication} (fits : p.Fits) :
    ∃ m ≤ n + 1,
      Consistent std agentIDHex (publishSoulAgentRegistration std cfg agentIDHex p reg).1 m ∧
      Chained std cfg agentIDHex (publishSoulAgentRegistration std cfg agentIDHex p reg).1 m := by
  rcases hc.publish_cases cfg p with hsame | ⟨row, stored, hrow, hdigest, hstored, heq⟩ |
    ⟨previous, next, stored, hload, hnext, hstored, heq⟩
  · rw [hsame]
    exact ⟨n, Nat.le_succ n, hc, h⟩
  · have hrange := (hc.recorded n).1 (by rw [hrow]; rfl)
    rw [heq]
    exact ⟨n, Nat.le_succ n, Consistent.of_stored hc.active hc.recorded hc.normal hc.unpublished hrow
      hdigest (artifacts_ok hstored), h.repaired (by omega) fits.2 hstored⟩
  · obtain ⟨other, hother, hconsistent⟩ := hc.create hnext
    obtain rfl : stored = other := Except.ok.inj (hstored.symm.trans hother)
    rw [heq]
    exact ⟨n + 1, le_rfl, hconsistent, h.create deployed hc fits hload hnext hstored⟩

end Chain

/-! ## Runs -/

/-- A request whose document the recovery can read. -/
def Event.Fits : Event → Prop
  | .update r => r.publication.Fits
  | .appendBoundary b => b.now.IsZero = false ∧
      ∀ base body, b.document base = .ok body → body.length ≤ soulRecoveryMaxArtifactSize

section Runs

variable {std : Std} {cfg : Config} {agentIDHex : String} {reg : Registry} {n : Nat}

theorem Event.Fits.carries {e : Event} {p : Publication} (fits : e.Fits)
    (h : e.Carries cfg agentIDHex p) : p.Fits := by
  cases e with
  | update r =>
      rw [show p = _ from h]
      exact fits
  | appendBoundary b =>
      obtain ⟨base, regBytes, hdocument, rfl⟩ := h
      exact ⟨fits.1, fits.2 base regBytes hdocument⟩

/-- **One request** keeps the chain. -/
theorem Chained.step (deployed : Deployed std cfg agentIDHex) (hc : Consistent std agentIDHex reg n)
    (h : Chained std cfg agentIDHex reg n) {e : Event} (typed : e.Typed) (fits : e.Fits) :
    ∃ m ≤ n + 1, Consistent std agentIDHex (e.handle std cfg agentIDHex reg).1 m ∧
      Chained std cfg agentIDHex (e.handle std cfg agentIDHex reg).1 m := by
  rcases handle_cases std cfg agentIDHex reg typed with hsame | ⟨p, hcarries, hpublish⟩
  · rw [hsame]
    exact ⟨n, Nat.le_succ n, hc, h⟩
  · rw [hpublish]
    exact h.publish deployed hc (fits.carries hcarries)

theorem chained_zero (std : Std) (cfg : Config) (agentIDHex : String) (reg : Registry) :
    Chained std cfg agentIDHex reg 0 := ⟨fun v hlow hhigh => by omega, fun h => by omega⟩

theorem Chained.run (deployed : Deployed std cfg agentIDHex) (hc : Consistent std agentIDHex reg n)
    (h : Chained std cfg agentIDHex reg n) {events : List Event} (typed : ∀ e ∈ events, e.Typed)
    (fits : ∀ e ∈ events, e.Fits) :
    ∃ m, Consistent std agentIDHex (run std cfg agentIDHex reg events) m ∧
      Chained std cfg agentIDHex (run std cfg agentIDHex reg events) m := by
  induction events generalizing reg n with
  | nil => exact ⟨n, hc, h⟩
  | cons e events ih =>
      obtain ⟨k, -, hstep, hchain⟩ :=
        h.step deployed hc (typed e List.mem_cons_self) (fits e List.mem_cons_self)
      exact ih hstep hchain (fun other hother => typed other (List.mem_cons_of_mem e hother))
        fun other hother => fits other (List.mem_cons_of_mem e hother)

/-! ## What the recovery makes of it -/

/-- The versions 1 to `n`, in order. -/
structure RecoversAll (cfg : Config) (agentIDHex : String) (reg : Registry) (n : Nat)
    (state : SoulRecoveryArtifactState) : Prop where
  length : state.Versions.length = n
  versions : ∀ v, 1 ≤ v → v ≤ n → ∃ row, getSoulAgentVersionRecord reg v = some row ∧
    state.Versions[v - 1]? = some (recoveryVersion cfg agentIDHex v row) ∧
    row.RegistrationURI = (recoveryVersion cfg agentIDHex v row).RegistrationURI ∧
    row.RegistrationSHA256 = (recoveryVersion cfg agentIDHex v row).RegistrationSHA256

theorem loadVersion_kept {v : Nat} (deployed : Deployed std cfg agentIDHex)
    (h : Kept std cfg agentIDHex reg v) :
    ∃ row, getSoulAgentVersionRecord reg v = some row ∧
      loadSoulRecoveryVersionArtifact std cfg agentIDHex reg v
        = .ok (some (recoveryVersion cfg agentIDHex v row)) := by
  obtain ⟨row, body, hrow, hagent, hdate, huri, hdigest, -, hbody, hsize⟩ := h
  refine ⟨row, hrow, ?_⟩
  have htrimmed : TrimSpace (regSHA256Hex std body) = regSHA256Hex std body := by
    rw [regSHA256Hex, TrimSpace_hex (hexEncode_hex _)]
  have hlen : len (regSHA256Hex std body) = 64 := by
    rw [← htrimmed]
    exact regSHA256Hex_len body
  have hmatches : soulRecoverySHA256Matches std body row.RegistrationSHA256 = true := by
    rw [soulRecoverySHA256Matches, hdigest, regSHA256Hex_normal, hlen, Bool.and_eq_true]
    exact ⟨rfl, beq_self_eq_true _⟩
  have hbinding : ¬ (EqualFold row.AgentID agentIDHex = false ∨ row.VersionNumber ≠ v ∨
      row.CreatedAt.IsZero = true) := by
    rw [hagent, EqualFold_self, (getVersion_mem hrow).2, hdate]
    simp
  have htext : TrimSpace row.RegistrationURI
      = versionURI (TrimSpace cfg.SoulPackBucketName) agentIDHex v := by
    rw [huri, versionURI_trimmed deployed.agent]
  simp only [loadSoulRecoveryVersionArtifact, hrow, if_neg hbinding, htext, ne_eq, not_true_eq_false,
    if_false, getObject_of_some hbody hsize, bind, Except.bind, Option.any_some, hmatches,
    Bool.true_eq_false]

theorem loadVersions_all {versions : List Nat}
    (h : ∀ v ∈ versions, ∃ view, loadSoulRecoveryVersionArtifact std cfg agentIDHex reg (v : Int)
      = .ok (some view)) :
    ∃ views, loadVersions std cfg agentIDHex reg versions = .ok (views, 0) := by
  induction versions with
  | nil => exact ⟨[], rfl⟩
  | cons version rest ih =>
      obtain ⟨view, hview⟩ := h version List.mem_cons_self
      obtain ⟨views, hviews⟩ := ih fun v hv => h v (List.mem_cons_of_mem version hv)
      exact ⟨view :: views, by rw [loadVersions, hview, hviews]; rfl⟩

theorem chain_of {number : Int} {previous : Option String} {views : List SoulRecoveryVersion}
    (h : ∀ (k : Nat) (view : SoulRecoveryVersion), views[k]? = some view → view.VersionNumber = number + k ∧
      view.ChecksumVerified = true ∧ (k = 0 → pointsBack previous view = true) ∧
      ∀ j, k = j + 1 → ∃ before, views[j]? = some before ∧
        EqualFold view.PreviousRegistrationSHA256 before.RegistrationSHA256 = true) :
    validateSoulRecoveryChain number previous views = .ok () := by
  induction views generalizing number previous with
  | nil => rfl
  | cons first rest ih =>
      obtain ⟨hnumber, hchecked, hpoints, -⟩ := h 0 first rfl
      have hrest : validateSoulRecoveryChain (number + 1) (some first.RegistrationSHA256) rest
          = .ok () := by
        refine ih fun k view hview => ?_
        obtain ⟨hk, hverified, -, hback⟩ := h (k + 1) view hview
        refine ⟨by rw [hk]; push_cast; omega, hverified, fun hzero => ?_, fun j hj => ?_⟩
        · subst hzero
          obtain ⟨before, hbefore, hequal⟩ := hback 0 rfl
          cases hbefore
          exact hequal
        · subst hj
          obtain ⟨before, hbefore, hequal⟩ := hback (j + 1) rfl
          exact ⟨before, hbefore, hequal⟩
      rw [validateSoulRecoveryChain, hnumber, hchecked, hpoints rfl, hrest]
      simp

/-- The versions as the recovery sees them. -/
theorem Chained.views (deployed : Deployed std cfg agentIDHex) (h : Chained std cfg agentIDHex reg n) :
    ∃ views, loadVersions std cfg agentIDHex reg (List.range' 1 n) = .ok (views, 0) ∧
      views.length = n ∧
      ∀ v, 1 ≤ v → v ≤ n → ∃ row, getSoulAgentVersionRecord reg v = some row ∧
        views[v - 1]? = some (recoveryVersion cfg agentIDHex v row) := by
  obtain ⟨views, hviews⟩ : ∃ views,
      loadVersions std cfg agentIDHex reg (List.range' 1 n) = .ok (views, 0) := by
    refine loadVersions_all fun v hv => ?_
    rw [List.mem_range'_1] at hv
    obtain ⟨row, -, hload⟩ := loadVersion_kept deployed (h.versions v hv.1 (by omega))
    exact ⟨_, hload⟩
  obtain ⟨hlength, hall⟩ := loadVersions_ok hviews
  rw [List.length_range', Nat.add_zero] at hlength
  refine ⟨views, hviews, hlength, fun v hlow hhigh => ?_⟩
  obtain ⟨row, hrow, hload⟩ := loadVersion_kept deployed (h.versions v hlow hhigh)
  obtain ⟨view, hview, hok⟩ := views_at (hall rfl) hlow hhigh
  rw [hload] at hok
  cases hok
  exact ⟨row, hrow, hview⟩

theorem Consistent.digestBefore_first (hc : Consistent std agentIDHex reg n) :
    digestBefore reg 1 = "" := by
  have hnone : getSoulAgentVersionRecord reg 0 = none := by
    rw [← Option.not_isSome_iff_eq_none, hc.recorded]
    omega
  rw [digestBefore]
  change ((getSoulAgentVersionRecord reg 0).map _).getD "" = ""
  rw [hnone]
  rfl

theorem Chained.previous (h : Chained std cfg agentIDHex reg n) {v : Nat} {row : SoulAgentVersion}
    (hlow : 1 ≤ v) (hhigh : v ≤ n) (hrow : getSoulAgentVersionRecord reg v = some row) :
    row.PreviousRegistrationSHA256 = digestBefore reg v := by
  obtain ⟨kept, _, hkept, -, -, -, -, hprevious, -⟩ := h.versions v hlow hhigh
  obtain rfl : row = kept := Option.some.inj (hrow.symm.trans hkept)
  exact hprevious

/-- Every version points to the one before. -/
theorem Chained.chain (hc : Consistent std agentIDHex reg n) (h : Chained std cfg agentIDHex reg n)
    {views : List SoulRecoveryVersion} (hlength : views.length = n)
    (hat : ∀ v, 1 ≤ v → v ≤ n → ∃ row, getSoulAgentVersionRecord reg v = some row ∧
      views[v - 1]? = some (recoveryVersion cfg agentIDHex v row)) :
    validateSoulRecoveryChain 1 none views = .ok () := by
  refine chain_of fun k view hview => ?_
  obtain ⟨hk, -⟩ := List.getElem?_eq_some_iff.1 hview
  obtain ⟨row, hrow, hplace⟩ := hat (k + 1) (by omega) (by omega)
  obtain rfl : view = _ := Option.some.inj (hview.symm.trans hplace)
  have hprevious := h.previous (by omega) (by omega) hrow
  refine ⟨?_, rfl, fun hzero => ?_, fun j hj => ?_⟩
  · change ((k + 1 : Nat) : Int) = 1 + k
    omega
  · subst hzero
    change TrimSpace (ToLower (TrimSpace row.PreviousRegistrationSHA256)) == ""
    rw [hprevious, hc.digestBefore_first]
    decide
  · subst hj
    obtain ⟨before, hbefore, hbeforeView⟩ := hat (j + 1) (by omega) (by omega)
    refine ⟨_, hbeforeView, ?_⟩
    have hdigest : row.PreviousRegistrationSHA256 = before.RegistrationSHA256 := by
      have hindex : ((j + 1 + 1 : Nat) : Int) - 1 = ((j + 1 : Nat) : Int) := by omega
      rw [hprevious, digestBefore, hindex, hbefore]
      rfl
    change EqualFold (ToLower (TrimSpace row.PreviousRegistrationSHA256))
      (ToLower (TrimSpace before.RegistrationSHA256)) = true
    rw [hdigest]
    exact EqualFold_self _

/-- **The recovery of a chain** that publishes have left. -/
theorem Chained.recovers (deployed : Deployed std cfg agentIDHex) (hc : Consistent std agentIDHex reg n)
    (h : Chained std cfg agentIDHex reg n) (hpos : 1 ≤ n) (hmax : (n : Int) ≤ soulRecoveryMaxVersions) :
    ∃ state, loadSoulRecoveryArtifacts std cfg agentIDHex reg = .ok state ∧
      classifySoulRecoveryArtifacts reg.identity.SelfDescriptionVersion state
        = .ok soulRecoveryClassificationPublished ∧
      RecoversAll cfg agentIDHex reg n state := by
  obtain ⟨views, hviews, hlength, hat⟩ := h.views deployed
  have hchain := h.chain hc hlength hat
  obtain ⟨body, hbody, hsize⟩ := h.current hpos
  obtain ⟨last, hlast, hlastView⟩ := hat n hpos le_rfl
  have hdigest : regSHA256Hex std body = last.RegistrationSHA256 := by
    have hcurrent := hc.current
    rw [hbody, hlast] at hcurrent
    exact Option.some.inj hcurrent
  refine ⟨⟨views, true, regSHA256Hex std body⟩, ?_, ?_, hlength, fun v hlow hhigh => ?_⟩
  · have hclaimed : ¬ soulRecoveryMaxVersions < (n : Int) := by omega
    simp only [loadSoulRecoveryArtifacts, deployed.agent.normal, hc.described, if_neg deployed.bucket.1,
      if_neg hclaimed, Int.toNat_natCast, hviews, getObject_of_some hbody hsize, bind, Except.bind]
    rfl
  · have hsame : (views.length : Int) = n := by omega
    simp only [classifySoulRecoveryArtifacts, hc.described, if_neg (by omega : ¬ (n : Int) ≤ 0),
      hsame, ne_eq, not_true_eq_false, Bool.true_eq_false, and_false, or_self, if_false, hchain, bind,
      Except.bind]
    rw [List.getLast?_eq_getElem?, hlength, hlastView, Option.any_some, hdigest]
    change (if EqualFold last.RegistrationSHA256 (ToLower (TrimSpace last.RegistrationSHA256)) = false
      then _ else _) = _
    rw [hc.normal last (getVersion_mem hlast).1, EqualFold_self]
    rfl
  · obtain ⟨row, hrow, hview⟩ := hat v hlow hhigh
    obtain ⟨kept, _, hkept, -, -, huri, -⟩ := h.versions v hlow hhigh
    obtain rfl : row = kept := Option.some.inj (hrow.symm.trans hkept)
    exact ⟨row, hrow, hview, huri, (hc.normal row (getVersion_mem hrow).1).symm⟩

/-- **Recovery after a run.** -/
theorem Fresh.recovers {events : List Event} (fresh : Fresh reg) (deployed : Deployed std cfg agentIDHex)
    (typed : ∀ e ∈ events, e.Typed) (fits : ∀ e ∈ events, e.Fits)
    (hpos : 1 ≤ (run std cfg agentIDHex reg events).identity.SelfDescriptionVersion)
    (hmax : (run std cfg agentIDHex reg events).identity.SelfDescriptionVersion
      ≤ soulRecoveryMaxVersions) :
    ∃ state, loadSoulRecoveryArtifacts std cfg agentIDHex (run std cfg agentIDHex reg events)
        = .ok state ∧
      classifySoulRecoveryArtifacts
          (run std cfg agentIDHex reg events).identity.SelfDescriptionVersion state
        = .ok soulRecoveryClassificationPublished ∧
      RecoversAll cfg agentIDHex (run std cfg agentIDHex reg events)
        (run std cfg agentIDHex reg events).identity.SelfDescriptionVersion.toNat state := by
  obtain ⟨n, hc, h⟩ := (chained_zero std cfg agentIDHex reg).run deployed
    (fresh.consistent std agentIDHex) typed fits
  have hn := hc.described
  rw [hn] at hpos hmax
  have htoNat : (run std cfg agentIDHex reg events).identity.SelfDescriptionVersion.toNat = n := by
    rw [hn, Int.toNat_natCast]
  rw [htoNat]
  exact h.recovers deployed hc (by omega) hmax

end Runs

/-- What publishes and appends have written is recovered, every version of it, if there are no more than
100 versions and no document is larger than what the recovery reads. And whatever is stored, it is called
published only if every claimed version is bound to its object and to the version before, and the current
object is the last of them. -/
theorem recovery_artifacts :
    (∀ (std : Std) (cfg : Config) (agentIDHex : String) (reg : Registry) (events : List Event),
      Deployed std cfg agentIDHex → Fresh reg → (∀ e ∈ events, e.Typed) → (∀ e ∈ events, e.Fits) →
      1 ≤ (run std cfg agentIDHex reg events).identity.SelfDescriptionVersion →
      (run std cfg agentIDHex reg events).identity.SelfDescriptionVersion ≤ soulRecoveryMaxVersions →
      ∃ state, loadSoulRecoveryArtifacts std cfg agentIDHex (run std cfg agentIDHex reg events)
          = .ok state ∧
        classifySoulRecoveryArtifacts
            (run std cfg agentIDHex reg events).identity.SelfDescriptionVersion state
          = .ok soulRecoveryClassificationPublished ∧
        RecoversAll cfg agentIDHex (run std cfg agentIDHex reg events)
          (run std cfg agentIDHex reg events).identity.SelfDescriptionVersion.toNat state) ∧
    ∀ (std : Std) (cfg : Config) (agentIDHex : String) (reg : Registry)
      (state : SoulRecoveryArtifactState),
      loadSoulRecoveryArtifacts std cfg agentIDHex reg = .ok state →
      classifySoulRecoveryArtifacts reg.identity.SelfDescriptionVersion state
        = .ok soulRecoveryClassificationPublished →
      VerifiedPublication std cfg (ToLower (TrimSpace agentIDHex)) reg
        reg.identity.SelfDescriptionVersion.toNat := by
  exact ⟨fun _ _ _ _ _ deployed fresh typed fits hpos hmax =>
    fresh.recovers deployed typed fits hpos hmax, fun _ _ _ _ _ => recovery_sound⟩

/-! ## Documents and rows that the two sides see differently -/

/-- A first document with some text. -/
def sampleFirst (regBytes : Bytes) : UpdateRequest :=
  ⟨"2", ⟨⟨1, .utc⟩, none, regBytes, "first", "0x00", none, .ok (), none⟩, .ok (), .ok ()⟩

def sampleAfter (regBytes : Bytes) : Registry :=
  run sampleStd sampleConfig sampleAgent sampleRegistry [.update (sampleFirst regBytes)]

theorem sampleFirst_published (regBytes : Bytes) :
    (completeSoulAgentRegistrationUpdate sampleStd sampleConfig sampleAgent (sampleFirst regBytes)
      sampleRegistry).2 = .ok 1 ∧ Agrees sampleStd sampleAgent (sampleAfter regBytes) 1 := by
  have hconsistent := sample_fresh.consistent sampleStd sampleAgent
  have hnext : NextDocument sampleConfig sampleAgent sampleRegistry (sampleFirst regBytes) :=
    ⟨rfl, rfl, nofun, rfl, rfl, rfl⟩
  obtain ⟨after, hpublished, hagrees⟩ :=
    (hconsistent.canPublish sample_deployed (by decide)).published _ hnext
  have hafter : sampleAfter regBytes = after := by
    change (completeSoulAgentRegistrationUpdate sampleStd sampleConfig sampleAgent
      (sampleFirst regBytes) sampleRegistry).1 = after
    rw [hpublished]
  rw [hpublished, hafter]
  exact ⟨rfl, hagrees⟩

theorem sampleFirst_typed (regBytes : Bytes) : (Event.update (sampleFirst regBytes)).Typed :=
  fun hlegacy => absurd (show isLegacyVersion "2" = true from hlegacy) (by decide)

/-- A small first document is recovered. -/
theorem recovery_artifacts_first :
    ∃ state, loadSoulRecoveryArtifacts sampleStd sampleConfig sampleAgent (sampleAfter (bytes "document"))
        = .ok state ∧
      classifySoulRecoveryArtifacts (sampleAfter (bytes "document")).identity.SelfDescriptionVersion state
        = .ok soulRecoveryClassificationPublished ∧
      RecoversAll sampleConfig sampleAgent (sampleAfter (bytes "document"))
        (sampleAfter (bytes "document")).identity.SelfDescriptionVersion.toNat state := by
  have hversion := (sampleFirst_published (bytes "document")).2.described
  refine recovery_artifacts.1 sampleStd sampleConfig sampleAgent sampleRegistry
    [.update (sampleFirst (bytes "document"))] sample_deployed sample_fresh (fun e he => ?_)
    (fun e he => ?_) (le_of_eq hversion.symm) (le_trans (le_of_eq hversion) (by decide))
  · rw [List.mem_singleton.1 he]
    exact sampleFirst_typed _
  · rw [List.mem_singleton.1 he]
    exact ⟨by decide, by decide⟩

/-- A version whose object is too large stops the recovery. -/
theorem loadVersion_tooLarge {std : Std} {cfg : Config} {agentIDHex : String} {reg : Registry} {v : Int}
    {body : Bytes} {view : Option SoulRecoveryVersion}
    (hbody : reg.objects (soulRegistrationVersionedS3Key agentIDHex v) = some body)
    (hsize : soulRecoveryMaxArtifactSize < body.length) :
    loadSoulRecoveryVersionArtifact std cfg agentIDHex reg v ≠ .ok view := by
  intro h
  have hobject : ∀ found, getSoulRecoveryObject reg (soulRegistrationVersionedS3Key agentIDHex v)
      ≠ .ok found := by
    intro found hfound
    rw [getSoulRecoveryObject, GetObject, hbody] at hfound
    dsimp only at hfound
    rw [if_pos hsize] at hfound
    cases hfound
  unfold loadSoulRecoveryVersionArtifact at h
  dsimp only at h
  split at h
  · rw [bind_ok] at h
    obtain ⟨found, hfound, -⟩ := h
    exact hobject found hfound
  · simp only [guard_ok, bind_ok] at h
    obtain ⟨-, -, found, hfound, -⟩ := h
    exact hobject found hfound

theorem sampleAfter_stored (regBytes : Bytes) :
    (sampleAfter regBytes).objects (soulRegistrationVersionedS3Key sampleAgent 1) = some regBytes := by
  have hconsistent := sample_fresh.consistent sampleStd sampleAgent
  have hdescribed := (sampleFirst_published regBytes).2.described
  have hpublish : sampleAfter regBytes = (publishSoulAgentRegistration sampleStd sampleConfig sampleAgent
      { (sampleFirst regBytes).publication with boundary := none } sampleRegistry).1 := by
    have hadmit : admitUpdate sampleStd (sampleFirst regBytes) sampleRegistry = .ok () := by
      rw [admitUpdate, requireActiveSoulAgent, sample_fresh.active, if_neg (by simp)]
      rfl
    have htyped : isTypedVersion (sampleFirst regBytes).version = true :=
      show isTypedVersion "2" = true by decide
    change (completeSoulAgentRegistrationUpdate sampleStd sampleConfig sampleAgent
      (sampleFirst regBytes) sampleRegistry).1 = _
    simp only [completeSoulAgentRegistrationUpdate, hadmit, htyped, if_true]
  rw [hpublish] at hdescribed ⊢
  rcases hconsistent.publish_cases sampleConfig { (sampleFirst regBytes).publication with boundary := none }
    with hsame | ⟨row, _, hrow, -⟩ | ⟨_, next, stored, -, hnext, hstored, heq⟩
  · rw [hsame, hconsistent.described] at hdescribed
    exact absurd hdescribed (by decide)
  · have hrange := (hconsistent.recorded _).1 (by rw [hrow]; rfl)
    omega
  · rw [heq, objects_finalize]
    refine artifacts_written hstored (currentKey_ne _) ?_
    rw [(recordVersion_some hnext).2.2]
    rfl

theorem sampleAfter_recovered :
    ∃ state, loadSoulRecoveryArtifacts sampleStd sampleConfig sampleAgent (sampleAfter (bytes "document"))
        = .ok state ∧
      classifySoulRecoveryArtifacts (sampleAfter (bytes "document")).identity.SelfDescriptionVersion state
        = .ok soulRecoveryClassificationPublished := by
  have hversion := (sampleFirst_published (bytes "document")).2.described
  have typed : ∀ e ∈ [Event.update (sampleFirst (bytes "document"))], e.Typed := by
    intro e he
    rw [List.mem_singleton.1 he]
    exact sampleFirst_typed _
  have fits : ∀ e ∈ [Event.update (sampleFirst (bytes "document"))], e.Fits := by
    intro e he
    rw [List.mem_singleton.1 he]
    exact ⟨by decide, by decide⟩
  obtain ⟨state, hload, hclass, -⟩ := sample_fresh.recovers sample_deployed typed fits
    (le_of_eq hversion.symm) (le_trans (le_of_eq hversion) (by decide))
  exact ⟨state, hload, hclass⟩

/-- A document of more than a mebibyte is published and not recovered, and a row above the claimed
version is not seen. -/
theorem not_recovery_artifacts :
    (∃ regBytes, (completeSoulAgentRegistrationUpdate sampleStd sampleConfig sampleAgent
        (sampleFirst regBytes) sampleRegistry).2 = .ok 1 ∧
      ∀ state, loadSoulRecoveryArtifacts sampleStd sampleConfig sampleAgent (sampleAfter regBytes)
        ≠ .ok state) ∧
    ∃ reg state, loadSoulRecoveryArtifacts sampleStd sampleConfig sampleAgent reg = .ok state ∧
      classifySoulRecoveryArtifacts reg.identity.SelfDescriptionVersion state
        = .ok soulRecoveryClassificationPublished ∧
      (reg.versions.length : Int) ≠ reg.identity.SelfDescriptionVersion := by
  refine ⟨⟨List.replicate (soulRecoveryMaxArtifactSize + 1) 0, (sampleFirst_published _).1,
    fun state hload => ?_⟩, ?_⟩
  · have hversion :=
      (sampleFirst_published (List.replicate (soulRecoveryMaxArtifactSize + 1) 0)).2.described
    have hobject := sampleAfter_stored (List.replicate (soulRecoveryMaxArtifactSize + 1) 0)
    simp only [loadSoulRecoveryArtifacts, guard_ok, bind_ok, hversion,
      sample_deployed.agent.normal] at hload
    obtain ⟨-, -, loaded, hloaded, -⟩ := hload
    have hrange : List.range' 1 (Int.toNat 1) = [1] := rfl
    simp only [hrange, loadVersions, bind_ok] at hloaded
    obtain ⟨view, hview, -⟩ := hloaded
    exact loadVersion_tooLarge hobject (by rw [List.length_replicate]; exact Nat.lt_succ_self _) hview
  · obtain ⟨state, hload, hclass⟩ := sampleAfter_recovered
    obtain ⟨hhighest, hdescribed, -⟩ := (sampleFirst_published (bytes "document")).2
    generalize sampleAfter (bytes "document") = reg at hload hclass hhighest hdescribed
    have hrows : reg.versions ≠ [] := by
      intro hnil
      rw [highestVersion, hnil] at hhighest
      exact absurd hhighest (by decide)
    have hlength := List.length_pos_of_ne_nil hrows
    obtain ⟨row, hrow⟩ : ∃ row : SoulAgentVersion, row.VersionNumber = 2 :=
      ⟨⟨"", 2, "", "", "", "", "", ⟨1, .utc⟩⟩, rfl⟩
    refine ⟨{ reg with versions := reg.versions ++ [row] }, state, ?_, hclass, ?_⟩
    · have hsame : loadSoulRecoveryArtifacts sampleStd sampleConfig sampleAgent
            { reg with versions := reg.versions ++ [row] }
          = loadSoulRecoveryArtifacts sampleStd sampleConfig sampleAgent reg := by
        refine loadSoulRecoveryArtifacts_congr rfl rfl fun v hlow hhigh => ?_
        have hone : v = 1 := by
          rw [hdescribed] at hhigh
          exact le_antisymm hhigh hlow
        rw [getVersion_append rfl, hrow, hone, if_neg (by decide), Option.or_none]
      rw [hsame, hload]
    · change ((reg.versions ++ [row]).length : Int) ≠ reg.identity.SelfDescriptionVersion
      rw [hdescribed, List.length_append, List.length_singleton]
      omega

end LesserHost.SoulRegistration
