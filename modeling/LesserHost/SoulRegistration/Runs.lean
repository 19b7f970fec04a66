import LesserHost.SoulRegistration.Versions

set_option autoImplicit false

/-! # Runs of publishes

Registration updates and appends of boundaries, one after another, from an agent that has published
nothing. As long as no legacy document is accepted there is always a next document. After the first
legacy document there is none: the row is there, and the counter of the identity does not know. -/

namespace LesserHost.SoulRegistration

open LesserHost.Go
open LesserHost.ControlPlane (AppTheoryError newAppTheoryError)
open LesserHost.HostedGenesis (bind_ok seq_ok pure_ok guard_ok)
open LesserHost.SoulLifecycle

inductive Event where
  | update (r : UpdateRequest)
  | appendBoundary (b : BoundaryRequest)

section Runs

variable (std : Std) (cfg : Config) (agentIDHex : String)

def Event.handle (reg : Registry) : Event → Registry × Except AppTheoryError Int
  | .update r => completeSoulAgentRegistrationUpdate std cfg agentIDHex r reg
  | .appendBoundary b => handleSoulAppendBoundary std cfg agentIDHex b reg

def run (reg : Registry) (events : List Event) : Registry :=
  events.foldl (fun reg e => (e.handle std cfg agentIDHex reg).1) reg

end Runs

/-- An active agent that has published nothing. -/
structure Fresh (reg : Registry) : Prop where
  active : effectiveStatus reg.identity = SoulAgentStatusActive
  described : reg.identity.SelfDescriptionVersion = 0
  versions : reg.versions = []
  objects : ∀ key, reg.objects key = none

/-- No legacy document that passes its checks. -/
def Event.Typed : Event → Prop
  | .update r => isLegacyVersion r.version = true → r.verified = .ok () → r.bound = .ok () →
      r.publication.claimLevels ≠ .ok ()
  | .appendBoundary _ => True

/-- What a request publishes, once it is admitted. -/
def Event.Carries (cfg : Config) (agentIDHex : String) : Event → Publication → Prop
  | .update r, p => p = { r.publication with boundary := none }
  | .appendBoundary b, p => ∃ base regBytes, b.document base = .ok regBytes ∧
      p = b.publication cfg agentIDHex regBytes

section Steps

variable {std : Std} {cfg : Config} {agentIDHex : String} {reg : Registry} {n : Nat}

theorem Fresh.consistent (std : Std) (agentIDHex : String) (fresh : Fresh reg) :
    Consistent std agentIDHex reg 0 where
  active := fresh.active
  described := fresh.described
  recorded v := by
    rw [getVersion_isSome, fresh.versions]
    constructor
    · rintro ⟨row, hrow, -⟩
      cases hrow
    · intro hrange
      omega
  normal row hrow := by
    rw [fresh.versions] at hrow
    cases hrow
  unpublished v _ := fresh.objects _
  current := by
    rw [fresh.objects, getSoulAgentVersionRecord, fresh.versions]
    rfl

theorem admitUpdate_ok {r : UpdateRequest} (h : admitUpdate std r reg = .ok ()) :
    r.verified = .ok () ∧ r.bound = .ok () ∧
      (isLegacyVersion r.version = true ∨ isTypedVersion r.version = true) := by
  simp only [admitUpdate, seq_ok] at h
  obtain ⟨-, hverified, hschema, hbound⟩ := h
  refine ⟨hverified, hbound, ?_⟩
  unfold validateSoulUpdateRegistrationSchema at hschema
  split_ifs at hschema with hlegacy htyped
  · exact Or.inl hlegacy
  · exact Or.inr htyped

/-- A legacy update that its claim levels do not let pass changes nothing. -/
theorem publishLegacy_refused {p : Publication} (h : p.claimLevels ≠ .ok ()) :
    (publishLegacySoulRegistration std cfg agentIDHex p reg).1 = reg := by
  unfold publishLegacySoulRegistration
  split
  · rfl
  · split
    · rfl
    · rename_i hclaims
      exact absurd hclaims h

theorem admitBoundary_ok {b : BoundaryRequest} {regBytes : Bytes}
    (h : admitBoundary agentIDHex b reg = .ok regBytes) : ∃ base, b.document base = .ok regBytes := by
  simp only [admitBoundary, seq_ok, guard_ok] at h
  obtain ⟨-, -, -, -, h⟩ := h
  split at h
  · cases h
  · cases h
  · exact ⟨_, h⟩

/-- A request changes nothing, or it is one publish of what it carries. -/
theorem handle_cases (std : Std) (cfg : Config) (agentIDHex : String) (reg : Registry) {e : Event}
    (typed : e.Typed) :
    (e.handle std cfg agentIDHex reg).1 = reg ∨
    ∃ p, e.Carries cfg agentIDHex p ∧
      (e.handle std cfg agentIDHex reg).1 = (publishSoulAgentRegistration std cfg agentIDHex p reg).1 := by
  cases e with
  | update r =>
      simp only [Event.handle, completeSoulAgentRegistrationUpdate]
      split
      · exact Or.inl rfl
      · rename_i hadmit
        obtain ⟨hverified, hbound, hversion⟩ := admitUpdate_ok hadmit
        split_ifs with htyped
        · exact Or.inr ⟨_, rfl, rfl⟩
        · exact Or.inl (publishLegacy_refused (typed (hversion.resolve_right htyped) hverified hbound))
  | appendBoundary b =>
      simp only [Event.handle, handleSoulAppendBoundary]
      split_ifs
      · exact Or.inl rfl
      · split
        · exact Or.inl rfl
        · rename_i hadmit
          obtain ⟨base, hbase⟩ := admitBoundary_ok hadmit
          exact Or.inr ⟨_, ⟨base, _, hbase, rfl⟩, rfl⟩

/-- **One request** leaves a state in order at its version, or brings it to the next. -/
theorem Consistent.step (cfg : Config) (h : Consistent std agentIDHex reg n) {e : Event}
    (typed : e.Typed) :
    ∃ m ≤ n + 1, Consistent std agentIDHex (e.handle std cfg agentIDHex reg).1 m := by
  rcases handle_cases std cfg agentIDHex reg typed with hsame | ⟨p, -, hpublish⟩
  · rw [hsame]
    exact ⟨n, Nat.le_succ n, h⟩
  · rw [hpublish]
    exact h.publish p

theorem Consistent.run (cfg : Config) (h : Consistent std agentIDHex reg n) {events : List Event}
    (typed : ∀ e ∈ events, e.Typed) :
    ∃ m ≤ n + events.length, Consistent std agentIDHex (run std cfg agentIDHex reg events) m := by
  induction events generalizing reg n with
  | nil => exact ⟨n, Nat.le_add_right n 0, h⟩
  | cons e events ih =>
      obtain ⟨k, hk, hstep⟩ := h.step cfg (typed e List.mem_cons_self)
      obtain ⟨m, hm, hrun⟩ := ih hstep fun other hother => typed other (List.mem_cons_of_mem e hother)
      refine ⟨m, ?_, hrun⟩
      rw [List.length_cons]
      omega

end Steps

section Stuck

variable {std : Std} {cfg : Config} {agentIDHex : String} {reg : Registry} {row : SoulAgentVersion}

/-- The version that a legacy update records on its own. -/
structure LegacyOnly (reg : Registry) (row : SoulAgentVersion) : Prop where
  described : reg.identity.SelfDescriptionVersion = 0
  versions : reg.versions = [row]
  number : row.VersionNumber = 1

theorem LegacyOnly.highest (h : LegacyOnly reg row) : highestVersion reg = 1 := by
  rw [highestVersion, latestVersion, h.versions, List.foldl_cons, List.foldl_nil, laterVersion, h.number]
  rfl

end Stuck

/-! ## An agent whose first document is a legacy one -/

/-- A URI is cut after its host. -/
def sampleParse (uri : String) : Option Outbound.URL :=
  let rest := (TrimPrefix uri "s3://").toList
  some ⟨"s3", none, String.ofList (rest.takeWhile (· != '/')), String.ofList (rest.dropWhile (· != '/')),
    "", ""⟩

theorem sampleParse_objects : ParsesObjects sampleParse := by
  intro host key _ hhost _
  have hrest : (TrimPrefix ("s3://" ++ host ++ "/" ++ key) "s3://").toList
      = host.toList ++ '/' :: key.toList := by
    rw [String.append_assoc, String.append_assoc, TrimPrefix_append, String.toList_append,
      String.toList_append]
    rfl
  have hslash : ∀ c ∈ host.toList, (c != '/') = true := by
    intro c hc
    rw [bne_iff_ne]
    rintro rfl
    exact absurd (hhost _ hc) (by decide)
  have hpath : String.ofList ('/' :: key.toList) = "/" ++ key := by
    rw [← String.toList_inj, String.toList_ofList, String.toList_append]
    rfl
  simp only [sampleParse, hrest, List.takeWhile_append_of_pos hslash,
    List.dropWhile_append_of_pos hslash, List.takeWhile_cons, List.dropWhile_cons, bne_self_eq_false,
    Bool.false_eq_true, if_false, List.append_nil, String.ofList_toList, hpath]

def sampleStd : Std := ⟨sampleParse, sampleParse, fun _ => Vector.replicate 32 0⟩

def sampleConfig : Config := ⟨true, "bucket", true⟩

def sampleAgent : String := String.ofList ('0' :: 'x' :: List.replicate 64 'a')

theorem sample_deployed : Deployed sampleStd sampleConfig sampleAgent where
  enabled := rfl
  bucket := by
    have hall : (TrimSpace "bucket").toList.all isHostChar = true := by decide
    exact ⟨by decide, List.all_eq_true.1 hall⟩
  agent := ⟨List.replicate 64 'a', fun c hc => by rw [List.eq_of_mem_replicate hc]; decide, rfl⟩
  parse := sampleParse_objects
  parseRequest := sampleParse_objects

def sampleRegistry : Registry where
  identity :=
    { Domain := "example.com", Wallet := "", SelfDescriptionVersion := 0, LifecycleStatus := "active"
      LifecycleReason := "", SuccessorAgentID := "", PredecessorAgentID := "", Status := "active" }
  versions := []
  boundaries := []
  objects _ := none

theorem sample_fresh : Fresh sampleRegistry := ⟨by decide, rfl, rfl, fun _ => rfl⟩

/-- A first document of some version. -/
def sampleUpdate (version : String) : Event :=
  .update ⟨version, ⟨⟨1, .utc⟩, none, bytes "document", "first", "0x00", none, .ok (), none⟩, .ok (),
    .ok ()⟩

end LesserHost.SoulRegistration
