import LesserHost.SoulLifecycle.Requests

set_option autoImplicit false

/-! # Statuses that stay

An archived or succeeded agent keeps its status, and an agent that an operator has suspended keeps it
until an operator reinstates it. Every status is written under the condition that the agent exists, so
this needs that no status has been set since the request read it that the request does not read
(`InTime`), and that no operator suspends an agent that has ended. -/

namespace LesserHost.SoulLifecycle

open LesserHost.Go
open LesserHost.ControlPlane (AppTheoryError StoreError newAppTheoryError)

/-! ## What is written to a status -/

/-- The agent is archived or has a successor. -/
def Ended (status : String) : Prop :=
  status = SoulAgentStatusArchived ∨ status = SoulAgentStatusSucceeded

/-- A status that stays. -/
def Held (status : String) : Prop := status = SoulAgentStatusSuspended ∨ Ended status

instance (status : String) : Decidable (Ended status) := by unfold Ended; infer_instance
instance (status : String) : Decidable (Held status) := by unfold Held; infer_instance

def Table.status (t : Table) (agentID : String) : Option String :=
  (t.identities agentID).map (·.Status)

/-- The status an item gives to an agent. -/
def Write.statusOf (agentID : String) : Write → Option String
  | .updateStatus a _ identity => if a = agentID then some identity.Status else none
  | .updateSuccessor a _ identity => if a = agentID then some identity.Status else none
  | .updatePublished a _ identity _ activation =>
      if a = agentID ∧ activation = true then some identity.Status else none
  | _ => none

/-- The status its request has read. -/
def Write.readStatus : Write → String
  | .updateStatus _ read _ => read.Status
  | .updateSuccessor _ read _ => read.Status
  | .updatePublished _ read _ _ _ => read.Status
  | _ => ""

theorem status_onRow (w : Write) (agentID : String) (row : SoulAgentIdentity) :
    (w.onRow agentID row).Status = (w.statusOf agentID).getD row.Status := by
  cases w with
  | updateStatus a read identity =>
      by_cases h : a = agentID <;> simp [Write.onRow, Write.agent, Write.fields, Write.statusOf, h]
  | updateSuccessor a read identity =>
      by_cases h : a = agentID <;> simp [Write.onRow, Write.agent, Write.fields, Write.statusOf, h]
  | updatePredecessor a read identity =>
      by_cases h : a = agentID <;> simp [Write.onRow, Write.agent, Write.fields, Write.statusOf, h]
  | updatePublished a read identity version activation =>
      by_cases h : a = agentID <;> cases activation <;>
        simp [Write.onRow, Write.agent, Write.fields, Write.statusOf, h]
  | _ => rfl

theorem status_apply (w : Write) (t : Table) (agentID : String) :
    (w.apply t).status agentID
      = (t.status agentID).map fun status => (w.statusOf agentID).getD status := by
  rw [Table.status, apply_row, Table.status, Option.map_map, Option.map_map]
  exact congrArg (fun f => Option.map f _) (funext fun row => status_onRow w agentID row)

/-- The last status that is written stays. -/
theorem status_foldl (ws : List Write) (t : Table) (agentID : String) :
    (ws.foldl Write.apply t).status agentID
      = (t.status agentID).map fun status =>
          ((ws.filterMap (Write.statusOf agentID)).getLast?).getD status := by
  induction ws generalizing t with
  | nil => simp
  | cons w ws ih =>
      rw [List.foldl_cons, ih, status_apply, Option.map_map]
      refine congrArg (fun f => Option.map f (t.status agentID)) (funext fun status => ?_)
      cases h : w.statusOf agentID with
      | none => simp [h]
      | some new => simp [h, List.getLast?_cons]

theorem status_handle (o : Op) (c : Choice) (t : Table) (agentID : String) :
    (t.handle o c).2.status agentID
      = (t.status agentID).map fun status =>
          (((carried o c t).filterMap (Write.statusOf agentID)).getLast?).getD status := by
  rw [handle_rows, ← status_foldl]
  rfl

/-! ## What a request may write -/

/-- The status a request writes, and what it has read. -/
def Request.MayWrite : Request → (read status : String) → Prop
  | .archiveAgent _ _, _, status => status = SoulAgentStatusArchived
  | .designateSuccessor _ _, _, status => status = SoulAgentStatusSucceeded
  | .suspend _ _, _, status => status = SoulAgentStatusSuspended
  | .reinstate _, read, status => status = SoulAgentStatusActive ∧ ¬ Ended read
  | .selfSuspend _ _, read, status => status = SoulAgentStatusSelfSuspended ∧ ¬ Held read
  | .selfReinstate _, read, status => status = SoulAgentStatusActive ∧ ¬ Held read
  | .publish _, read, status => status = SoulAgentStatusActive ∧ ¬ Held read
  | .convergePublished _, read, status => status = SoulAgentStatusActive ∧ ¬ Held read
  | _, _, _ => False

theorem held_normal {status : String} (h : Held status) : ToLower (TrimSpace status) = status := by
  rcases h with rfl | rfl | rfl <;> decide

/-- What `readRepair` makes of the two statuses. -/
theorem readRepair_cases (item : SoulAgentIdentity) :
    readRepair item = { item with LifecycleStatus := ToLower (TrimSpace item.Status) } ∨
      readRepair item = { item with Status := ToLower (TrimSpace item.LifecycleStatus) } ∨
      readRepair item = item ∧ (ToLower (TrimSpace item.Status) = "" ∨
        ToLower (TrimSpace item.LifecycleStatus) = ToLower (TrimSpace item.Status)) := by
  unfold readRepair
  generalize ToLower (TrimSpace item.Status) = status
  generalize ToLower (TrimSpace item.LifecycleStatus) = lifecycle
  dsimp only
  by_cases h₁ : lifecycle = "" ∧ status ≠ ""
  · exact Or.inl (if_pos h₁)
  rw [if_neg h₁]
  by_cases h₂ : status = "" ∧ lifecycle ≠ ""
  · exact Or.inr (Or.inl (if_pos h₂))
  rw [if_neg h₂]
  by_cases h₃ : status ≠ "" ∧ lifecycle ≠ "" ∧ status ≠ lifecycle
  · exact Or.inl (if_pos h₃)
  rw [if_neg h₃]
  refine Or.inr (Or.inr ⟨rfl, ?_⟩)
  by_cases hstatus : status = ""
  · exact Or.inl hstatus
  · refine Or.inr (by_contra fun hother => h₃ ⟨hstatus, ?_, fun heq => hother heq.symm⟩)
    exact fun hempty => h₁ ⟨hempty, hstatus⟩

/-- Of an identity that is read, a status that stays is the lifecycle status as well. -/
theorem readRepair_held {identity : SoulAgentIdentity} (hread : Read identity)
    (h : Held identity.Status) :
    ToLower (TrimSpace identity.LifecycleStatus) = identity.Status := by
  have hnormal := held_normal h
  obtain ⟨item, hitem⟩ := hread
  have hcases := readRepair_cases item
  rw [← hitem] at hcases
  rcases hcases with heq | heq | ⟨heq, hblank | hsame⟩
  · rw [heq] at hnormal ⊢
    show ToLower (TrimSpace (ToLower (TrimSpace item.Status))) = item.Status
    rw [TrimSpace_ToLower_TrimSpace, ToLower_idem]
    exact hnormal
  · rw [heq]
  · rw [heq] at h hnormal
    rw [hblank] at hnormal
    rw [← hnormal] at h
    exact absurd h (by decide)
  · rw [heq] at hnormal ⊢
    rw [hsame, hnormal]

theorem not_held_of_effective {identity : SoulAgentIdentity} (hread : Read identity)
    (h : effectiveStatus identity = SoulAgentStatusActive) : ¬ Held identity.Status := by
  intro hheld
  have hlifecycle := readRepair_held hread hheld
  unfold effectiveStatus at h
  split at h
  · next hempty =>
      rw [hempty] at hlifecycle
      rw [← hlifecycle] at hheld
      revert hheld
      decide
  · rw [h] at hlifecycle
    rw [← hlifecycle] at hheld
    revert hheld
    decide

theorem not_held_of_activation {identity : SoulAgentIdentity} (hread : Read identity) {persist : Bool}
    (h : shouldPersistSoulIdentityActivationOnRegistrationPublish identity persist = true) :
    ¬ Held identity.Status := by
  intro hheld
  have hlifecycle := readRepair_held hread hheld
  unfold shouldPersistSoulIdentityActivationOnRegistrationPublish at h
  dsimp only at h
  rw [hlifecycle, held_normal hheld] at h
  rcases hheld with hstatus | hstatus | hstatus <;> rw [hstatus] at h <;> cases persist <;> revert h <;> decide

theorem not_ended_of_trimmed {status other : String} (h : TrimSpace status = other)
    (hother : ¬ Ended other ∧ ToLower other = other) : ¬ Ended status := by
  intro hended
  have hnormal := held_normal (Or.inr hended)
  rw [h, hother.2] at hnormal
  rw [← hnormal] at hended
  exact hother.1 hended

theorem not_held_of_trimmed {status other : String} (h : TrimSpace status = other)
    (hother : ¬ Held other ∧ ToLower other = other) : ¬ Held status := by
  intro hheld
  have hnormal := held_normal hheld
  rw [h, hother.2] at hnormal
  rw [← hnormal] at hheld
  exact hother.1 hheld

/-- The statuses in the transactions of a request. -/
theorem Writes.mayWrite {r : Request} {ws : List Write} (h : Writes r ws) {agentID status : String}
    {w : Write} (hw : w ∈ ws) (hstatus : w.statusOf agentID = some status) :
    r.MayWrite w.readStatus status := by
  cases h with
  | archiveAgentBegin challenge =>
      obtain rfl := List.mem_singleton.1 hw
      cases hstatus
  | archiveAgent hread challenge reason sig parsedTS now =>
      simp only [archiveWrites, List.mem_cons, List.not_mem_nil, or_false] at hw
      rcases hw with rfl | rfl | rfl
      · cases hstatus
      · simp only [Write.statusOf, Option.ite_none_right_eq_some, Option.some.injEq] at hstatus
        rw [← hstatus.2]
        show ToLower (TrimSpace SoulAgentStatusArchived) = SoulAgentStatusArchived
        decide
      · cases hstatus
  | designateSuccessorBegin challenge =>
      obtain rfl := List.mem_singleton.1 hw
      cases hstatus
  | designateSuccessor _ _ _ _ _ challenge reason predSig succSig parsedTS now =>
      simp only [successionWrites, List.mem_cons, List.not_mem_nil, or_false] at hw
      rcases hw with rfl | rfl | rfl | rfl | rfl
      · cases hstatus
      · simp only [Write.statusOf, Option.ite_none_right_eq_some, Option.some.injEq] at hstatus
        rw [← hstatus.2]
        show ToLower (TrimSpace SoulAgentStatusSucceeded) = SoulAgentStatusSucceeded
        decide
      · cases hstatus
      · cases hstatus
      · cases hstatus
  | suspend reason' =>
      obtain rfl := List.mem_singleton.1 hw
      simp only [Write.statusOf, Option.ite_none_right_eq_some, Option.some.injEq] at hstatus
      rw [← hstatus.2]
      show ToLower (TrimSpace SoulAgentStatusSuspended) = SoulAgentStatusSuspended
      decide
  | reinstate hread =>
      obtain rfl := List.mem_singleton.1 hw
      simp only [Write.statusOf, Option.ite_none_right_eq_some, Option.some.injEq] at hstatus
      rw [← hstatus.2]
      refine ⟨?_, fun hended => ?_⟩
      · show ToLower (TrimSpace SoulAgentStatusActive) = SoulAgentStatusActive
        decide
      · exact not_ended_of_trimmed hread (by decide) hended
  | selfSuspend hread hactive reason' =>
      obtain rfl := List.mem_singleton.1 hw
      simp only [Write.statusOf, Option.ite_none_right_eq_some, Option.some.injEq] at hstatus
      rw [← hstatus.2]
      refine ⟨?_, not_held_of_effective hread hactive⟩
      show ToLower (TrimSpace SoulAgentStatusSelfSuspended) = SoulAgentStatusSelfSuspended
      decide
  | selfReinstate hread =>
      obtain rfl := List.mem_singleton.1 hw
      simp only [Write.statusOf, Option.ite_none_right_eq_some, Option.some.injEq] at hstatus
      rw [← hstatus.2]
      refine ⟨?_, not_held_of_trimmed hread (by decide)⟩
      show ToLower (TrimSpace SoulAgentStatusActive) = SoulAgentStatusActive
      decide
  | publish hread version hactive =>
      obtain rfl := List.mem_singleton.1 hw
      simp only [Write.statusOf, Option.ite_none_right_eq_some, Option.some.injEq] at hstatus
      obtain ⟨⟨-, hactivation⟩, hstatus⟩ := hstatus
      rw [← hstatus]
      exact ⟨hactive hactivation, not_held_of_activation hread hactivation⟩
  | convergePublished hread hactive =>
      obtain rfl := List.mem_singleton.1 hw
      simp only [Write.statusOf, Option.ite_none_right_eq_some, Option.some.injEq] at hstatus
      obtain ⟨⟨-, hactivation⟩, hstatus⟩ := hstatus
      rw [← hstatus]
      exact ⟨hactive hactivation, not_held_of_activation hread hactivation⟩
  | appendContinuity entry =>
      obtain rfl := List.mem_singleton.1 hw
      cases hstatus

/-! ## What has happened to an agent -/

variable {ι : Type}

/-- The operation gives the agent a status. -/
def writesStatus (agentID : String) (e : Event ι Op Table Choice) : Bool :=
  (carried e.op e.choice e.before).any fun w => (w.statusOf agentID).isSome

/-- An archive or a succession of the agent commits. -/
def ends (requests : ι → Request) (agentID : String) (e : Event ι Op Table Choice) : Bool :=
  writesStatus agentID e &&
    match requests e.who with
    | .archiveAgent _ _ => true
    | .designateSuccessor _ _ => true
    | _ => false

/-- Whether an operator suspends the agent here, or reinstates it. -/
def operatorAct (requests : ι → Request) (agentID : String) (e : Event ι Op Table Choice) :
    Option Bool :=
  if writesStatus agentID e then
    match requests e.who with
    | .suspend _ _ => some true
    | .reinstate _ => some false
    | _ => none
  else none

/-- The agent had ended before, or an archive or a succession of it has committed. -/
def HasEnded (requests : ι → Request) (agentID : String) (t : Table)
    (log : List (Event ι Op Table Choice)) : Prop :=
  (t.status agentID).any (fun status => decide (Ended status)) = true ∨
    log.any (ends requests agentID) = true

/-- The last thing an operator did to the agent was to suspend it. -/
def heldByOperator (requests : ι → Request) (agentID : String) (t : Table)
    (log : List (Event ι Op Table Choice)) : Bool :=
  ((log.filterMap (operatorAct requests agentID)).getLast?).getD
    (t.status agentID == some SoulAgentStatusSuspended)

/-- The lifecycle of the agent goes one way. -/
structure OneWay (requests : ι → Request) (agentID : String) (t : Table)
    (s : Traced ι Op Table Choice) : Prop where
  /-- an agent that has ended is archived or succeeded: not active, not suspended -/
  ended : HasEnded requests agentID t s.log →
    ∃ status, s.state.status agentID = some status ∧ Ended status
  /-- an agent that an operator has suspended is suspended until an operator reinstates it, or it
      has ended -/
  suspended : heldByOperator requests agentID t s.log = true →
    ∃ status, s.state.status agentID = some status ∧ Held status

/-- A status that stays has not been set since the request read it, unless the request ends the agent;
    and it is not an operator who suspends an agent that has ended. -/
def Write.InTime (agentID : String) (t : Table) (w : Write) : Prop :=
  match w.statusOf agentID, t.status agentID with
  | some status, some current =>
      Ended status ∨ ¬ Held current ∨
        w.readStatus = current ∧ (Ended current → status ≠ SoulAgentStatusSuspended)
  | _, _ => True

instance (agentID : String) (t : Table) (w : Write) : Decidable (w.InTime agentID t) := by
  unfold Write.InTime
  split <;> infer_instance

/-- All that an operation writes is in time. -/
def InTime (agentID : String) : ι → Op → Choice → Traced ι Op Table Choice → Prop
  | _, o, c, s => ∀ w ∈ carried o c s.state, w.InTime agentID s.state

instance (agentID : String) (i : ι) (o : Op) (c : Choice) (s : Traced ι Op Table Choice) :
    Decidable (InTime agentID i o c s) := by
  unfold InTime
  infer_instance

/-! ## Runs -/

section Run

variable {requests : ι → Request} {agentID : String} {t : Table} {s : Traced ι Op Table Choice}

theorem hasEnded_append {log : List (Event ι Op Table Choice)} {e : Event ι Op Table Choice} :
    HasEnded requests agentID t (log ++ [e]) ↔
      HasEnded requests agentID t log ∨ ends requests agentID e = true := by
  simp [HasEnded, or_assoc]

theorem heldByOperator_append {log : List (Event ι Op Table Choice)} {e : Event ι Op Table Choice} :
    heldByOperator requests agentID t (log ++ [e])
      = (operatorAct requests agentID e).getD (heldByOperator requests agentID t log) := by
  cases h : operatorAct requests agentID e <;> simp [heldByOperator, h]

/-- What an operation does to the status of an agent: nothing, or it is one that the request may
    write. -/
theorem status_cases {i : ι} {o : Op} (hperforms : Performs (requests i) o) (c : Choice) (t : Table)
    (agentID : String) :
    (writesStatus agentID ⟨i, o, c, t, (t.handle o c).2⟩ = false ∧
        (t.handle o c).2.status agentID = t.status agentID) ∨
      ∃ w status, w ∈ carried o c t ∧ w.statusOf agentID = some status ∧
        (requests i).MayWrite w.readStatus status ∧
        writesStatus agentID ⟨i, o, c, t, (t.handle o c).2⟩ = true ∧
        (t.handle o c).2.status agentID = (t.status agentID).map fun _ => status := by
  rw [status_handle]
  cases hlast : ((carried o c t).filterMap (Write.statusOf agentID)).getLast? with
  | none =>
      have hnone := List.getLast?_eq_none_iff.1 hlast
      rw [List.filterMap_eq_nil_iff] at hnone
      refine Or.inl ⟨?_, by simp⟩
      rw [writesStatus, List.any_eq_false]
      intro w hw
      rw [hnone w hw]
      exact Bool.false_ne_true
  | some status =>
      obtain ⟨w, hw, hstatus⟩ := List.mem_filterMap.1 (List.mem_of_getLast? hlast)
      have hne : carried o c t ≠ [] := List.ne_nil_of_mem hw
      refine Or.inr ⟨w, status, hw, hstatus, ?_, ?_, rfl⟩
      · exact (hperforms _ (carried_eq hne)).mayWrite hw hstatus
      · exact List.any_eq_true.2 ⟨w, hw, by rw [hstatus]; rfl⟩

theorem status_of_allowed {w : Write} {t : Table} {status : String} (hw : w.allowed t = true)
    (h : w.statusOf agentID = some status) : ∃ current, t.status agentID = some current := by
  have hrow : ∀ a, a = agentID → (t.identities a).isSome = true →
      ∃ current, t.status agentID = some current := by
    rintro a rfl hsome
    obtain ⟨row, hrow⟩ := Option.isSome_iff_exists.1 hsome
    exact ⟨row.Status, by rw [Table.status, hrow, Option.map_some]⟩
  cases w with
  | updateStatus a read identity => exact hrow a (Option.ite_none_right_eq_some.1 h).1 hw
  | updateSuccessor a read identity => exact hrow a (Option.ite_none_right_eq_some.1 h).1 hw
  | updatePublished a read identity version activation =>
      exact hrow a (Option.ite_none_right_eq_some.1 h).1.1 hw
  | _ => cases h

/-- What a request may write over a status that is still there as the agent's history says. -/
theorem Request.MayWrite.keeps {r : Request} {read status current : String} (h : r.MayWrite read status)
    (hin : Ended status ∨ ¬ Held current ∨
      read = current ∧ (Ended current → status ≠ SoulAgentStatusSuspended)) :
    (Ended current → Ended status) ∧
      (Held current → Held status ∨ ∃ agentID, r = .reinstate agentID) := by
  have hboth : ¬ Held read → (Ended current → Ended status) ∧ (Held current → Held status) := by
    intro hread
    refine ⟨fun hcurrent => ?_, fun hcurrent => ?_⟩
    · rcases hin with hended | hfree | ⟨rfl, -⟩
      · exact hended
      · exact absurd (Or.inr hcurrent) hfree
      · exact absurd (Or.inr hcurrent) hread
    · rcases hin with hended | hfree | ⟨rfl, -⟩
      · exact Or.inr hended
      · exact absurd hcurrent hfree
      · exact absurd hcurrent hread
  cases r with
  | archiveAgent agentID req =>
      have hended : Ended status := Or.inl h
      exact ⟨fun _ => hended, fun _ => Or.inl (Or.inr hended)⟩
  | designateSuccessor agentID req =>
      have hended : Ended status := Or.inr h
      exact ⟨fun _ => hended, fun _ => Or.inl (Or.inr hended)⟩
  | suspend agentID reason =>
      refine ⟨fun hcurrent => ?_, fun _ => Or.inl (Or.inl h)⟩
      rcases hin with hended | hfree | ⟨-, hnot⟩
      · exact hended
      · exact absurd (Or.inr hcurrent) hfree
      · exact absurd h (hnot hcurrent)
  | reinstate agentID =>
      refine ⟨fun hcurrent => ?_, fun _ => Or.inr ⟨agentID, rfl⟩⟩
      rcases hin with hended | hfree | ⟨rfl, -⟩
      · exact hended
      · exact absurd (Or.inr hcurrent) hfree
      · exact absurd hcurrent h.2
  | selfSuspend agentID reason => exact ⟨(hboth h.2).1, fun hcurrent => Or.inl ((hboth h.2).2 hcurrent)⟩
  | selfReinstate agentID => exact ⟨(hboth h.2).1, fun hcurrent => Or.inl ((hboth h.2).2 hcurrent)⟩
  | publish agentID => exact ⟨(hboth h.2).1, fun hcurrent => Or.inl ((hboth h.2).2 hcurrent)⟩
  | convergePublished agentID =>
      exact ⟨(hboth h.2).1, fun hcurrent => Or.inl ((hboth h.2).2 hcurrent)⟩
  | archiveAgentBegin agentID => exact h.elim
  | designateSuccessorBegin agentID successorAgentID => exact h.elim
  | appendContinuity agentID req => exact h.elim

/-- What the history says of the status that is written. -/
theorem MayWrite.ends {i : ι} {read status : String} (h : (requests i).MayWrite read status)
    {e : Event ι Op Table Choice} (hwho : e.who = i) (hends : ends requests agentID e = true) :
    Ended status := by
  rw [LesserHost.SoulLifecycle.ends, Bool.and_eq_true, hwho] at hends
  cases hkind : requests i with
  | archiveAgent agentID req => exact Or.inl (by rw [hkind] at h; exact h)
  | designateSuccessor agentID req => exact Or.inr (by rw [hkind] at h; exact h)
  | _ =>
      rw [hkind] at hends
      exact absurd hends.2 Bool.false_ne_true

/-- One operation in time keeps the lifecycle one way. -/
theorem OneWay.handle (h : OneWay requests agentID t s) {i : ι} {o : Op} {c : Choice}
    (hperforms : Performs (requests i) o) (hintime : InTime agentID i o c s) :
    OneWay requests agentID t ((Traced.env tableEnv i).handle o c s).2 := by
  set e : Event ι Op Table Choice := ⟨i, o, c, s.state, (s.state.handle o c).2⟩ with he
  have hlog : ((Traced.env tableEnv i).handle o c s).2.log = s.log ++ [e] := rfl
  have hstate : ((Traced.env tableEnv i).handle o c s).2.state = (s.state.handle o c).2 := rfl
  rcases status_cases hperforms c s.state agentID with ⟨hidle, hsame⟩ |
    ⟨w, status, hw, hstatus, hmay, hwrites, hafter⟩
  · -- nothing has happened to the agent
    have hends : ends requests agentID e = false := by rw [ends, he, hidle, Bool.false_and]
    have hact : operatorAct requests agentID e = none := by
      rw [operatorAct, he, hidle, if_neg Bool.false_ne_true]
    refine ⟨?_, ?_⟩
    · rw [hlog, hstate, hsame, hasEnded_append, hends]
      exact fun hended => h.ended (hended.resolve_right Bool.false_ne_true)
    · rw [hlog, hstate, hsame, heldByOperator_append, hact]
      exact h.suspended
  · -- what has been written may be written over the status that was there
    have hin := hintime w hw
    rw [Write.InTime, hstatus] at hin
    obtain ⟨current, hcurrent⟩ := status_of_allowed (allowed_of_carried hw) hstatus
    rw [hcurrent] at hin
    have hnow : ((Traced.env tableEnv i).handle o c s).2.state.status agentID = some status := by
      rw [hstate, hafter, hcurrent, Option.map_some]
    have hbefore : ∀ P : String → Prop, (∃ st, s.state.status agentID = some st ∧ P st) → P current := by
      rintro P ⟨st, hst, hP⟩
      obtain rfl := Option.some.inj (hst.symm.trans hcurrent)
      exact hP
    have hended := fun hpast => hbefore Ended (h.ended hpast)
    have hheld := fun hpast => hbefore Held (h.suspended hpast)
    obtain ⟨hkeepsEnded, hkeepsHeld⟩ := hmay.keeps hin
    refine ⟨fun hpast => ⟨status, hnow, ?_⟩, fun hpast => ⟨status, hnow, ?_⟩⟩
    · rw [hlog, hasEnded_append] at hpast
      rcases hpast with hpast | hends
      · exact hkeepsEnded (hended hpast)
      · exact MayWrite.ends hmay rfl hends
    · rw [hlog, heldByOperator_append] at hpast
      cases hkind : requests i with
      | suspend agentID' reason =>
          rw [hkind] at hmay
          exact Or.inl hmay
      | reinstate agentID' =>
          have hact : operatorAct requests agentID e = some false := by
            rw [operatorAct, he, hwrites, if_pos rfl]
            dsimp only
            rw [hkind]
          rw [hact] at hpast
          cases hpast
      | _ =>
          have hact : operatorAct requests agentID e = none := by
            rw [operatorAct, he, hwrites, if_pos rfl]
            dsimp only
            rw [hkind]
          rw [hact] at hpast
          rcases hkeepsHeld (hheld hpast) with hdone | ⟨agentID', hreinstate⟩
          · exact hdone
          · rw [hkind] at hreinstate
            cases hreinstate

variable [DecidableEq ι]

/-- **Agent lifecycle is one-way** in every interleaving in which every status is written in time. -/
theorem lifecycle_one_way (server : Server)
    (admits : SoulAgentIdentity → Except AppTheoryError Unit) (requests : ι → Request) (t : Table)
    (agentID : String) (ms : List (ι × Choice))
    (h : Along (Config.step (Traced.env tableEnv)) (Config.Performs (InTime agentID))
      (lifecycle server admits requests t) ms) :
    OneWay requests agentID t
      ((lifecycle server admits requests t).run (Traced.env tableEnv) ms).state := by
  refine Config.run_only (G := fun i => Performs (requests i)) ?_ ?_ ?_ h
  · intro i o c s hperforms hintime hs
    exact hs.handle hperforms hintime
  · exact fun i => handler_performs server admits (requests i)
  · refine ⟨fun hpast => ?_, fun hpast => ?_⟩
    · rcases hpast with hpast | hpast
      · have hpast' : (t.status agentID).any (fun status => decide (Ended status)) = true := hpast
        cases hstatus : t.status agentID with
        | none =>
            rw [hstatus] at hpast'
            cases hpast'
        | some status =>
            rw [hstatus, Option.any_some] at hpast'
            exact ⟨status, hstatus, of_decide_eq_true hpast'⟩
      · cases hpast
    · refine ⟨SoulAgentStatusSuspended, ?_, Or.inl rfl⟩
      exact eq_of_beq hpast

end Run

/-! ## A suspension that is undone

The agent has suspended itself. Its owner reinstates it while an operator suspends it. -/

def sampleServer : Server where
  digest _ := some []
  verifyEthereumSignatureBytes _ _ _ := true
  verifyEthereumSignatureBytesNonMalleable _ _ _ := true

def sampleIdentity (status : String) : SoulAgentIdentity where
  Domain := "d"
  Wallet := "w"
  SelfDescriptionVersion := 1
  LifecycleStatus := status
  LifecycleReason := ""
  SuccessorAgentID := ""
  PredecessorAgentID := ""
  Status := status

def sampleTable (status : String) : Table where
  identities := Function.update (fun _ => none) (agentIDOf '1') (some (sampleIdentity status))
  challenges _ := none
  continuity _ := none
  now := ⟨Hour, .utc⟩

def sampleRequests : Bool → Request
  | false => .selfReinstate (agentIDOf '1')
  | true => .suspend (agentIDOf '1') "r"

def sampleLifecycle : Config Bool Op Op.Res AppTheoryError Response (Traced Bool Op Table Choice) :=
  lifecycle sampleServer (fun _ => .ok ()) sampleRequests (sampleTable SoulAgentStatusSelfSuspended)

/-- One operation that succeeds. -/
def sampleChoice : Choice := ⟨.none, 0, "n", .ok (), .ok 1⟩

/-- The same requests once their identifiers have been read. -/
def sampleThreads : Bool → Handler Response
  | false => do
      (do
        let identity ← (do
          match ← fetchIdentity (agentIDOf '1') with
          | .error _ => .fail (newAppTheoryError "app.not_found" "agent not found")
          | .ok identity => do
              requireSoulDomainAccess (TrimSpace identity.Domain)
              return identity)
        if TrimSpace identity.Status ≠ SoulAgentStatusSelfSuspended then
          .fail (newAppTheoryError "app.conflict" "agent is not self-suspended")
        else
          updateStatus (agentIDOf '1') identity SoulAgentStatusActive "" "failed to reinstate agent")
      return .done
  | true => do
      (do
        let identity ← (do
          match ← fetchIdentity (agentIDOf '1') with
          | .error .notFound => .fail (newAppTheoryError "app.not_found" "agent not found")
          | .error _ => .fail (newAppTheoryError "app.internal" "internal error")
          | .ok identity => return identity)
        if TrimSpace identity.Status ≠ SoulAgentStatusSuspended then
          updateStatus (agentIDOf '1') identity SoulAgentStatusSuspended (TrimSpace "r")
            "failed to suspend agent"
        else return ())
      return .done

theorem sampleLifecycle_eq : sampleLifecycle
    = { state := Traced.start (sampleTable SoulAgentStatusSelfSuspended), threads := sampleThreads } := by
  have hparse := parse_agentIDOf (d := '1') (by decide) (by decide)
  have hget := getSoulAgentIdentity_normal (normal_agentIDOf (d := '1') (by decide))
    (agentIDOf_ne_empty '1')
  refine congrArg (Config.mk _) (funext fun i => ?_)
  cases i with
  | false =>
      show (Request.selfReinstate (agentIDOf '1')).handler sampleServer (fun _ => .ok ()) = _
      simp only [Request.handler, handleSoulSelfReinstate, hparse, liftExcept, Prog.ret_bind,
        loadSoulLifecycleIdentity, hget]
      rfl
  | true =>
      show (Request.suspend (agentIDOf '1') "r").handler sampleServer (fun _ => .ok ()) = _
      simp only [Request.handler, handleSuspendSoulAgent, hparse, liftExcept, Prog.ret_bind,
        loadOperatorIdentity, hget]
      rfl

/-- The owner's request reads the agent, an operator suspends it, and the request goes on. -/
def sampleOverwrite : List (Bool × Choice) :=
  [false, false, true, true, false].map fun i => (i, sampleChoice)

theorem sampleOverwrite_state :
    let s := (sampleLifecycle.run (Traced.env tableEnv) sampleOverwrite).state
    heldByOperator sampleRequests (agentIDOf '1') (sampleTable SoulAgentStatusSelfSuspended) s.log
        = true ∧
      s.state.status (agentIDOf '1') = some SoulAgentStatusActive := by
  rw [sampleLifecycle_eq]
  decide

/-- **A stale self-reinstatement undoes the suspension** by an operator. -/
theorem not_lifecycle_one_way :
    ¬ OneWay sampleRequests (agentIDOf '1') (sampleTable SoulAgentStatusSelfSuspended)
      (sampleLifecycle.run (Traced.env tableEnv) sampleOverwrite).state := by
  intro h
  obtain ⟨hheld, hactive⟩ := sampleOverwrite_state
  obtain ⟨status, hstatus, hstays⟩ := h.suspended hheld
  rw [hactive] at hstatus
  obtain rfl := Option.some.inj hstatus
  revert hstays
  decide

/-- The request of the owner comes after the suspension. -/
def sampleInTime : List (Bool × Choice) := [true, true, false, false].map fun i => (i, sampleChoice)

theorem sampleInTime_along :
    Along (Config.step (Traced.env tableEnv)) (Config.Performs (InTime (agentIDOf '1')))
        sampleLifecycle sampleInTime ∧
      heldByOperator sampleRequests (agentIDOf '1') (sampleTable SoulAgentStatusSelfSuspended)
        (sampleLifecycle.run (Traced.env tableEnv) sampleInTime).state.log = true := by
  rw [sampleLifecycle_eq]
  decide

theorem lifecycle_one_way_suspended :
    OneWay sampleRequests (agentIDOf '1') (sampleTable SoulAgentStatusSelfSuspended)
        (sampleLifecycle.run (Traced.env tableEnv) sampleInTime).state ∧
      heldByOperator sampleRequests (agentIDOf '1') (sampleTable SoulAgentStatusSelfSuspended)
        (sampleLifecycle.run (Traced.env tableEnv) sampleInTime).state.log = true :=
  ⟨lifecycle_one_way sampleServer (fun _ => .ok ()) sampleRequests
    (sampleTable SoulAgentStatusSelfSuspended) (agentIDOf '1') sampleInTime sampleInTime_along.1,
    sampleInTime_along.2⟩

end LesserHost.SoulLifecycle
