import LesserHost.HostedGenesis.DispatchRuns

set_option autoImplicit false

/-! # A fresh run

`PrepareFreshMicroVMRun` looks at the previous MicroVM, terminates it, waits for its end, and then runs a new
one and waits until it is ready. Which MicroVM a response is about is checked of the first response and of the
last one, and of none in between. -/

namespace LesserHost.HostedGenesis.Dispatch

open LesserHost.Go Prog

variable {rt : Runtime}

/-! ## Places in the log -/

section Split

variable {α : Type} {P : α → Prop} {x y : α} {a b c d : List α}

/-- What has the property stands behind what has not. -/
theorem split_right (h : a ++ b = c ++ y :: d) (hy : P y) (ha : ∀ e ∈ a, ¬P e) :
    ∃ l, b = l ++ y :: d := by
  rcases List.append_eq_append_iff.1 h with ⟨l, -, hrest⟩ | ⟨l, hearlier, hrest⟩
  · exact ⟨l, hrest⟩
  · cases l with
    | nil => exact ⟨[], hrest.symm⟩
    | cons e l =>
        obtain ⟨rfl, -⟩ := List.cons.inj hrest
        exact absurd hy (ha _ (by rw [hearlier]; exact List.mem_append_right _ List.mem_cons_self))

/-- There is one place with the property. -/
theorem split_unique (h : a ++ x :: b = c ++ y :: d) (hy : P y) (ha : ∀ e ∈ a, ¬P e) (hb : ∀ e ∈ b, ¬P e) :
    a = c ∧ x = y ∧ b = d := by
  obtain ⟨l, hl⟩ := split_right h hy ha
  cases l with
  | nil =>
      obtain ⟨rfl, rfl⟩ := List.cons.inj hl
      exact ⟨List.append_cancel_right h, rfl, rfl⟩
  | cons e l =>
      obtain ⟨-, rfl⟩ := List.cons.inj hl
      exact absurd hy (hb _ (List.mem_append_right _ List.mem_cons_self))

end Split

def Event.Runs : Event → Prop
  | .asked (.run _) _ => True
  | _ => False

def Event.Deletes : Event → Prop
  | .asked (.delete _) _ => True
  | _ => False

/-- An event of the retirement of a MicroVM. -/
def Event.Retires (e : Event) : Prop := e ≠ .invoked ∧ ¬e.Runs

theorem Event.Looks.retires {e : Event} (h : e.Looks) : e.Retires := by
  cases e with
  | asked r t => cases r <;> first | exact h.elim | exact ⟨by simp, fun h => h⟩
  | answered r resp t => exact ⟨by simp, fun h => h⟩
  | invoked => exact h.elim

theorem Event.Looks.not_deletes {e : Event} (h : e.Looks) : ¬e.Deletes := by
  cases e with
  | asked r t => cases r <;> first | exact h.elim | exact fun h => h
  | answered r resp t => exact fun h => h
  | invoked => exact h.elim

/-- A MicroVM is terminated only while every response has been about it. -/
def DeletesOnly (vm : String) (log : List Event) : Prop :=
  ∀ later before session t, log = later ++ .asked (.delete session) t :: before →
    ∀ q resp t, Event.answered q resp t ∈ before → resp.vm = vm

theorem DeletesOnly.adds {vm : String} {w w' : World} (h : DeletesOnly vm w.log)
    (hadds : Adds (fun e => ¬e.Deletes) w w') : DeletesOnly vm w'.log := by
  obtain ⟨⟨evs, hlog, hevs⟩, -⟩ := hadds
  intro later before session t hsplit
  obtain ⟨l, hl⟩ := split_right (P := Event.Deletes) (hlog.symm.trans hsplit) trivial hevs
  exact h l before session t hl

/-! ## The end of the previous MicroVM -/

/-- The wait for the end: it looks at the session, and returns the last response, which is dead. -/
structure Ended (rt : Runtime) (w : World) (r : Except DispatchError ControllerResponse) (w' : World) :
    Prop where
  adds : Adds Event.Looks w w'
  ends : r ≠ .error .outOfFuel
  dead : ∀ resp, r = .ok resp → lastAnswer w'.log = some resp ∧ resp.Dead rt w'.clock

theorem Ended.of_error {w w' : World} {e : DispatchError} (h : Adds Event.Looks w w') (he : e ≠ .outOfFuel) :
    Ended rt w (.error e) w' :=
  ⟨h, fun heq => he (Except.error.inj heq), fun _ heq => by cases heq⟩

/-- The step and the run of the loop, by induction on its rounds. -/
theorem pollTerminal_spec (session : String) (deadline : Time) (n : Nat) (resp : ControllerResponse) (w : World)
    (hlast : lastAnswer w.log = some resp)
    (hfuel : deadline.nanos < w.clock + n * microvmControllerReadyPollInterval) :
    wp worldEnv (pollTerminal rt session deadline (n + 1) resp) (Ended rt w) w := by
  have hinterval : microvmControllerReadyPollInterval = 250000000 := rfl
  have hround : ∀ {w : World} {resp : ControllerResponse} {k : Bool → Call ControllerResponse},
      lastAnswer w.log = some resp → k true = pure resp →
      (∀ w', Still w w' → wp worldEnv (k false) (Ended rt w) w') →
      wp worldEnv (microVMResponseIsTerminal rt resp >>= k) (Ended rt w) w := by
    intro w resp k hlast htrue hfalse
    refine wp_terminal fun w₁ hw₁ => ?_
    by_cases hdead : resp.Dead rt w₁.clock
    · rw [decide_eq_true hdead, htrue]
      exact (wp_pure _).2 ⟨hw₁.adds, by simp, fun _ heq => by cases heq; exact ⟨hw₁.1 ▸ hlast, hdead⟩⟩
    · rw [decide_eq_false hdead]
      exact hfalse w₁ hw₁
  induction n generalizing resp w with
  | zero =>
      unfold pollTerminal
      refine hround hlast rfl fun w₁ hw₁ => ?_
      refine wp_awaitRound (fun w₂ hlog hdeadline hclock => ?_) fun w' text hw' =>
        Ended.of_error (hw₁.trans hw').adds (by simp)
      have hle := hw₁.2
      push_cast at hfuel
      omega
  | succ n ih =>
      unfold pollTerminal
      refine hround hlast rfl fun w₁ hw₁ => ?_
      refine wp_awaitRound (fun w₂ hlog hdeadline hclock => ?_) fun w' text hw' =>
        Ended.of_error (hw₁.trans hw').adds (by simp)
      have hle := hw₁.2
      refine wp_request (fun resp elapsed hfailure => ?_) (fun e elapsed => ?_)
        fun resp elapsed e hfailure => ?_
      · have hadds : Adds Event.Looks w ⟨w₂.clock + elapsed,
            .answered (.get session) resp (w₂.clock + elapsed) :: .asked (.get session) w₂.clock :: w₂.log⟩ :=
          adds_get (hlog.trans hw₁.1) rfl (by simp only; omega) trivial trivial
        refine wp_mono (ih resp _ rfl ?_) fun r w' h => ⟨hadds.trans h.adds, h.ends, h.dead⟩
        push_cast at hfuel
        rw [hinterval] at hfuel hclock ⊢
        simp only
        omega
      · exact Ended.of_error ⟨⟨[.asked (.get session) w₂.clock], by rw [← hw₁.1, ← hlog]; rfl, fun e he => by
          cases List.mem_singleton.1 he; exact trivial⟩, by simp only; omega⟩ (by simp)
      · exact Ended.of_error (adds_get (hlog.trans hw₁.1) rfl (by simp only; omega) trivial trivial) (by simp)

theorem waitForControllerMicroVMTerminal_spec (session : String) (resp : ControllerResponse) (w : World)
    (hlast : lastAnswer w.log = some resp) :
    wp worldEnv (waitForControllerMicroVMTerminal rt session resp) (Ended rt w) w := by
  unfold waitForControllerMicroVMTerminal
  refine wp_now fun w₁ hw₁ => ?_
  refine wp_mono (pollTerminal_spec session _ 241 resp w₁ (hw₁.1 ▸ hlast)
    (deadline_reached (Int.le_refl _))) fun r w' h => ?_
  exact ⟨hw₁.adds.trans h.adds, h.ends, h.dead⟩

/-- What is done to the previous MicroVM, before anything is run: if it succeeds, the last response is dead. -/
structure Retired (rt : Runtime) (vm : String) (r : Except DispatchError Unit) (w : World) : Prop where
  retires : ∀ e ∈ w.log, e.Retires
  deletes : DeletesOnly vm w.log
  ends : r ≠ .error .outOfFuel
  dead : r = .ok () → ∃ resp, lastAnswer w.log = some resp ∧ resp.Dead rt w.clock

theorem Retired.of_error {vm : String} {w w' : World} {e : DispatchError} (hw : ∀ e ∈ w.log, e.Retires)
    (hdeletes : DeletesOnly vm w.log) (hadds : Adds (fun e => e.Retires ∧ ¬e.Deletes) w w')
    (he : e ≠ .outOfFuel) : Retired rt vm (.error e) w' := by
  refine ⟨fun ev hev => ?_, hdeletes.adds (hadds.mono fun _ h => h.2), fun heq => he (Except.error.inj heq),
    fun heq => by cases heq⟩
  obtain ⟨⟨evs, hlog, hevs⟩, -⟩ := hadds
  rw [hlog] at hev
  rcases List.mem_append.1 hev with hev | hev
  · exact (hevs ev hev).1
  · exact hw ev hev

theorem Retired.of_dead {vm : String} {w : World} {resp : ControllerResponse} (hw : ∀ e ∈ w.log, e.Retires)
    (hdeletes : DeletesOnly vm w.log) (hlast : lastAnswer w.log = some resp) (hdead : resp.Dead rt w.clock) :
    Retired rt vm (.ok ()) w :=
  ⟨hw, hdeletes, by simp, fun _ => ⟨resp, hlast, hdead⟩⟩

namespace HTTPControllerDispatcher

variable {sv : Services} {d : HTTPControllerDispatcher} {binding : MicroVMSessionBinding}

theorem not_deletes_of_log {vm : String} {log : List Event} (h : ∀ e ∈ log, ¬e.Deletes) :
    DeletesOnly vm log := by
  intro later before session t hsplit
  refine absurd trivial (h (.asked (.delete session) t) ?_)
  rw [hsplit]
  exact List.mem_append_right _ List.mem_cons_self

/-- The wait after the request to terminate. -/
theorem retire_terminated {vm : String} {w : World} {terminated : ControllerResponse} (session : String)
    (hw : ∀ e ∈ w.log, e.Retires) (hdeletes : DeletesOnly vm w.log)
    (hlast : lastAnswer w.log = some terminated) :
    wp worldEnv (microVMResponseIsTerminal rt terminated >>= fun terminal =>
        if terminal then pure () else
          waitForControllerMicroVMTerminal rt session terminated >>= fun _ => pure () : Call Unit)
      (Retired rt vm) w := by
  refine wp_terminal fun w₁ hw₁ => ?_
  have hw' : ∀ e ∈ w₁.log, e.Retires := hw₁.1 ▸ hw
  have hdeletes' : DeletesOnly vm w₁.log := hw₁.1 ▸ hdeletes
  have hlooks : ∀ {w₂ : World}, Adds Event.Looks w₁ w₂ → Adds (fun e => e.Retires ∧ ¬e.Deletes) w₁ w₂ :=
    fun h => h.mono fun _ he => ⟨he.retires, he.not_deletes⟩
  refine wp_ite (fun hdead => (wp_pure _).2 ?_) fun _ => ?_
  · exact Retired.of_dead hw' hdeletes' (hw₁.1 ▸ hlast) (of_decide_eq_true hdead)
  · refine wp_bind_of (waitForControllerMicroVMTerminal_spec session terminated w₁ (hw₁.1 ▸ hlast))
      (fun resp w₂ h => (wp_pure _).2 ?_) fun e w₂ h => ?_
    · obtain ⟨hlast₂, hdead⟩ := h.dead resp rfl
      refine ⟨fun e he => ?_, hdeletes'.adds ((hlooks h.adds).mono fun _ h => h.2), by simp,
        fun _ => ⟨resp, hlast₂, hdead⟩⟩
      obtain ⟨⟨evs, hlog, hevs⟩, -⟩ := h.adds
      rw [hlog] at he
      rcases List.mem_append.1 he with he | he
      · exact (hevs e he).retires
      · exact hw' e he
    · exact Retired.of_error hw' hdeletes' (hlooks h.adds) fun heq => h.ends (congrArg _ heq)

/-- The first response names the previous MicroVM, or nothing is done. -/
theorem observeAndRetirePreviousMicroVM_spec (previous : MicroVMLifecycleRef) (clock : Int) :
    wp worldEnv (observeAndRetirePreviousMicroVM rt binding previous)
      (Retired rt (TrimSpace previous.MicroVMID)) ⟨clock, []⟩ := by
  have hnil : ∀ e ∈ ([] : List Event), e.Retires := fun e he => by cases he
  have hnone : DeletesOnly (TrimSpace previous.MicroVMID) [] := not_deletes_of_log fun e he => by cases he
  have hfirst : ∀ {resp : ControllerResponse} {s t : Int}, ∀ e ∈ [Event.answered (.get (session binding)) resp t,
      .asked (.get (session binding)) s], e.Retires ∧ ¬e.Deletes := by
    intro resp s t e he
    simp only [List.mem_cons, List.not_mem_nil, or_false] at he
    rcases he with rfl | rfl
    · exact ⟨⟨by simp, fun h => h⟩, fun h => h⟩
    · exact ⟨⟨by simp, fun h => h⟩, fun h => h⟩
  have hadds : ∀ {evs : List Event} {elapsed : Nat}, (∀ e ∈ evs, e.Retires ∧ ¬e.Deletes) →
      Adds (fun e => e.Retires ∧ ¬e.Deletes) ⟨clock, []⟩ ⟨clock + elapsed, evs⟩ :=
    fun hevs => ⟨⟨_, (List.append_nil _).symm, hevs⟩, Int.le_add_of_nonneg_right (Int.natCast_nonneg _)⟩
  unfold observeAndRetirePreviousMicroVM
  refine wp_request (fun observed elapsed hfailure => ?_) (fun e elapsed => ?_)
    fun resp elapsed e hfailure => ?_
  · refine wp_check (fun hnames => ?_) fun _ =>
      Retired.of_error hnil hnone (hadds hfirst) (by simp)
    refine wp_terminal fun w₁ hw₁ => ?_
    obtain ⟨clock₁, log₁⟩ := w₁
    obtain ⟨rfl, hclock₁⟩ := hw₁
    simp only at hclock₁
    refine wp_ite (fun hdead => (wp_pure _).2 ?_) fun _ => ?_
    · exact Retired.of_dead (fun e he => (hfirst e he).1) (not_deletes_of_log fun e he => (hfirst e he).2) rfl
        (of_decide_eq_true hdead)
    · have hdelete : ∀ {evs : List Event}, (∀ e ∈ evs, e.Retires ∧ ¬e.Deletes) →
          (∀ e ∈ evs ++ .asked (.delete (session binding)) clock₁ ::
            [.answered (.get (session binding)) observed (clock + elapsed),
              .asked (.get (session binding)) clock], e.Retires) ∧
          DeletesOnly (TrimSpace previous.MicroVMID) (evs ++ .asked (.delete (session binding)) clock₁ ::
            [.answered (.get (session binding)) observed (clock + elapsed),
              .asked (.get (session binding)) clock]) := by
        intro evs hevs
        refine ⟨fun e he => ?_, fun later before session' t hsplit q resp t' hmem => ?_⟩
        · rcases List.mem_append.1 he with he | he
          · exact (hevs e he).1
          · rcases List.mem_cons.1 he with rfl | he
            · exact ⟨by simp, fun h => h⟩
            · exact (hfirst e he).1
        · obtain ⟨-, -, rfl⟩ := split_unique (P := Event.Deletes) hsplit trivial (fun e he => (hevs e he).2)
            fun e he => (hfirst e he).2
          simp only [List.mem_cons, List.not_mem_nil, or_false, reduceCtorEq, Event.answered.injEq] at hmem
          rw [hmem.2.1]
          exact hnames.2
      have hnoEvents : ∀ e ∈ ([] : List Event), e.Retires ∧ ¬e.Deletes := fun e he => by cases he
      refine wp_request (fun terminated elapsed₂ hfailure => ?_) (fun e elapsed₂ => ?_)
        fun resp elapsed₂ e hfailure => ?_
      · have hone : ∀ e ∈ [Event.answered (.delete (session binding)) terminated (clock₁ + elapsed₂)],
            e.Retires ∧ ¬e.Deletes := by
          intro e he
          obtain rfl := List.mem_singleton.1 he
          exact ⟨⟨by simp, fun h => h⟩, fun h => h⟩
        exact retire_terminated _ (hdelete hone).1 (hdelete hone).2 rfl
      · exact Retired.of_error (w := ⟨clock₁ + elapsed₂, _⟩) (hdelete hnoEvents).1 (hdelete hnoEvents).2
          (Adds.refl _) (by simp)
      · have hone : ∀ e ∈ [Event.answered (.delete (session binding)) resp (clock₁ + elapsed₂)],
            e.Retires ∧ ¬e.Deletes := by
          intro e he
          obtain rfl := List.mem_singleton.1 he
          exact ⟨⟨by simp, fun h => h⟩, fun h => h⟩
        exact Retired.of_error (w := ⟨clock₁ + elapsed₂, _⟩) (hdelete hone).1 (hdelete hone).2
          (Adds.refl _) (by simp)
  · refine Retired.of_error hnil hnone (hadds fun ev hev => ?_) (by simp)
    obtain rfl := List.mem_singleton.1 hev
    exact ⟨⟨by simp, fun h => h⟩, fun h => h⟩
  · exact Retired.of_error hnil hnone (hadds hfirst) (by simp)

/-! ## The new MicroVM -/

/-- The result names a MicroVM other than the previous one, and is bound to the session. -/
structure Bound (binding : MicroVMSessionBinding) (vm : String) (ref : MicroVMLifecycleRef) : Prop where
  some : ref.MicroVMID ≠ ""
  other : ref.MicroVMID ≠ vm
  tenant : ref.TenantID = binding.TenantID
  inNamespace : ref.Namespace = MicroVMNamespace
  session : ref.SessionID = TrimSpace binding.ConversationID

/-- An event after the request to run: a dead session makes the call ask for a relaunch. -/
structure Follows {α : Type} (rt : Runtime) (r : Except DispatchError α) (e : Event) : Prop where
  quiet : e ≠ .invoked ∧ ¬e.Runs ∧ ¬e.Deletes
  live : ∀ session resp t, e = .answered (.get session) resp t → e.Live rt ∨ Relaunch r

/-- The second half: nothing is done, or there is one request to run, followed by looks at the session. -/
structure Fresh (rt : Runtime) (binding : MicroVMSessionBinding) (vm : String) (w : World)
    (r : Except DispatchError MicroVMDispatchResult) (w' : World) : Prop where
  shape : w'.log = w.log ∧ (∃ e, r = .error e) ∨
    ∃ later payload, w'.log = later ++ .asked (.run payload) w.clock :: w.log ∧ ∀ e ∈ later, Follows rt r e
  ends : r ≠ .error .outOfFuel
  accepts : ∀ res, r = .ok res → Accepts rt w'.log
  bound : ∀ res, r = .ok res → Bound binding vm res.LifecycleRef

theorem Fresh.of_error {vm : String} {w w' : World} {e : DispatchError} {later : List Event}
    {payload : microvmRunRequestPayload} (hlog : w'.log = later ++ .asked (.run payload) w.clock :: w.log)
    (hlater : ∀ ev ∈ later, Follows rt (.error e : Except DispatchError MicroVMDispatchResult) ev)
    (he : e ≠ .outOfFuel) : Fresh rt binding vm w (.error e) w' :=
  ⟨Or.inr ⟨later, payload, hlog, hlater⟩, fun heq => he (Except.error.inj heq), fun _ heq => (by cases heq),
    fun _ heq => (by cases heq)⟩

theorem bound_of_validate {ref : MicroVMLifecycleRef} {vm : String} (h : ref.Validate sv binding = .ok ())
    (hid : TrimSpace (d.decorateLifecycleRef ref).MicroVMID ≠ "")
    (hother : TrimSpace (d.decorateLifecycleRef ref).MicroVMID ≠ vm) :
    Bound binding vm (d.decorateLifecycleRef ref) := by
  have htrim : TrimSpace (d.decorateLifecycleRef ref).MicroVMID = (d.decorateLifecycleRef ref).MicroVMID :=
    TrimSpace_idem _
  rw [htrim] at hid hother
  unfold MicroVMLifecycleRef.Validate at h
  cases hbinding : binding.Validate with
  | error err =>
      rw [hbinding] at h
      cases h
  | ok u =>
      simp only [hbinding] at h
      split at h
      · cases h
      · next hbound =>
          simp only [not_or, not_not] at hbound
          exact ⟨hid, hother, hbound.2.1, hbound.2.2.1, hbound.2.2.2⟩

/-- Looks at the session after the request to run. -/
theorem Follows.of_looks {α : Type} {r : Except DispatchError α} {e : Event} (h : e.Looks)
    (hlive : e.Live rt ∨ Relaunch r) : Follows rt r e :=
  ⟨⟨h.retires.1, h.retires.2, h.not_deletes⟩, fun _ _ _ _ => hlive⟩

theorem Follows.mono {α β : Type} {r : Except DispatchError α} {r' : Except DispatchError β} {e : Event}
    (h : Follows rt r e) (hr : Relaunch r → Relaunch r') : Follows rt r' e :=
  ⟨h.quiet, fun session resp t he => (h.live session resp t he).imp_right hr⟩

/-- The wait for the new MicroVM. -/
theorem waitForPreparedMicroVMInvokable_spec (hrt : rt.Documented) {w : World} {later : List Event}
    (hlater : ∀ e ∈ later, e ≠ .invoked ∧ ¬e.Runs ∧ ¬e.Deletes ∧ ∀ session resp t,
      e ≠ .answered (.get session) resp t) {log : List Event} (hlog : w.log = later ++ log) :
    wp worldEnv (waitForPreparedMicroVMInvokable rt sv d binding) (fun r w' =>
      (∃ later, w'.log = later ++ log ∧ ∀ e ∈ later, Follows rt r e) ∧ r ≠ .error .outOfFuel ∧
      ∀ res, r = .ok res → Accepts rt w'.log ∧ ∃ ref, res.LifecycleRef = d.decorateLifecycleRef ref ∧
        ref.Validate sv binding = .ok ()) w := by
  have hstart : ∀ (r : Except DispatchError MicroVMDispatchResult), ∀ e ∈ later, Follows rt r e :=
    fun r e he => ⟨⟨(hlater e he).1, (hlater e he).2.1, (hlater e he).2.2.1⟩,
      fun session resp t heq => absurd heq ((hlater e he).2.2.2 session resp t)⟩
  have hgrow : ∀ (evs : List Event) {w₁ : World} {r : Except DispatchError MicroVMDispatchResult},
      w₁.log = evs ++ w.log → (∀ e ∈ evs, Follows rt r e) →
      ∃ later, w₁.log = later ++ log ∧ ∀ e ∈ later, Follows rt r e := by
    intro evs w₁ r hw₁ hevs
    refine ⟨evs ++ later, by rw [hw₁, hlog, List.append_assoc], fun e he => ?_⟩
    rcases List.mem_append.1 he with he | he
    · exact hevs e he
    · exact hstart r e he
  unfold waitForPreparedMicroVMInvokable
  refine wp_request (fun resp elapsed hfailure => ?_) (fun e elapsed => ⟨?_, by simp, fun _ heq => by cases heq⟩)
    fun resp elapsed e hfailure => ⟨?_, by simp, fun _ heq => by cases heq⟩
  · refine wp_bind_of (waitForControllerMicroVMInvokable_spec (session binding) resp _ rfl)
      (fun ready w₂ h => ?_) fun e w₂ h => ⟨?_, fun heq => h.1.ends (congrArg _ (Except.error.inj heq)),
        fun _ heq => by cases heq⟩
    · obtain ⟨⟨⟨⟨evs, hevs, hlooks⟩, -⟩, -, haccepts⟩, hdead⟩ := h
      obtain ⟨hlast, hinvokable⟩ := haccepts ready rfl
      have hno : ¬Relaunch (.ok ready : Except DispatchError ControllerResponse) := fun ⟨_, h⟩ => by cases h
      refine wp_mono (resultOf_spec ready) fun r w' h => ⟨?_, h.2.1, fun res heq => ?_⟩
      · refine hgrow (evs ++ [.answered (.get (session binding)) resp (w.clock + elapsed),
          .asked (.get (session binding)) w.clock]) (by rw [h.1.1, hevs]; simp) fun e he => ?_
        rcases List.mem_append.1 he with he | he
        · exact Follows.of_looks (hlooks e he).1 (Or.inl ((hlooks e he).2.resolve_right hno))
        · simp only [List.mem_cons, List.not_mem_nil, or_false] at he
          rcases he with rfl | rfl
          · exact Follows.of_looks trivial (first_live.imp_right fun h => absurd (hdead h.1 h.2) hno)
          · exact Follows.of_looks trivial (Or.inl trivial)
      · obtain ⟨-, ref, observedAt, href, hvalid, -⟩ := h.2.2 res heq
        refine ⟨⟨ready, ?_, hinvokable, hrt.not_terminal hinvokable⟩, ref, href, hvalid⟩
        rw [h.1.1]
        exact hlast
    · obtain ⟨⟨⟨⟨evs, hevs, hlooks⟩, -⟩, -, -⟩, hdead⟩ := h
      have hsame : ∀ {r : Except DispatchError ControllerResponse}, r = .error e → Relaunch r →
          Relaunch (.error e : Except DispatchError MicroVMDispatchResult) := by
        rintro r hr ⟨state, rfl⟩
        exact ⟨state, by rw [← Except.error.inj hr]⟩
      refine hgrow (evs ++ [.answered (.get (session binding)) resp (w.clock + elapsed),
        .asked (.get (session binding)) w.clock]) (by rw [hevs]; simp) fun e he => ?_
      rcases List.mem_append.1 he with he | he
      · exact Follows.of_looks (hlooks e he).1 ((hlooks e he).2.imp_right (hsame rfl))
      · simp only [List.mem_cons, List.not_mem_nil, or_false] at he
        rcases he with rfl | rfl
        · exact Follows.of_looks trivial (first_live.imp_right fun h => hsame rfl (hdead h.1 h.2))
        · exact Follows.of_looks trivial (Or.inl trivial)
  · refine hgrow ([.asked (.get (session binding)) w.clock]) rfl fun ev hev => ?_
    obtain rfl := List.mem_singleton.1 hev
    exact Follows.of_looks trivial (Or.inl trivial)
  · refine hgrow ([.answered (.get (session binding)) resp (w.clock + elapsed),
      .asked (.get (session binding)) w.clock]) rfl fun ev hev => ?_
    simp only [List.mem_cons, List.not_mem_nil, or_false] at hev
    rcases hev with rfl | rfl
    · exact Follows.of_looks trivial (Or.inl fun hnone => absurd (hfailure.symm.trans hnone) (by simp))
    · exact Follows.of_looks trivial (Or.inl trivial)

/-- The second half of the preparation. -/
theorem fresh_spec (hrt : rt.Documented) (requestID vm : String) (w : World) :
    wp worldEnv (StartMicroVMRun sv d binding requestID >>= fun started =>
        waitForPreparedMicroVMInvokable rt sv d binding >>= fun ready =>
        check (TrimSpace ready.LifecycleRef.MicroVMID ≠ "" ∧ TrimSpace ready.LifecycleRef.MicroVMID ≠ vm)
          .staleRegistryState >>= fun _ =>
        check (started.SessionID = ready.SessionID) .staleRegistryState >>= fun _ => pure ready)
      (Fresh rt binding vm w) w := by
  have hrun : ∀ (resp : ControllerResponse) (t : Int), ∀ e ∈ [Event.answered (d.runRequest binding) resp t],
      e ≠ .invoked ∧ ¬e.Runs ∧ ¬e.Deletes ∧ ∀ session resp t, e ≠ .answered (.get session) resp t := by
    intro resp t e he
    obtain rfl := List.mem_singleton.1 he
    exact ⟨by simp, fun h => h, fun h => h, fun session resp t heq => by cases heq⟩
  have hfollows : ∀ {r : Except DispatchError MicroVMDispatchResult} {resp : ControllerResponse} {t : Int},
      ∀ e ∈ [Event.answered (d.runRequest binding) resp t], Follows rt r e :=
    fun e he => ⟨⟨(hrun _ _ e he).1, (hrun _ _ e he).2.1, (hrun _ _ e he).2.2.1⟩,
      fun session resp t heq => absurd heq ((hrun _ _ e he).2.2.2 session resp t)⟩
  unfold StartMicroVMRun
  simp only [bind_assoc]
  refine wp_validateCall ?_ fun e he => ⟨Or.inl ⟨rfl, e, rfl⟩, fun heq => he (Except.error.inj heq),
    fun _ heq => (by cases heq), fun _ heq => (by cases heq)⟩
  refine wp_request (fun resp elapsed hfailure => ?_) (fun e elapsed => ?_)
    fun resp elapsed e hfailure => ?_
  · refine wp_bind_of (resultOf_spec resp) (fun started w₁ h => ?_) fun e w₁ h => ?_
    · refine wp_bind_of (waitForPreparedMicroVMInvokable_spec hrt (hrun resp (w.clock + elapsed))
        (h.1.1.trans rfl)) (fun ready w₂ h₂ => ?_) fun e w₂ h₂ => ?_
      · obtain ⟨⟨later, hlog, hlater⟩, -, hready⟩ := h₂
        obtain ⟨haccepts, ref, href, hvalid⟩ := hready ready rfl
        have hstale : Fresh rt binding vm w (.error .staleRegistryState) w₂ :=
          Fresh.of_error hlog (fun e he => (hlater e he).mono fun h => (by
            obtain ⟨_, heq⟩ := h
            cases heq)) (by simp)
        refine wp_check (fun hid => wp_check (fun _ => (wp_pure _).2 ?_) fun _ => hstale) fun _ => hstale
        refine ⟨Or.inr ⟨later, _, hlog, hlater⟩, by simp, fun _ _ => haccepts, fun res heq => ?_⟩
        cases heq
        rw [href] at hid ⊢
        exact bound_of_validate hvalid hid.1 hid.2
      · obtain ⟨⟨later, hlog, hlater⟩, hends, -⟩ := h₂
        exact Fresh.of_error hlog hlater fun heq => hends (congrArg _ heq)
    · exact Fresh.of_error (h.1.1.trans rfl) hfollows fun heq => h.2.1 (congrArg _ heq)
  · exact Fresh.of_error (show _ = [] ++ _ from rfl) (fun e he => by cases he) (by simp)
  · exact Fresh.of_error rfl hfollows (by simp)

/-! ## The whole preparation -/

/-- What a call does: it retires the previous MicroVM, and then there may be the request to run, at a time at
    which the last response is dead. -/
structure Prepared (rt : Runtime) (binding : MicroVMSessionBinding) (vm : String)
    (r : Except DispatchError MicroVMDispatchResult) (w : World) : Prop where
  shape : (∀ e ∈ w.log, e.Retires) ∧ (∃ e, r = .error e) ∨
    ∃ later payload time before, w.log = later ++ .asked (.run payload) time :: before ∧
      (∀ e ∈ before, e.Retires) ∧ (∀ e ∈ later, Follows rt r e) ∧
      ∃ resp, lastAnswer before = some resp ∧ resp.Dead rt time
  deletes : DeletesOnly vm w.log
  ends : r ≠ .error .outOfFuel
  accepts : ∀ res, r = .ok res → Accepts rt w.log
  bound : ∀ res, r = .ok res → Bound binding vm res.LifecycleRef

theorem PrepareFreshMicroVMRun_spec (hrt : rt.Documented) (requestID : String) (previous : MicroVMLifecycleRef)
    (clock : Int) :
    wp worldEnv (PrepareFreshMicroVMRun rt sv d binding requestID previous)
      (Prepared rt binding (TrimSpace previous.MicroVMID)) ⟨clock, []⟩ := by
  have hfail : ∀ e : DispatchError, e ≠ .outOfFuel →
      Prepared rt binding (TrimSpace previous.MicroVMID) (.error e) ⟨clock, []⟩ := fun e he =>
    ⟨Or.inl ⟨fun e he => (by cases he), e, rfl⟩, not_deletes_of_log fun e he => (by cases he),
      fun heq => he (Except.error.inj heq), fun _ heq => (by cases heq), fun _ heq => (by cases heq)⟩
  unfold PrepareFreshMicroVMRun validateFreshMicroVMPreparation
  simp only [bind_assoc]
  refine wp_check (fun _ => ?_) fun _ => hfail _ (by simp)
  refine wp_validated (fun _ => ?_) fun err _ => hfail _ (by simp)
  refine wp_validated (fun _ => ?_) fun err _ => hfail _ (by simp)
  refine wp_check (fun _ => ?_) fun _ => hfail _ (by simp)
  refine wp_bind_of (observeAndRetirePreviousMicroVM_spec previous clock) (fun _ w₁ h₁ => ?_)
    fun e w₁ h₁ => ?_
  · obtain ⟨resp, hlast, hdead⟩ := h₁.dead rfl
    refine wp_mono (fresh_spec hrt requestID (TrimSpace previous.MicroVMID) w₁) fun r w₂ h₂ => ?_
    rcases h₂.shape with ⟨hlog, herror⟩ | ⟨later, payload, hlog, hlater⟩
    · exact ⟨Or.inl ⟨hlog ▸ h₁.retires, herror⟩, hlog ▸ h₁.deletes, h₂.ends, h₂.accepts, h₂.bound⟩
    · refine ⟨Or.inr ⟨later, payload, w₁.clock, w₁.log, hlog, h₁.retires, hlater, resp, hlast, hdead⟩,
        fun l b session t hsplit => ?_, h₂.ends, h₂.accepts, h₂.bound⟩
      rw [hlog, List.append_cons] at hsplit
      obtain ⟨l', hl'⟩ := split_right (P := Event.Deletes) hsplit trivial fun e he => by
        rcases List.mem_append.1 he with he | he
        · exact (hlater e he).quiet.2.2
        · obtain rfl := List.mem_singleton.1 he
          exact fun h => h
      exact h₁.deletes l' b session t hl'
  · exact ⟨Or.inl ⟨h₁.retires, e, rfl⟩, h₁.deletes, fun heq => h₁.ends (congrArg _ (Except.error.inj heq)),
      fun _ heq => (by cases heq), fun _ heq => (by cases heq)⟩

/-- What a preparation is to do. It runs one MicroVM at most, and only once the response that ends its wait
    has named the previous MicroVM and told of its end. -/
structure Replaces (rt : Runtime) (binding : MicroVMSessionBinding) (vm : String)
    (r : Except DispatchError MicroVMDispatchResult) (log : List Event) : Prop where
  once : ∀ later payload time before, log = later ++ .asked (.run payload) time :: before →
    ∀ e ∈ later ++ before, ¬e.Runs
  ended : ∀ later payload time before, log = later ++ .asked (.run payload) time :: before →
    ∃ resp, lastAnswer before = some resp ∧ resp.vm = vm ∧ resp.Dead rt time
  deletes : DeletesOnly vm log
  quiet : .invoked ∉ log
  ends : r ≠ .error .outOfFuel
  bound : ∀ res, r = .ok res → Bound binding vm res.LifecycleRef

/-- The last response before a request to run is about this MicroVM. -/
def LastNames (vm : String) (log : List Event) : Prop :=
  ∀ later payload time before, log = later ++ .asked (.run payload) time :: before →
    ∀ resp, lastAnswer before = some resp → resp.vm = vm

theorem Prepared.quiet {vm : String} {r : Except DispatchError MicroVMDispatchResult} {w : World}
    (h : Prepared rt binding vm r w) : .invoked ∉ w.log := by
  intro hmem
  rcases h.shape with ⟨hretires, -⟩ | ⟨later, payload, time, before, hlog, hbefore, hlater, -⟩
  · exact (hretires _ hmem).1 rfl
  · rw [hlog] at hmem
    rcases List.mem_append.1 hmem with hmem | hmem
    · exact (hlater _ hmem).quiet.1 rfl
    · rcases List.mem_cons.1 hmem with heq | hmem
      · cases heq
      · exact (hbefore _ hmem).1 rfl

/-- All but the name of the MicroVM that has ended. -/
theorem Prepared.replaces {vm : String} {r : Except DispatchError MicroVMDispatchResult} {w : World}
    (h : Prepared rt binding vm r w) (hnames : LastNames vm w.log) : Replaces rt binding vm r w.log := by
  -- a request to run is the one of the shape
  have hplace : ∀ {later : List Event} {payload : microvmRunRequestPayload} {time : Int} {before : List Event},
      w.log = later ++ .asked (.run payload) time :: before →
      (∀ e ∈ later, ¬e.Runs) ∧ (∀ e ∈ before, ¬e.Runs) ∧
        ∃ resp, lastAnswer before = some resp ∧ resp.Dead rt time := by
    intro later payload time before hlog
    rcases h.shape with ⟨hretires, -⟩ | ⟨later', payload', time', before', hlog', hbefore, hlater, hdead⟩
    · refine absurd trivial (hretires (.asked (.run payload) time) ?_).2
      rw [hlog]
      exact List.mem_append_right _ List.mem_cons_self
    · obtain ⟨rfl, heq, rfl⟩ := split_unique (P := Event.Runs) (hlog'.symm.trans hlog) trivial
        (fun e he => (hlater e he).quiet.2.1) fun e he => (hbefore e he).2
      obtain ⟨-, rfl⟩ := Event.asked.inj heq
      exact ⟨fun e he => (hlater e he).quiet.2.1, fun e he => (hbefore e he).2, hdead⟩
  refine ⟨fun later payload time before hlog e he => ?_, fun later payload time before hlog => ?_, h.deletes,
    h.quiet, h.ends, h.bound⟩
  · obtain ⟨hlater, hbefore, -⟩ := hplace hlog
    rcases List.mem_append.1 he with he | he
    · exact hlater e he
    · exact hbefore e he
  · obtain ⟨-, -, resp, hlast, hdead⟩ := hplace hlog
    exact ⟨resp, hlast, hnames later payload time before hlog resp hlast, hdead⟩

/-- **A preparation replaces the previous MicroVM** if, and only if, the response that ends the wait for it is
    about it. -/
theorem fresh_run_replaces_iff (rt : Runtime) (hrt : rt.Documented) (sv : Services)
    (d : HTTPControllerDispatcher) (binding : MicroVMSessionBinding) (requestID : String)
    (previous : MicroVMLifecycleRef) (clock : Int) (ch : Nat → Choice) :
    let out := (PrepareFreshMicroVMRun rt sv d binding requestID previous).run worldEnv ch ⟨clock, []⟩
    Replaces rt binding (TrimSpace previous.MicroVMID) out.1 out.2.log ↔
      LastNames (TrimSpace previous.MicroVMID) out.2.log := by
  intro out
  have h : Prepared rt binding (TrimSpace previous.MicroVMID) out.1 out.2 :=
    run_of_wp (PrepareFreshMicroVMRun_spec hrt requestID previous clock) ch
  clear_value out
  refine ⟨fun hreplaces later payload time before hlog resp hlast => ?_, fun hnames => h.replaces hnames⟩
  obtain ⟨resp', hlast', hname, -⟩ := hreplaces.ended later payload time before hlog
  obtain rfl := Option.some.inj (hlast.symm.trans hlast')
  exact hname

/-! ## Another MicroVM of the session -/

def sampleRuntime : Runtime where
  StateRunning := "running"
  StateReady := "ready"
  StateSuspended := "suspended"
  HookRun := "run"
  IsTerminalState state := state == "terminated" || state == "failed"

theorem sampleRuntime_documented : sampleRuntime.Documented where
  running := by decide
  ready := by decide
  terminal := by
    intro state h
    simp only [sampleRuntime, Bool.or_eq_true, beq_iff_eq] at h
    rcases h with rfl | rfl <;> decide
  suspended := by decide

def sampleStatusServices : Services where
  sha256 _ := Vector.replicate 32 0
  Quote s := s
  Valid _ := true
  DecodeSection _ := none
  DecodeSoul _ := none
  canonicalCapabilities _ := .emptyArray
  ValidateSessionStatus _ := true

def sampleDispatcher : HTTPControllerDispatcher := ⟨"i", "1", "r", "l", "n", [], [], 60⟩

def sampleVMBinding : MicroVMSessionBinding := ⟨"i", "r", "a", "c", ""⟩

/-- The MicroVM "p" of the session. -/
def samplePrevious : MicroVMLifecycleRef where
  SourceOfTruth := MicroVMSourceOfTruth
  TenantID := "slug:i"
  Namespace := MicroVMNamespace
  SessionID := "c"
  LifecycleState := "running"
  DesiredState := "running"
  MicroVMID := "p"
  ImageRef := "i"
  ImageVersion := "1"
  ExecutionRoleARN := "r"
  MaximumDurationSeconds := 60
  RuntimeLogGroup := "l"
  NetworkConnectorRef := "n"
  LastAction := "run"
  LastTransition := ⟨0, .utc⟩
  RegistryVersion := 1
  UpdatedAt := ⟨1, .utc⟩

/-- A response about a MicroVM, without an expiry. -/
def sampleResponse (vm state : String) : ControllerResponse where
  TenantID := "slug:i"
  Namespace := MicroVMNamespace
  SessionID := "c"
  State := state
  DesiredState := state
  LifecycleState := state
  ProviderMicroVMID := vm
  MicroVMID := vm
  Command := "get"
  LastAction := "get"
  LastTransition := ⟨0, .utc⟩
  RegistryVersion := 1
  ExpiresAt := ⟨0, .utc⟩
  Error := none

/-- The MicroVM "p" is running; the answer to the request to terminate it is about another one, which has
    ended; the request to run fails. -/
def sampleAnswers : Nat → Choice
  | 0 => ⟨0, none, .ok (sampleResponse "p" "running"), .error ""⟩
  | 2 => ⟨0, none, .ok (sampleResponse "q" "terminated"), .error ""⟩
  | _ => ⟨0, none, .error (.failed ""), .error ""⟩

theorem sampleAnswers_log :
    ((PrepareFreshMicroVMRun sampleRuntime sampleStatusServices sampleDispatcher sampleVMBinding "x"
        samplePrevious).run worldEnv sampleAnswers ⟨1, []⟩).2.log =
      [.asked (sampleDispatcher.runRequest sampleVMBinding) 1,
        .answered (.delete "c") (sampleResponse "q" "terminated") 1, .asked (.delete "c") 1,
        .answered (.get "c") (sampleResponse "p" "running") 1, .asked (.get "c") 1] := by
  rfl

/-- **A response about another MicroVM is taken for the end of the previous one**. -/
theorem not_fresh_run_replaces :
    ¬∀ (rt : Runtime) (sv : Services) (d : HTTPControllerDispatcher) (binding : MicroVMSessionBinding)
      (requestID : String) (previous : MicroVMLifecycleRef) (clock : Int) (ch : Nat → Choice), rt.Documented →
      let out := (PrepareFreshMicroVMRun rt sv d binding requestID previous).run worldEnv ch ⟨clock, []⟩
      Replaces rt binding (TrimSpace previous.MicroVMID) out.1 out.2.log := by
  intro h
  have hreplaces := h sampleRuntime sampleStatusServices sampleDispatcher sampleVMBinding "x" samplePrevious 1
    sampleAnswers sampleRuntime_documented
  obtain ⟨resp, hlast, hname, -⟩ := hreplaces.ended [] _ 1 _ (sampleAnswers_log.trans rfl)
  obtain rfl := Option.some.inj hlast
  revert hname
  decide

/-- The MicroVM "p" has ended. -/
def sampleEnded : Nat → Choice
  | 0 => ⟨0, none, .ok (sampleResponse "p" "terminated"), .error ""⟩
  | _ => ⟨0, none, .error (.failed ""), .error ""⟩

theorem fresh_run_replaces_iff_sample :
    let out := (PrepareFreshMicroVMRun sampleRuntime sampleStatusServices sampleDispatcher sampleVMBinding "x"
      samplePrevious).run worldEnv sampleEnded ⟨1, []⟩
    (∃ later payload time before, out.2.log = later ++ .asked (.run payload) time :: before) ∧
      Replaces sampleRuntime sampleVMBinding (TrimSpace samplePrevious.MicroVMID) out.1 out.2.log := by
  have hlog : ((PrepareFreshMicroVMRun sampleRuntime sampleStatusServices sampleDispatcher sampleVMBinding "x"
      samplePrevious).run worldEnv sampleEnded ⟨1, []⟩).2.log =
        [.asked (sampleDispatcher.runRequest sampleVMBinding) 1,
          .answered (.get "c") (sampleResponse "p" "terminated") 1, .asked (.get "c") 1] := rfl
  refine ⟨⟨[], _, 1, _, hlog⟩, (fresh_run_replaces_iff sampleRuntime sampleRuntime_documented
    sampleStatusServices sampleDispatcher sampleVMBinding "x" samplePrevious 1 sampleEnded).2 ?_⟩
  intro later payload time before hsplit resp hlast
  obtain ⟨-, -, rfl⟩ := split_unique (P := Event.Runs) (a := []) (hlog.symm.trans hsplit) trivial
    (fun e he => by cases he) fun e he => by
      simp only [List.mem_cons, List.not_mem_nil, or_false] at he
      rcases he with rfl | rfl <;> exact fun h => h
  obtain rfl := Option.some.inj hlast
  decide

end HTTPControllerDispatcher

end LesserHost.HostedGenesis.Dispatch
