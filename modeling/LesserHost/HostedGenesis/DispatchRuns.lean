import LesserHost.HostedGenesis.Dispatch

set_option autoImplicit false

/-! # No turn to a dead MicroVM

Each program is specified by what it adds to the log (`Adds`), for all choices of the world: all responses, all
times between them, and all failures. The two loops are specified by induction on their rounds; the entries put
the specifications together.

A response is dead at a time if its session is terminal, or has expired as `microVMReconcileIsTerminal` judges
it. What is dead stays dead. -/

namespace LesserHost.HostedGenesis.Dispatch

open LesserHost.Go Prog

/-! ## Responses -/

/-- What the documentation of the runtime says of its states. -/
structure Runtime.Documented (rt : Runtime) : Prop where
  running : rt.IsTerminalState rt.StateRunning = false
  ready : rt.IsTerminalState rt.StateReady = false
  terminal : ∀ state, rt.IsTerminalState state = true → TrimSpace state = state
  suspended : TrimSpace rt.StateSuspended = rt.StateSuspended

variable (rt : Runtime)

/-- The response reports a running or ready session. -/
def ControllerResponse.Invokable (resp : ControllerResponse) : Prop := microVMInvokableState rt resp.state = true

/-- Terminal, or expired at its last transition or else at this time. -/
def ControllerResponse.Dead (resp : ControllerResponse) (time : Int) : Prop :=
  microVMReconcileIsTerminal rt resp.state resp.ExpiresAt (resp.observedAt ⟨time, .utc⟩) = true

instance (resp : ControllerResponse) : Decidable (resp.Invokable rt) := inferInstanceAs (Decidable (_ = true))

instance (resp : ControllerResponse) (time : Int) : Decidable (resp.Dead rt time) :=
  inferInstanceAs (Decidable (_ = true))

variable {rt}

theorem isTerminal_iff {state : String} {expiresAt observedAt : Time} :
    microVMReconcileIsTerminal rt state expiresAt observedAt = true ↔
      rt.IsTerminalState state = true ∨ expiresAt.IsZero = false ∧ expiresAt.nanos ≤ observedAt.nanos := by
  unfold microVMReconcileIsTerminal
  by_cases hstate : rt.IsTerminalState state = true
  · simp [hstate]
  · by_cases hzero : expiresAt.IsZero = true
    · simp [hstate, hzero]
    · simp only [hstate, hzero, Time.Before, Bool.or_eq_true, decide_eq_true_eq, beq_iff_eq, if_false,
        Bool.false_eq_true, false_or, true_and]
      omega

theorem observedAt_mono {resp : ControllerResponse} {s t : Int} (h : s ≤ t) :
    (resp.observedAt ⟨s, .utc⟩).nanos ≤ (resp.observedAt ⟨t, .utc⟩).nanos := by
  unfold ControllerResponse.observedAt
  split
  · exact h
  · exact Int.le_refl _

theorem ControllerResponse.Dead.mono {resp : ControllerResponse} {s t : Int} (h : resp.Dead rt s)
    (hle : s ≤ t) : resp.Dead rt t := by
  rw [ControllerResponse.Dead, isTerminal_iff] at h ⊢
  rcases h with hstate | ⟨hset, hexpired⟩
  · exact Or.inl hstate
  · exact Or.inr ⟨hset, hexpired.trans (observedAt_mono hle)⟩

theorem Runtime.Documented.not_terminal (hrt : rt.Documented) {resp : ControllerResponse}
    (h : resp.Invokable rt) : rt.IsTerminalState resp.state = false := by
  rw [ControllerResponse.Invokable, microVMInvokableState, Bool.or_eq_true, beq_iff_eq, beq_iff_eq] at h
  rcases h with h | h
  · rw [h, hrt.running]
  · rw [h, hrt.ready]

/-! ## The log -/

/-- The last response. -/
def lastAnswer : List Event → Option ControllerResponse
  | [] => none
  | .answered _ resp _ :: _ => some resp
  | _ :: log => lastAnswer log

/-- Events of this kind were added, and time went on. -/
structure Adds (P : Event → Prop) (w w' : World) : Prop where
  log : ∃ evs, w'.log = evs ++ w.log ∧ ∀ e ∈ evs, P e
  clock : w.clock ≤ w'.clock

section Adds

variable {P Q : Event → Prop} {w w' w'' : World}

theorem Adds.refl (w : World) : Adds P w w := ⟨⟨[], rfl, fun _ h => by cases h⟩, Int.le_refl _⟩

theorem Adds.trans (h : Adds P w w') (h' : Adds P w' w'') : Adds P w w'' := by
  obtain ⟨⟨evs, hlog, hevs⟩, hclock⟩ := h
  obtain ⟨⟨evs', hlog', hevs'⟩, hclock'⟩ := h'
  refine ⟨⟨evs' ++ evs, by rw [hlog', hlog, List.append_assoc], fun e he => ?_⟩, hclock.trans hclock'⟩
  rcases List.mem_append.1 he with he | he
  · exact hevs' e he
  · exact hevs e he

theorem Adds.mono (h : Adds P w w') (hPQ : ∀ e, P e → Q e) : Adds Q w w' := by
  obtain ⟨⟨evs, hlog, hevs⟩, hclock⟩ := h
  exact ⟨⟨evs, hlog, fun e he => hPQ e (hevs e he)⟩, hclock⟩

/-- Nothing but time. -/
theorem Adds.quiet (hlog : w'.log = w.log) (hclock : w.clock ≤ w'.clock) : Adds P w w' :=
  ⟨⟨[], hlog, fun _ h => by cases h⟩, hclock⟩

end Adds

/-- Nothing was added. -/
def Still (w w' : World) : Prop := w'.log = w.log ∧ w.clock ≤ w'.clock

theorem Still.adds {P : Event → Prop} {w w' : World} (h : Still w w') : Adds P w w' := Adds.quiet h.1 h.2

theorem Still.trans {w w' w'' : World} (h : Still w w') (h' : Still w' w'') : Still w w'' :=
  ⟨h'.1.trans h.1, h.2.trans h'.2⟩

/-! ## Operations -/

section Operations

variable {α : Type} {Q : Except DispatchError α → World → Prop} {w : World}

/-- The clock is read. -/
theorem wp_now {f : Time → Call α}
    (h : ∀ w', Still w w' → wp worldEnv (f ⟨w'.clock, .utc⟩) Q w') : wp worldEnv (now >>= f) Q w := by
  rw [now, perform_bind, wp_op]
  intro c
  refine h (w.after c) ⟨rfl, ?_⟩
  simp only [World.after]
  omega

theorem wp_check {c : Prop} [Decidable c] {e : DispatchError} {f : Unit → Call α}
    (h : c → wp worldEnv (f ()) Q w) (hfail : ¬c → Q (.error e) w) :
    wp worldEnv (check c e >>= f) Q w := by
  unfold check
  split
  · next hc => exact h hc
  · next hc => exact (wp_fail _).2 (hfail hc)

theorem wp_validated {x : Except String Unit} {f : Unit → Call α}
    (h : x = .ok () → wp worldEnv (f ()) Q w) (hfail : ∀ err, x = .error err → Q (.error (.invalid err)) w) :
    wp worldEnv (validated x >>= f) Q w := by
  cases x with
  | error err => exact (wp_fail _).2 (hfail err rfl)
  | ok u => exact h rfl

/-- The time at which a response is judged lies after its receipt. -/
theorem wp_terminal {resp : ControllerResponse} {f : Bool → Call α}
    (h : ∀ w', Still w w' → wp worldEnv (f (decide (resp.Dead rt w'.clock))) Q w') :
    wp worldEnv (microVMResponseIsTerminal rt resp >>= f) Q w := by
  unfold microVMResponseIsTerminal
  rw [bind_assoc]
  refine wp_now fun w' hw' => ?_
  have hdead : microVMReconcileIsTerminal rt resp.state resp.ExpiresAt (resp.observedAt ⟨w'.clock, .utc⟩)
      = decide (resp.Dead rt w'.clock) := Bool.decide_eq_true.symm
  rw [pure_eq, ret_bind, hdead]
  exact h w' hw'

/-- A response that carries an error fails the call. -/
theorem wp_request {r : Request} {f : ControllerResponse → Call α}
    (h : ∀ (resp : ControllerResponse) (elapsed : Nat), resp.failure = none →
      wp worldEnv (f resp) Q ⟨w.clock + elapsed,
        .answered r resp (w.clock + elapsed) :: .asked r w.clock :: w.log⟩)
    (hlost : ∀ e (elapsed : Nat), Q (.error (.call e)) ⟨w.clock + elapsed, .asked r w.clock :: w.log⟩)
    (hfail : ∀ (resp : ControllerResponse) (elapsed : Nat) e, resp.failure = some e →
      Q (.error (.call (.safe e))) ⟨w.clock + elapsed,
        .answered r resp (w.clock + elapsed) :: .asked r w.clock :: w.log⟩) :
    wp worldEnv (doControllerRequest r >>= f) Q w := by
  unfold doControllerRequest
  rw [perform_bind, op_bind, wp_op]
  intro c
  simp only [worldEnv, World.handle, World.after]
  cases c.answer with
  | error e => exact (wp_fail _).2 (hlost e c.elapsed)
  | ok resp =>
      cases hfailure : resp.failure with
      | some e =>
          simp only [hfailure]
          exact (wp_fail _).2 (hfail resp c.elapsed e hfailure)
      | none =>
          simp only [hfailure]
          exact h resp c.elapsed hfailure

/-- A round begins before the deadline, and takes an interval. -/
theorem wp_awaitRound {deadline : Time} {what late : String} {f : Unit → Call α}
    (h : ∀ w', w'.log = w.log → w.clock ≤ deadline.nanos →
      w.clock + microvmControllerReadyPollInterval ≤ w'.clock → wp worldEnv (f ()) Q w')
    (hfail : ∀ w' text, Still w w' → Q (.error (.wait text)) w') :
    wp worldEnv (awaitRound deadline what late >>= f) Q w := by
  have hafter : ∀ (w : World) (c : Choice), Still w (w.after c) := by
    intro w c
    refine ⟨rfl, ?_⟩
    simp only [World.after]
    omega
  unfold awaitRound
  rw [bind_assoc, perform_bind, wp_op]
  intro c
  simp only [worldEnv, World.handle]
  cases c.cancelled with
  | some err => exact (wp_fail _).2 (hfail _ _ (hafter w c))
  | none =>
      simp only [bind_assoc]
      refine wp_now fun w₁ hw₁ => wp_check (fun hnow => ?_) fun _ => hfail _ _ ((hafter w c).trans hw₁)
      rw [perform_bind, wp_op]
      intro c'
      simp only [worldEnv, World.handle]
      have hw := (hafter w c).trans hw₁
      cases c'.cancelled with
      | some err => exact (wp_fail _).2 (hfail _ _ (hw.trans (hafter w₁ c')))
      | none =>
          simp only [pure_eq, ret_bind]
          refine h _ hw.1 ?_ ?_
          · have hle := hw.2
            simp only [Time.After, decide_eq_false_iff_not] at hnow
            omega
          · have hle := hw.2
            show w.clock + microvmControllerReadyPollInterval ≤ _
            simp only
            omega

end Operations

/-! ## Loops -/

/-- The call ended with `ErrMicroVMRelaunchRequired`. -/
def Relaunch {α : Type} (r : Except DispatchError α) : Prop := ∃ state, r = .error (.relaunchRequired state)

/-- The event is no response of a dead session that is neither running nor ready. -/
def Event.Live (rt : Runtime) : Event → Prop
  | .answered _ resp time => resp.failure = none → resp.Dead rt time → resp.Invokable rt
  | _ => True

/-- Nothing but looking at the session. -/
def Event.Looks : Event → Prop
  | .asked (.get _) _ => True
  | .answered (.get _) _ _ => True
  | _ => False

/-- What a program that waits for a session does: it looks at it, gives up on a dead one, and returns the last
    response, which is invokable. -/
structure Waited (rt : Runtime) (w : World) (r : Except DispatchError ControllerResponse) (w' : World) :
    Prop where
  adds : Adds (fun e => e.Looks ∧ (e.Live rt ∨ Relaunch r)) w w'
  ends : r ≠ .error .outOfFuel
  accepts : ∀ resp, r = .ok resp → lastAnswer w'.log = some resp ∧ resp.Invokable rt

theorem Waited.of_error {w w' : World} {e : DispatchError}
    (h : Adds (fun ev => ev.Looks ∧ (ev.Live rt ∨ Relaunch (.error e : Except DispatchError ControllerResponse)))
      w w') (he : e ≠ .outOfFuel) : Waited rt w (.error e) w' :=
  ⟨h, fun heq => he (Except.error.inj heq), fun _ heq => by cases heq⟩

/-- One more look before. -/
theorem Waited.after {w w' w'' : World} {r : Except DispatchError ControllerResponse} (h : Waited rt w' r w'')
    (hadds : Adds (fun e => e.Looks ∧ e.Live rt) w w') : Waited rt w r w'' :=
  ⟨(hadds.mono fun _ he => ⟨he.1, Or.inl he.2⟩).trans h.adds, h.ends, h.accepts⟩

/-- The events of a request for the session. -/
theorem adds_get {P : Event → Prop} {session : String} {w w₁ w' : World} {resp : ControllerResponse} {s t : Int}
    (hlog : w₁.log = w.log) (hw' : w'.log = .answered (.get session) resp t :: .asked (.get session) s :: w₁.log)
    (hclock : w.clock ≤ w'.clock) (hanswer : P (.answered (.get session) resp t))
    (hasked : P (.asked (.get session) s)) : Adds P w w' := by
  refine ⟨⟨[.answered (.get session) resp t, .asked (.get session) s], by rw [hw', hlog]; rfl, ?_⟩, hclock⟩
  intro e he
  simp only [List.mem_cons, List.not_mem_nil, or_false] at he
  rcases he with rfl | rfl
  · exact hanswer
  · exact hasked

/-- The step and the run of the loop, by induction on its rounds: none of them begins after the deadline. -/
theorem pollInvokable_spec (session : String) (deadline : Time) (n : Nat) (state : String) (w : World)
    (hfuel : deadline.nanos < w.clock + n * microvmControllerReadyPollInterval) :
    wp worldEnv (pollInvokable rt session deadline (n + 1) state) (Waited rt w) w := by
  have hinterval : microvmControllerReadyPollInterval = 250000000 := rfl
  induction n generalizing state w with
  | zero =>
      unfold pollInvokable
      refine wp_awaitRound (fun w₁ hlog hdeadline hclock => ?_) fun w' text hw' =>
        Waited.of_error hw'.adds (by simp)
      push_cast at hfuel
      omega
  | succ n ih =>
      unfold pollInvokable
      refine wp_awaitRound (fun w₁ hlog hdeadline hclock => ?_) fun w' text hw' =>
        Waited.of_error hw'.adds (by simp)
      refine wp_request (fun resp elapsed hfailure => ?_) (fun e elapsed => ?_)
        fun resp elapsed e hfailure => ?_
      · have hget : ∀ {P : Event → Prop} {w' : World},
            Still ⟨w₁.clock + elapsed,
              .answered (.get session) resp (w₁.clock + elapsed) :: .asked (.get session) w₁.clock :: w₁.log⟩ w' →
            P (.answered (.get session) resp (w₁.clock + elapsed)) → P (.asked (.get session) w₁.clock) →
            Adds P w w' := fun hw' => adds_get hlog hw'.1 (by have := hw'.2; simp only at this; omega)
        refine wp_ite (fun hinvokable => (wp_pure _).2 ?_) fun hnot => ?_
        · exact ⟨hget ⟨rfl, Int.le_refl _⟩ ⟨trivial, Or.inl fun _ _ => hinvokable⟩ ⟨trivial, Or.inl trivial⟩,
            by simp, fun _ heq => by cases heq; exact ⟨rfl, hinvokable⟩⟩
        · refine wp_terminal fun w₂ hw₂ => wp_check (fun halive => ?_) fun hdead => ?_
          · have hlive : Event.Live rt (.answered (.get session) resp (w₁.clock + elapsed)) := by
              intro _ hdead
              exact absurd (hdead.mono hw₂.2) (of_decide_eq_false halive)
            have hadds : Adds (fun e => e.Looks ∧ e.Live rt) w w₂ :=
              hget hw₂ ⟨trivial, hlive⟩ ⟨trivial, trivial⟩
            have hle := hw₂.2
            simp only at hle
            refine wp_mono (ih resp.state w₂ ?_) fun r w' h => h.after hadds
            push_cast at hfuel
            rw [hinterval] at hfuel hclock ⊢
            omega
          · exact Waited.of_error (hget hw₂ ⟨trivial, Or.inr ⟨_, rfl⟩⟩ ⟨trivial, Or.inl trivial⟩) (by simp)
      · exact Waited.of_error ⟨⟨[.asked (.get session) w₁.clock], by rw [← hlog]; rfl, fun e he => by
          cases List.mem_singleton.1 he; exact ⟨trivial, Or.inl trivial⟩⟩, by simp only; omega⟩ (by simp)
      · exact Waited.of_error (adds_get hlog rfl (by simp only; omega)
          ⟨trivial, Or.inl fun hnone => absurd (hfailure.symm.trans hnone) (by simp)⟩
          ⟨trivial, Or.inl trivial⟩) (by simp)

/-- A deadline set at a time is out of reach of the rounds that are left for it. -/
theorem deadline_reached {w w' : World} (h : w.clock ≤ w'.clock) :
    ((⟨w.clock, .utc⟩ : Time).Add microvmControllerReadyTimeout).nanos
      < w'.clock + (241 : Nat) * microvmControllerReadyPollInterval := by
  simp only [Time.Add, microvmControllerReadyTimeout, microvmControllerReadyPollInterval, Second]
  omega

/-- The wait for a session, from the response it starts with. -/
theorem waitForControllerMicroVMInvokable_spec (session : String) (resp : ControllerResponse) (w : World)
    (hlast : lastAnswer w.log = some resp) :
    wp worldEnv (waitForControllerMicroVMInvokable rt session resp) (fun r w' => Waited rt w r w' ∧
      (resp.Dead rt w.clock → ¬resp.Invokable rt → Relaunch r)) w := by
  unfold waitForControllerMicroVMInvokable
  refine wp_ite (fun hinvokable => (wp_pure _).2 ?_) fun hnot => ?_
  · exact ⟨⟨Adds.refl w, by simp, fun _ heq => by cases heq; exact ⟨hlast, hinvokable⟩⟩,
      fun _ hnot => absurd hinvokable hnot⟩
  · refine wp_terminal fun w₁ hw₁ => wp_check (fun halive => ?_) fun hdead => ?_
    · refine wp_now fun w₂ hw₂ => ?_
      refine wp_mono (pollInvokable_spec session _ 241 _ w₂ (deadline_reached (Int.le_refl _))) fun r w' h => ?_
      exact ⟨h.after (hw₁.trans hw₂).adds, fun hdead _ =>
        absurd (hdead.mono hw₁.2) (of_decide_eq_false halive)⟩
    · exact ⟨Waited.of_error hw₁.adds (by simp), fun _ _ => ⟨_, rfl⟩⟩

/-! ## Turns -/

/-- The response reports a session that is running or ready, and that is not terminal. -/
def Accepts (rt : Runtime) (log : List Event) : Prop :=
  ∃ resp, lastAnswer log = some resp ∧ resp.Invokable rt ∧ rt.IsTerminalState resp.state = false

/-- What is said of a call and its log: it succeeds, and sends a turn, only after it has accepted the last
    response, and a dead session makes it ask for a relaunch. -/
structure TurnSafe {α : Type} (rt : Runtime) (r : Except DispatchError α) (log : List Event) : Prop where
  accepts : ∀ res, r = .ok res → Accepts rt log
  invokes : ∀ later before, log = later ++ .invoked :: before → Accepts rt before
  relaunches : ∀ e ∈ log, ¬e.Live rt → Relaunch r

section Turns

variable {α : Type} {log : List Event}

theorem TurnSafe.of_error {e : DispatchError}
    (h : ∀ ev ∈ log, ev ≠ .invoked ∧ (ev.Live rt ∨ Relaunch (.error e : Except DispatchError α))) :
    TurnSafe rt (.error e : Except DispatchError α) log where
  accepts _ heq := by cases heq
  invokes later before hlog := by
    have hmem : Event.invoked ∈ log := by
      rw [hlog]
      exact List.mem_append_right _ List.mem_cons_self
    exact absurd rfl (h _ hmem).1
  relaunches ev hev hdead := (h ev hev).2.resolve_left hdead

end Turns

namespace HTTPControllerDispatcher

variable {sv : Services} {d : HTTPControllerDispatcher} {binding : MicroVMSessionBinding} {w : World}

theorem MicroVMLifecycleRefFromResponse_spec (resp : ControllerResponse) (observedAt : Time) :
    wp worldEnv (MicroVMLifecycleRefFromResponse sv binding resp observedAt) (fun r w' => Still w w' ∧
      r ≠ .error .outOfFuel ∧ ∀ ref, r = .ok ref → ref.Validate sv binding = .ok () ∧
        ∃ observedAt, ref = lifecycleRef binding resp observedAt) w := by
  have hrest : ∀ (observedAt : Time) (w₁ : World), Still w w₁ →
      wp worldEnv (validated ((lifecycleRef binding resp observedAt).Validate sv binding) >>= fun _ =>
        pure (lifecycleRef binding resp observedAt) : Call MicroVMLifecycleRef) (fun r w' => Still w w' ∧
          r ≠ .error .outOfFuel ∧ ∀ ref, r = .ok ref → ref.Validate sv binding = .ok () ∧
            ∃ observedAt, ref = lifecycleRef binding resp observedAt) w₁ := by
    intro observedAt w₁ hw₁
    refine wp_validated (fun hvalid => (wp_pure _).2 ⟨hw₁, by simp, fun ref heq => ?_⟩) fun err _ =>
      ⟨hw₁, by simp, fun _ heq => by cases heq⟩
    cases heq
    exact ⟨hvalid, observedAt, rfl⟩
  unfold MicroVMLifecycleRefFromResponse
  split
  · exact wp_now fun w₁ hw₁ => hrest _ w₁ hw₁
  · exact hrest _ w ⟨rfl, Int.le_refl _⟩

theorem resultOf_spec (resp : ControllerResponse) :
    wp worldEnv (resultOf sv d binding resp) (fun r w' => Still w w' ∧ r ≠ .error .outOfFuel ∧
      ∀ res, r = .ok res → res.SessionID = TrimSpace resp.SessionID ∧ ∃ ref observedAt,
        res.LifecycleRef = d.decorateLifecycleRef ref ∧ ref.Validate sv binding = .ok () ∧
        ref = lifecycleRef binding resp observedAt) w := by
  unfold resultOf
  refine wp_now fun w₁ hw₁ => wp_bind_of (MicroVMLifecycleRefFromResponse_spec resp _)
    (fun ref w₂ h => (wp_pure _).2 ?_) fun e w₂ h => ?_
  · obtain ⟨hw₂, -, href⟩ := h
    refine ⟨hw₁.trans hw₂, by simp, fun res heq => ?_⟩
    obtain ⟨hvalid, observedAt, hwritten⟩ := href ref rfl
    cases heq
    exact ⟨rfl, ref, observedAt, rfl, hvalid, hwritten⟩
  · exact ⟨hw₁.trans h.1, fun heq => h.2.1 (congrArg _ (Except.error.inj heq)), fun _ heq => by cases heq⟩

/-- The checks that follow a turn, and those before it, touch nothing. -/
theorem wp_validateCall {α : Type} {Q : Except DispatchError α → World → Prop} {requestID : String}
    {f : Unit → Call α} (h : wp worldEnv (f ()) Q w)
    (hfail : ∀ e, e ≠ .outOfFuel → Q (.error e) w) :
    wp worldEnv (validateCall binding requestID >>= f) Q w := by
  unfold validateCall
  rw [bind_assoc]
  refine wp_validated (fun _ => ?_) fun err _ => hfail _ (by simp)
  exact wp_check (fun _ => h) fun _ => hfail _ (by simp)

/-- A first response that is dead, and not running or ready, is the reason to give up. -/
theorem first_live {q : Request} {first : ControllerResponse} {t : Int} :
    Event.Live rt (.answered q first t) ∨ first.Dead rt t ∧ ¬first.Invokable rt := by
  by_cases hlive : Event.Live rt (.answered q first t)
  · exact Or.inl hlive
  · simp only [Event.Live, not_forall] at hlive
    obtain ⟨-, hdead, hnot⟩ := hlive
    exact Or.inr ⟨hdead, hnot⟩

end HTTPControllerDispatcher

end LesserHost.HostedGenesis.Dispatch
