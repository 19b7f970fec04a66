import LesserHost.Go.Text
import LesserHost.HostedGenesis.Session
import LesserHost.Lib.Program

set_option autoImplicit false

/-! # Dispatching turns to MicroVMs

`dispatch.go`: the control plane asks the controller for MicroVMs and sends turns to them. The session of a
binding is run, looked at, resumed and terminated by requests to the controller, and is waited for by polling.

The controller, the workload, the clock and the context of the call are the environment (`World`). It keeps a
log of the requests and of the responses with the times at which they came. The states of a session and their
validation are the runtime's (`Runtime`, `Services.ValidateSessionStatus`). A dispatcher is taken to be wired,
and a path to name the session of the binding however it is escaped. -/

namespace LesserHost.HostedGenesis.Dispatch

open LesserHost.Go

/-- The states of the runtime that Host names. -/
structure Runtime where
  StateRunning : String
  StateReady : String
  StateSuspended : String
  HookRun : String
  IsTerminalState : String → Bool

structure SafeError where
  Code : String
  text : String

structure ControllerResponse where
  TenantID : String
  Namespace : String
  SessionID : String
  State : String
  DesiredState : String
  LifecycleState : String
  ProviderMicroVMID : String
  MicroVMID : String
  Command : String
  LastAction : String
  LastTransition : Time
  RegistryVersion : Int
  ExpiresAt : Time
  Error : Option SafeError

structure LifecycleResult where
  Error : Option SafeError
  RequestID : String
  TenantID : String
  Namespace : String
  SessionID : String
  Hook : String
  State : String

/-- The body of `POST /microvms`. -/
structure microvmRunRequestPayload where
  SessionID : String
  ImageRef : String
  ImageVersion : String
  NetworkConnectorRef : String
  IngressNetworkConnectorRefs : List String
  EgressNetworkConnectorRefs : List String
  Metadata : List (String × String)
  MaximumDurationSeconds : Int

/-- The requests of `doControllerRequest`, with the session in the path. -/
inductive Request where
  | run (payload : microvmRunRequestPayload)
  | get (session : String)
  | resume (session : String)
  | delete (session : String)

/-- How a call can fail: with an error of the controller, or before there is one. -/
inductive CallError where
  | safe (e : SafeError)
  | failed (text : String)

inductive DispatchError where
  /-- `ErrMicroVMDispatchUnavailable` -/
  | unavailable
  /-- `ErrMicroVMRelaunchRequired` -/
  | relaunchRequired (state : String)
  /-- `ErrStaleMicroVMRegistryState` -/
  | staleRegistryState
  /-- a binding or a ref is refused -/
  | invalid (text : String)
  | call (e : CallError)
  | wait (text : String)
  | invoke (text : String)
  /-- no error of the code: a loop has not come to its end -/
  | outOfFuel

def CallError.text : CallError → String
  | .safe e => e.text
  | .failed text => text

def DispatchError.text : DispatchError → String
  | .unavailable => "hosted genesis microvm dispatch is unavailable"
  | .relaunchRequired state =>
      "hosted genesis microvm dispatch: hosted genesis microvm relaunch is required (state=" ++ state ++ ")"
  | .staleRegistryState => "hosted genesis microvm registry state is stale"
  | .invalid text => text
  | .call e => e.text
  | .wait text => "hosted genesis microvm dispatch: " ++ text
  | .invoke text => "hosted genesis microvm " ++ text
  | .outOfFuel => ""

inductive Op where
  | now
  /-- `ctx.Err()` -/
  | ctxErr
  /-- wait for the poll interval, or for the context -/
  | pause
  | request (r : Request)
  /-- the request that sends a turn to the workload -/
  | invoke

abbrev Op.Res : Op → Type
  | .now => Time
  | .ctxErr => Option String
  | .pause => Option String
  | .request _ => Except CallError ControllerResponse
  | .invoke => Except String LifecycleResult

abbrev Call := Prog Op Op.Res DispatchError

def now : Call Time := Prog.perform Op.now

def check (c : Prop) [Decidable c] (e : DispatchError) : Call Unit := if c then pure () else Prog.fail e

def validated (x : Except String Unit) : Call Unit :=
  match x with
  | .error err => Prog.fail (.invalid err)
  | .ok () => pure ()

/-! ## What a response tells -/

def firstNonEmptyString (values : List String) : String :=
  ((values.map TrimSpace).find? fun v => v != "").getD ""

def firstNonEmptyLifecycleState (values : List String) : String :=
  (values.find? fun v => TrimSpace v != "").getD ""

def firstNonZeroTimeValue (values : List Time) : Time :=
  ((values.find? fun t => !t.IsZero).map Time.UTC).getD ⟨0, .utc⟩

def ControllerResponse.state (resp : ControllerResponse) : String :=
  firstNonEmptyLifecycleState [resp.LifecycleState, resp.State]

/-- The MicroVM a response is about. -/
def ControllerResponse.vm (resp : ControllerResponse) : String :=
  firstNonEmptyString [resp.ProviderMicroVMID, resp.MicroVMID]

/-- A response counts as observed at its last transition, or else at the time of the clock. -/
def ControllerResponse.observedAt (resp : ControllerResponse) (now : Time) : Time :=
  if resp.LastTransition.IsZero then now.UTC else resp.LastTransition.UTC

/-- `resp.Error != nil && resp.Error.Code != ""` -/
def ControllerResponse.failure (resp : ControllerResponse) : Option SafeError :=
  resp.Error.filter fun e => e.Code != ""

variable (rt : Runtime)

def microVMInvokableState (state : String) : Bool := state == rt.StateRunning || state == rt.StateReady

def microVMReconcileIsTerminal (state : String) (expiresAt observedAt : Time) : Bool :=
  if rt.IsTerminalState state then true
  else if expiresAt.IsZero then false
  else expiresAt.Before observedAt || expiresAt.nanos == observedAt.nanos

def microVMResponseIsTerminal (resp : ControllerResponse) : Call Bool := do
  let now ← now
  return microVMReconcileIsTerminal rt resp.state resp.ExpiresAt (resp.observedAt now)

/-! ## Polling -/

/-- In nanoseconds. -/
def microvmControllerReadyTimeout : Int := 60 * Second
def microvmControllerReadyPollInterval : Int := 250000000

/-- `doControllerRequest`, and the error of the envelope. -/
def doControllerRequest (r : Request) : Call ControllerResponse := do
  match ← (Prog.perform (Op.request r) : Call (Except CallError ControllerResponse)) with
  | .error e => Prog.fail (.call e)
  | .ok resp =>
      match resp.failure with
      | some e => Prog.fail (.call (.safe e))
      | none => return resp

/-- How a round of a loop begins: the context, the deadline, and the wait. -/
def awaitRound (deadline : Time) (what late : String) : Call Unit := do
  match ← (Prog.perform Op.ctxErr : Call (Option String)) with
  | some err => Prog.fail (.wait (what ++ ": " ++ err))
  | none => do
      let now ← now
      check (now.After deadline = false) (.wait late)
      match ← (Prog.perform Op.pause : Call (Option String)) with
      | some err => Prog.fail (.wait (what ++ ": " ++ err))
      | none => return ()

/-- The rounds that fit before a deadline: each of them takes an interval at least. -/
def pollRounds : Nat := 242

/-- The loop of `waitForControllerMicroVMTerminal`. -/
def pollTerminal (session : String) (deadline : Time) : Nat → ControllerResponse → Call ControllerResponse
  | 0, _ => Prog.fail .outOfFuel
  | n + 1, resp => do
      let terminal ← microVMResponseIsTerminal rt resp
      if terminal then return resp
      else do
        awaitRound deadline "wait for termination" "microvm did not terminate"
        let resp ← doControllerRequest (.get session)
        pollTerminal session deadline n resp

def waitForControllerMicroVMTerminal (session : String) (resp : ControllerResponse) :
    Call ControllerResponse := do
  let now ← now
  pollTerminal rt session (now.Add microvmControllerReadyTimeout) pollRounds resp

/-- The loop of `waitForControllerMicroVMInvokable`. -/
def pollInvokable (session : String) (deadline : Time) : Nat → String → Call ControllerResponse
  | 0, _ => Prog.fail .outOfFuel
  | n + 1, state => do
      awaitRound deadline "wait for invokable"
        ("microvm did not reach invokable state (last state=" ++ state ++ ")")
      let resp ← doControllerRequest (.get session)
      if microVMInvokableState rt resp.state then return resp
      else do
        let terminal ← microVMResponseIsTerminal rt resp
        check (terminal = false) (.relaunchRequired resp.state)
        pollInvokable session deadline n resp.state

def waitForControllerMicroVMInvokable (session : String) (runResp : ControllerResponse) :
    Call ControllerResponse :=
  if microVMInvokableState rt runResp.state then return runResp
  else do
    let terminal ← microVMResponseIsTerminal rt runResp
    check (terminal = false) (.relaunchRequired runResp.state)
    let now ← now
    pollInvokable rt session (now.Add microvmControllerReadyTimeout) pollRounds runResp.state

structure MicroVMDispatchResult where
  LifecycleRef : MicroVMLifecycleRef
  SessionID : String

structure MicroVMReconcileResult where
  LifecycleRef : MicroVMLifecycleRef
  SessionID : String
  CannotCompletePendingTurn : Bool

/-- What is configured. -/
structure HTTPControllerDispatcher where
  imageRef : String
  imageVersion : String
  executionRoleARN : String
  runtimeLogGroup : String
  networkConnRef : String
  ingressConnRefs : List String
  egressConnRefs : List String
  maxDuration : Int

variable (sv : Services)

/-- The ref a response is written down as, before it is validated. -/
def lifecycleRef (binding : MicroVMSessionBinding) (resp : ControllerResponse) (observedAt : Time) :
    MicroVMLifecycleRef :=
  let orElse := fun (s t : String) => if s = "" then t else s
  normalizeMicroVMLifecycleRef {
    SourceOfTruth := MicroVMSourceOfTruth
    TenantID := orElse (TrimSpace resp.TenantID) binding.TenantID
    Namespace := orElse (TrimSpace resp.Namespace) MicroVMNamespace
    SessionID := orElse (TrimSpace resp.SessionID) (TrimSpace binding.ConversationID)
    LifecycleState := resp.state
    DesiredState := orElse resp.DesiredState resp.state
    MicroVMID := resp.vm
    ImageRef := ""
    ImageVersion := ""
    ExecutionRoleARN := ""
    MaximumDurationSeconds := 0
    RuntimeLogGroup := ""
    NetworkConnectorRef := ""
    LastAction := resp.Command
    LastTransition := firstNonZeroTimeValue [resp.LastTransition, observedAt, observedAt.UTC]
    RegistryVersion := resp.RegistryVersion
    UpdatedAt := observedAt.UTC }

def MicroVMLifecycleRefFromResponse (binding : MicroVMSessionBinding) (resp : ControllerResponse)
    (observedAt : Time) : Call MicroVMLifecycleRef := do
  let observedAt ← if observedAt.IsZero then now else pure observedAt
  let ref := lifecycleRef binding resp observedAt
  validated (ref.Validate sv binding)
  return ref

def Metadata (b : MicroVMSessionBinding) : List (String × String) :=
  [("source_of_truth", MicroVMSourceOfTruth), ("registration_id", TrimSpace b.RegistrationID),
    ("agent_id", TrimSpace b.AgentID), ("conversation_id", TrimSpace b.ConversationID)]
    ++ if TrimSpace b.TurnID = "" then [] else [("turn_id", TrimSpace b.TurnID)]

namespace HTTPControllerDispatcher

variable (d : HTTPControllerDispatcher) (binding : MicroVMSessionBinding)

def runRequest : Request :=
  .run {
    SessionID := TrimSpace binding.ConversationID
    ImageRef := d.imageRef
    ImageVersion := d.imageVersion
    NetworkConnectorRef := d.networkConnRef
    IngressNetworkConnectorRefs := d.ingressConnRefs
    EgressNetworkConnectorRefs := d.egressConnRefs
    Metadata := Metadata binding
    MaximumDurationSeconds := d.maxDuration }

def decorateLifecycleRef (ref : MicroVMLifecycleRef) : MicroVMLifecycleRef :=
  normalizeMicroVMLifecycleRef { ref with
    ImageRef := d.imageRef
    ImageVersion := d.imageVersion
    ExecutionRoleARN := d.executionRoleARN
    MaximumDurationSeconds := d.maxDuration
    RuntimeLogGroup := d.runtimeLogGroup
    NetworkConnectorRef := d.networkConnRef }

/-- The end of every entry: the result that tells of a response. -/
def resultOf (resp : ControllerResponse) : Call MicroVMDispatchResult := do
  let now ← now
  let ref ← MicroVMLifecycleRefFromResponse sv binding resp (resp.observedAt now)
  return ⟨d.decorateLifecycleRef ref, TrimSpace resp.SessionID⟩

/-- The checks at the beginning of an entry. -/
def validateCall (requestID : String) : Call Unit := do
  validated binding.Validate
  check (TrimSpace requestID ≠ "") .unavailable

def session : String := TrimSpace binding.ConversationID

/-! ## Entries -/

def StartMicroVMRun (requestID : String) : Call MicroVMDispatchResult := do
  validateCall binding requestID
  let resp ← doControllerRequest (d.runRequest binding)
  resultOf sv d binding resp

def validateFreshMicroVMPreparation (requestID : String) (previous : MicroVMLifecycleRef) : Call Unit := do
  check (TrimSpace d.imageVersion ≠ "" ∧ TrimSpace d.executionRoleARN ≠ "" ∧
    TrimSpace d.runtimeLogGroup ≠ "" ∧ 0 < d.maxDuration) .unavailable
  validated binding.Validate
  validated (previous.Validate sv binding)
  check (TrimSpace requestID ≠ "" ∧ TrimSpace previous.MicroVMID ≠ "") .unavailable

def observeAndRetirePreviousMicroVM (previous : MicroVMLifecycleRef) : Call Unit := do
  let observed ← doControllerRequest (.get (session binding))
  check (observed.vm ≠ "" ∧ observed.vm = TrimSpace previous.MicroVMID) .staleRegistryState
  let terminal ← microVMResponseIsTerminal rt observed
  if terminal then return ()
  else do
    let terminated ← doControllerRequest (.delete (session binding))
    let terminal ← microVMResponseIsTerminal rt terminated
    if terminal then return ()
    else do
      let _ ← waitForControllerMicroVMTerminal rt (session binding) terminated
      return ()

def waitForPreparedMicroVMInvokable : Call MicroVMDispatchResult := do
  let resp ← doControllerRequest (.get (session binding))
  let ready ← waitForControllerMicroVMInvokable rt (session binding) resp
  resultOf sv d binding ready

def PrepareFreshMicroVMRun (requestID : String) (previous : MicroVMLifecycleRef) :
    Call MicroVMDispatchResult := do
  validateFreshMicroVMPreparation sv d binding requestID previous
  observeAndRetirePreviousMicroVM rt binding previous
  let started ← StartMicroVMRun sv d binding requestID
  let ready ← waitForPreparedMicroVMInvokable rt sv d binding
  check (TrimSpace ready.LifecycleRef.MicroVMID ≠ "" ∧
    TrimSpace ready.LifecycleRef.MicroVMID ≠ TrimSpace previous.MicroVMID) .staleRegistryState
  check (started.SessionID = ready.SessionID) .staleRegistryState
  return ready

end HTTPControllerDispatcher

/-! ## The world -/

/-- What the world decides at an operation: the nanoseconds that pass, whether the context is done, and what
    the controller and the workload answer. -/
structure Choice where
  elapsed : Nat
  cancelled : Option String
  answer : Except CallError ControllerResponse
  result : Except String LifecycleResult

inductive Event where
  | asked (r : Request) (time : Int)
  | answered (r : Request) (resp : ControllerResponse) (time : Int)
  | invoked

/-- The clock, and what has happened, the newest first. -/
structure World where
  clock : Int
  log : List Event

def World.after (w : World) (c : Choice) : World := { w with clock := w.clock + c.elapsed }

def World.handle : (o : Op) → Choice → World → o.Res × World
  | .now, c, w => (⟨w.clock + c.elapsed, .utc⟩, w.after c)
  | .ctxErr, c, w => (c.cancelled, w.after c)
  | .pause, c, w =>
      match c.cancelled with
      | some err => (some err, w.after c)
      | none => (none, { w with clock := w.clock + microvmControllerReadyPollInterval + c.elapsed })
  | .request r, c, w =>
      match c.answer with
      | .error e => (.error e, { w.after c with log := .asked r w.clock :: w.log })
      | .ok resp => (.ok resp, { w.after c with
          log := .answered r resp (w.clock + c.elapsed) :: .asked r w.clock :: w.log })
  | .invoke, c, w => (c.result, { w.after c with log := .invoked :: w.log })

def worldEnv : Prog.Env Op Op.Res World Choice := ⟨World.handle⟩

end LesserHost.HostedGenesis.Dispatch
