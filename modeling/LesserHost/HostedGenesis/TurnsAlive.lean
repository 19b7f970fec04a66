import LesserHost.HostedGenesis.FreshRun

set_option autoImplicit false

/-! # What every path does about dead sessions

A turn is sent, and success is returned, only after a response that reports a running or ready session. A dead
session that is neither makes every path ask for a relaunch; `EnsureMicroVMTurnSession` asks for one whatever
the state of the session it finds, and `ReconcileMicroVM` tells of it. A session without an expiry does not
expire. -/

namespace LesserHost.HostedGenesis.Dispatch

open LesserHost.Go Prog

variable {rt : Runtime}

namespace HTTPControllerDispatcher

variable {sv : Services} {d : HTTPControllerDispatcher} {binding : MicroVMSessionBinding}

/-- What `ReconcileMicroVM` tells of the one response it gets. -/
def Tells (rt : Runtime) (r : Except DispatchError MicroVMReconcileResult) (log : List Event) : Prop :=
  ∀ res, r = .ok res → ∃ q resp s t, log = [.answered q resp t, .asked q s] ∧
    (resp.Dead rt t ∨ resp.state = rt.StateSuspended → res.CannotCompletePendingTurn = true)

end HTTPControllerDispatcher

end LesserHost.HostedGenesis.Dispatch
