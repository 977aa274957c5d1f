import DecBridge.Dispatch

/-!
# Lines from inside a call

A host may hand lines to the dispatcher that is calling it. `Dispatcher.port` is the port of such
hosts: their requests are lines, and each is dispatched in the world as it then is.
`Dispatcher.busyPort` is the port of the same hosts with a dispatcher that starts no session and
refuses instead.
-/

namespace DecBridge.Dispatcher

variable {η σ : Type}

/-- A line that a host hands to the dispatcher, and what is around then. -/
structure Line (η : Type) where
  host : η
  text : String
  around : Surroundings

/-- What the dispatcher answers to a host that handed it a line. -/
abbrev Verdict : Type := Except DispatchError Dispatched

/-- The port of hosts that hand lines to a dispatcher while they are called, and that each say what
they do with what it answers. -/
def port (d : Dispatcher) (roster : Host.Roster η σ (Line η) Verdict) : Port η σ :=
  DecBridge.port (fun p r => d.dispatch p r.around r.host r.text) roster

/-! ## Refusing sessions -/

/-- The answer to a line that asks for a session while there is one. -/
def refusal : Verdict := .error (.session (.host .alreadyAttached))

/-- Carries out an action without ever starting a session. -/
def carryOutBusy (p : Port η σ) (d : Dispatcher) (around : Surroundings) (host : η) :
    Action → Act η σ Verdict
  | .decompile _ => do
    Act.notes (d.roots.events around)
    return refusal
  | action => carryOut p d around host action

/-- Handles a line without ever starting a session. -/
def dispatchBusy (p : Port η σ) (d : Dispatcher) (around : Surroundings) (host : η)
    (line : String) : Act η σ Verdict := do
  match Action.route line with
  | none => return .ok .notHandled
  | some action =>
    Act.note (dispatchingEvent line action)
    carryOutBusy p d around host action

/-- The same hosts with a dispatcher that never starts a session. -/
def busyPort (d : Dispatcher) (roster : Host.Roster η σ (Line η) Verdict) : Port η σ :=
  DecBridge.port (fun p r => d.dispatchBusy p r.around r.host r.text) roster

end DecBridge.Dispatcher
