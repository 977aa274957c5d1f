import DecBridge.Dispatch
import DecBridge.Session.Course

/-!
# The calls of a dispatcher

What a dispatcher calls hosts for while it handles a line. Its commands are the one that updates the
scripts and, in a session, those of the scripts.
-/

namespace DecBridge

open Host (Call)

/-- The command that a call issues. -/
def Host.Call.command? : Call → Option String
  | .cmd text => some text
  | .print _ => none

/-- The text that a call prints. -/
def Host.Call.printed? : Call → Option String
  | .cmd _ => none
  | .print text => some text

variable {η σ : Type}

/-- The command that a script issues. -/
def Session.Moment.command? : Moment η σ → Option String
  | .callback c _ _ => c.command?
  | .console .. | .crossed _ | .failed _ => none

namespace Dispatcher

/-- The calls that a dispatcher makes of hosts while it handles a line. -/
def calls (d : Dispatcher) (p : Port η σ) (around : Surroundings) (host : η) (line : String)
    (w : World η σ) : List Call :=
  (d.dispatch p.noting around host line { w with host := (w.host, []) }).2.host.2

/-- The world in which the session that a line asks for is started. -/
def atSession (d : Dispatcher) (around : Surroundings) (line : String) (args : List String)
    (w : World η σ) : World η σ :=
  { w with log := w.log.push (dispatchingEvent line (.decompile args)) ++
      (d.roots.events around).toArray }

/-- The verdict on a line that asked for a session. -/
def verdictOn : Except SessionError SessionOutcome → Except DispatchError Dispatched
  | .error e => .error (.session e)
  | .ok outcome => .ok (.session outcome)

/-- The commands that handling a line issues. -/
def commands (d : Dispatcher) (p : Port η σ) (around : Surroundings) (host : η) (line : String)
    (w : World η σ) : List String :=
  match Action.route line with
  | some .update => [Action.updateCommand]
  | some (.decompile args) =>
    (Session.moments d.engine p (d.roots.locator around) d.options host args
      (d.atSession around line args w)).filterMap Session.Moment.command?
  | some .usage | some .configQuery | none => []

end Dispatcher

end DecBridge
