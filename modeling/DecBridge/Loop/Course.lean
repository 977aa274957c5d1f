import DecBridge.Dispatch.Books
import DecBridge.Dispatch.Calls
import DecBridge.Loop

/-!
# The course of the command loop

What the loop does, moment by moment: a line is dispatched, with the calls that the dispatcher makes
of the host; a line is passed to the host; a text is written; a complaint is made. `watchAll` is the
loop with these moments listed.

`Course` says what such a list looks like. It falls into visits, one for each line that was executed.
A visit (`Visit`) dispatches its line once and passes it on once or not at all, depending on the
result. Behind the last visit the loop ends, and `Ends` has the reasons.
-/

namespace DecBridge

open Host (Call HostError Part)

open Output (Fault Sink)

variable {η σ : Type}

/-- The dispatcher left the line to the host, or announced itself first. -/
def Dispatched.ForHost (d : Dispatched) : Prop := d = .notHandled ∨ d = .announced

/-- The fault of a line that was handled. -/
def Dispatcher.faultsOf : Exit Verdict → List String
  | .done v => (faultOf v).toList
  | _ => []

namespace Loop

/-! ## Moments -/

/-- What happens in the loop, and how it ended. -/
inductive Moment where
  | dispatched (line : String) (calls : List Call)
      (result : Exit (Except DispatchError Dispatched))
  | passed (line : String) (answer : Exit (Except HostError String))
  | wrote (text : String) (fault : Option Fault)
  | complained (text : String)

/-- The calls of the host that a moment stands for. -/
def Moment.calls : Moment → List Call
  | .dispatched _ calls _ => calls
  | .passed line _ => [.cmd line]
  | .wrote _ _ | .complained _ => []

/-- What a moment puts out. -/
def Moment.shown : Moment → List String
  | .dispatched _ calls _ => calls.filterMap Call.printed?
  | .wrote text _ => [text]
  | .passed _ _ | .complained _ => []

/-- What a moment writes where diagnostics go. -/
def Moment.noted : Moment → List String
  | .dispatched _ _ result => (Dispatcher.faultsOf result).map fun m => Trap.diagnostic (some m)
  | .complained text => [text ++ "\n"]
  | .passed _ _ | .wrote _ _ => []

/-! ## Watching the loop -/

def watchDispatch (p : Port η σ) (d : Dispatcher) (around : Surroundings) (host : η)
    (line : String) : Watched Moment η σ (Except DispatchError Dispatched) :=
  .of (d.dispatch p around host line) fun w =>
    [.dispatched line (d.calls p around host line w) (d.dispatch p around host line w).1]

def watchForward (p : Port η σ) (out : Part σ Sink) (host : η) (line : String) :
    Watched Moment η σ (Except LoopError Unit) := do
  match ← .of (p host (.cmd line)) fun w => [.passed line (p host (.cmd line) w).1] with
  | .error e => return .error (.host e)
  | .ok text =>
    match ← .of (emit out text) fun w => [.wrote text ((out.get w.host).emit text).1] with
    | some fault => return .error (.output fault)
    | none => return .ok ()

def watchExecute (p : Port η σ) (out : Part σ Sink) (d : Dispatcher)
    (around : Surroundings) (host : η) (line : String) :
    Watched Moment η σ (Except LoopError Unit) := do
  match ← watchDispatch p d around host line with
  | .error e =>
    .plain (Act.note (failedEvent line e))
    .of (complain e.message) fun _ => [.complained e.message]
    return .ok ()
  | .ok dispatched =>
    .plain (reportOutcome line dispatched)
    if dispatched.forwards then watchForward p out host line else return .ok ()

def watchAll (p : Port η σ) (out : Part σ Sink) (d : Dispatcher)
    (around : Surroundings) (host : η) :
    List (Except Fault String) → Watched Moment η σ (Except LoopError Unit)
  | [] => return .ok ()
  | .error fault :: _ => return .error (.input fault)
  | .ok line :: rest => do
    match ← watchExecute p out d around host line with
    | .error e => return .error e
    | .ok () => watchAll p out d around host rest

/-! ## Visits -/

/-- What happens with a line after which the loop goes on. -/
inductive Visit where
  /-- The dispatcher failed, and the message of its error was complained about. -/
  | failed (line : String) (calls : List Call) (e : DispatchError)
  /-- The line was not for the host. -/
  | kept (line : String) (calls : List Call) (d : Dispatched) (h : ¬d.ForHost)
  /-- The line was passed to the host, and what it put out was written. -/
  | passed (line : String) (calls : List Call) (d : Dispatched) (h : d.ForHost) (text : String)

namespace Visit

def line : Visit → String
  | failed line _ _ | kept line _ _ _ | passed line _ _ _ _ => line

def moments : Visit → List Moment
  | failed line calls e => [.dispatched line calls (.done (.error e)), .complained e.message]
  | kept line calls d _ => [.dispatched line calls (.done (.ok d))]
  | passed line calls d _ text =>
    [.dispatched line calls (.done (.ok d)), .passed line (.done (.ok text)), .wrote text none]

end Visit

/-- What happens with a line that ends the loop: the dispatcher or the host does
not return, the host fails, or what it put out cannot be written. -/
inductive Stops (line : String) : List Moment → Exit (Except LoopError Unit) → Prop where
  | dispatching (calls : List Call) (b : Exit Empty) :
      Stops line [.dispatched line calls b.broken] b.broken
  | passing (calls : List Call) (d : Dispatched) (h : d.ForHost) (b : Exit Empty) :
      Stops line [.dispatched line calls (.done (.ok d)), .passed line b.broken] b.broken
  | lost (calls : List Call) (d : Dispatched) (h : d.ForHost) (e : HostError) :
      Stops line [.dispatched line calls (.done (.ok d)), .passed line (.done (.error e))]
        (.done (.error (.host e)))
  | unwritten (calls : List Call) (d : Dispatched) (h : d.ForHost) (text : String)
      (fault : Fault) :
      Stops line [.dispatched line calls (.done (.ok d)), .passed line (.done (.ok text)),
        .wrote text (some fault)] (.done (.error (.output fault)))

/-- Why the loop ends at what is left of the lines. -/
inductive Ends : List (Except Fault String) → List Moment →
    Exit (Except LoopError Unit) → Prop where
  | finished : Ends [] [] (.done (.ok ()))
  | unreadable (fault : Fault) (rest : List (Except Fault String)) :
      Ends (.error fault :: rest) [] (.done (.error (.input fault)))
  | stopped {line : String} (rest : List (Except Fault String)) {ms : List Moment}
      {e : Exit (Except LoopError Unit)} (h : Stops line ms e) : Ends (.ok line :: rest) ms e

/-- Moments that are the course of a loop over lines. -/
def Course (lines : List (Except Fault String)) (ms : List Moment)
    (e : Exit (Except LoopError Unit)) : Prop :=
  ∃ (visits : List Visit) (rest : List (Except Fault String)) (tail : List Moment),
    lines = visits.map (fun v => .ok v.line) ++ rest ∧
    ms = visits.flatMap Visit.moments ++ tail ∧ Ends rest tail e

end Loop

end DecBridge
