import DecBridge.CommandLine.Invocation
import DecBridge.Dispatch
import DecBridge.Text.Utf8

/-!
# The command loop

Executes lines one after the other: each is dispatched, and what the dispatcher leaves to the host is
then run by the host, and its output is written. The lines are those of the command line, or those of
the input up to the first that asks to quit.
-/

namespace DecBridge.Loop

open CommandLine (Invocation)

open Host (HostError Part)

open Output (Fault Sink)

open Text (Bytes)

def logTarget : String := "pdw_cli"

/-! ## Lines -/

/-- The line that ends the input. -/
def quitCommand : String := "q"

/-- The lines among pieces of the input that were cut at line feeds; only the last piece was not ended
by one, and it counts only if it holds something. -/
def linePieces : List Bytes → List Bytes
  | [] => []
  | [rest] => if rest.isEmpty then [] else [rest]
  | piece :: pieces => piece :: linePieces pieces

/-- Reads a line of the input. -/
def readLine (bytes : Bytes) : Except Fault String :=
  match Text.decode bytes with
  | .ok s => .ok s
  | .error _ => .error .notUtf8

/-- The lines of the input. -/
def inputLines (input : Bytes) : List (Except Fault String) :=
  (linePieces (Text.cutAt 10 input)).map readLine

/-- What is executed of the lines of the input: those that hold something, without the blanks around
them, up to the one that quits or cannot be read. -/
def ofInput : List (Except Fault String) → List (Except Fault String)
  | [] => []
  | .error e :: _ => [.error e]
  | .ok line :: rest =>
    let command := Text.trim line
    if command == quitCommand then []
    else if command.isEmpty then ofInput rest
    else .ok command :: ofInput rest

/-- What is executed: the commands of the command line as they are, if there are any, and else those
of the input. -/
def lines (i : Invocation) (input : Bytes) : List (Except Fault String) :=
  if i.commands.isEmpty then ofInput (inputLines input) else i.commands.map .ok

/-! ## Execution -/

/-- Why the loop ended early. -/
inductive LoopError where
  | host (e : HostError)
  | input (fault : Fault)
  | output (fault : Fault)
  deriving DecidableEq, Inhabited, Repr

def LoopError.message : LoopError → String
  | .host e => "lost the disassembler: " ++ e.message
  | .input fault => "failed to read commands: " ++ fault.message
  | .output fault => "failed to write output: " ++ fault.message

variable {η σ : Type}

/-- Writes a line where diagnostics go; a failure is ignored. -/
def complain (text : String) : Act η σ Unit :=
  Act.modify fun w => { w with trap := { w.trap with sink := (w.trap.sink.write (text ++ "\n")).2 } }

/-- Writes to the output. -/
def emit (out : Part σ Sink) (text : String) : Act η σ (Option Fault) := fun w =>
  let (fault, sink) := (out.get w.host).emit text
  (.done fault, { w with host := out.put sink w.host })

def failedEvent (line : String) (e : DispatchError) : Log.Event :=
  ⟨.warn, logTarget, "pdw command failed", [("line", .text line), ("error", .shown e.message)]⟩

def incompleteEvent (line : String) (outcome : SessionOutcome) : Log.Event :=
  ⟨.warn, logTarget, "decompiler did not complete",
    [("line", .text line), ("outcome", .shown outcome.shown)]⟩

/-- Reports a session that did not complete. -/
def reportOutcome (line : String) : Dispatched → Act η σ Unit
  | .session .completed => return
  | .session outcome => Act.note (incompleteEvent line outcome)
  | _ => return

/-- Lets the host run a line and writes its output. -/
def forward (p : Port η σ) (out : Part σ Sink) (host : η) (line : String) :
    Act η σ (Except LoopError Unit) := do
  match ← p host (.cmd line) with
  | .error e => return .error (.host e)
  | .ok text =>
    match ← emit out text with
    | some fault => return .error (.output fault)
    | none => return .ok ()

/-- Executes a line. -/
def execute (p : Port η σ) (out : Part σ Sink) (d : Dispatcher) (around : Surroundings) (host : η)
    (line : String) : Act η σ (Except LoopError Unit) := do
  match ← d.dispatch p around host line with
  | .error e =>
    Act.note (failedEvent line e)
    complain e.message
    return .ok ()
  | .ok dispatched =>
    reportOutcome line dispatched
    if dispatched.forwards then forward p out host line else return .ok ()

/-- Executes lines up to the first that cannot be read or ends the loop. -/
def executeAll (p : Port η σ) (out : Part σ Sink) (d : Dispatcher) (around : Surroundings)
    (host : η) : List (Except Fault String) → Act η σ (Except LoopError Unit)
  | [] => return .ok ()
  | .error fault :: _ => return .error (.input fault)
  | .ok line :: rest => do
    match ← execute p out d around host line with
    | .error e => return .error e
    | .ok () => executeAll p out d around host rest

end DecBridge.Loop
