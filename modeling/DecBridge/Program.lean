import DecBridge.CommandLine.Split
import DecBridge.Dispatch.Configured
import DecBridge.Log.Filter
import DecBridge.Log.Record
import DecBridge.Loop
import DecBridge.Pipe.Launch
import DecBridge.Workbench

/-!
# The program

From a command line to the end of the process: read the command line, load the configuration, prepare
the log, start the disassembler, execute the lines. The disassembler is asked to leave when nobody
holds the host any more (`closing`). The loop gives it up when it is over, and what is left may hold it
through the link (`retained`).
-/

namespace DecBridge.Program

open CommandLine (Invocation Mistake)

open Host (HostError)

open Loop (LoopError)

open Output (Sink)

open Text (Bytes)

/-! ## What the program is given and what it leaves behind -/

/-- What the program finds: what can be started, with the file system; the environment; its input and
its output; and what it is built from. -/
structure Machine (γ : Type) where
  programs : Programs γ
  /-- The variables of the environment. -/
  env : List (String × String)
  /-- The home directory of the user. -/
  home : Option Bytes
  /-- The kind of engine that sessions run. -/
  engine : Engine
  /-- Loads the configuration, given the arguments that are for it, program name first. What keeps it
  from being loaded is said in words. -/
  load : List String → Except String Config
  input : Bytes
  output : Sink

/-- How the process ends. -/
inductive Ending where
  | code (n : Nat)
  /-- The trap ended it. -/
  | aborted
  /-- It waits for something that never comes. -/
  | stalled
  deriving DecidableEq, Inhabited, Repr

structure Report where
  ending : Ending
  output : Sink
  /-- What was written as diagnostics. -/
  diagnostics : String
  /-- The events that the filter lets pass. -/
  log : List Log.Event
  format : Log.Format
  /-- What the disassembler was sent, if one was started. -/
  received : Option String

/-! ## Errors -/

/-- Why the program failed. -/
inductive Failure where
  | usage (m : Mistake)
  | configuration (message : String)
  | filter (e : Log.FilterError)
  | start (e : HostError)
  | loop (e : LoopError)

def Failure.message : Failure → String
  | .usage m => m.message Invocation.grammar
  | .configuration message => "failed to load configuration: " ++ message
  | .filter e => "failed to initialise telemetry: invalid log filter: " ++ e.message
  | .start e => "failed to start the disassembler: " ++ e.message
  | .loop e => e.message

/-- What a failure writes. -/
def Failure.line (f : Failure) : String := f.message ++ "\n"

/-! ## Running -/

variable {γ : Type}

/-- The end of a program that fails before it starts anything. -/
def failed (m : Machine γ) (f : Failure) : Report :=
  { ending := .code 1, output := m.output, diagnostics := f.line, log := [], format := .compact
    received := none }

/-- The end of a program that only answers a question. -/
def answered (m : Machine γ) (text : String) : Report :=
  { ending := .code 0, output := (m.output.write text).2, diagnostics := "", log := []
    format := .compact, received := none }

/-- The surroundings of the sessions. -/
def surroundings (m : Machine γ) : Surroundings :=
  ⟨m.programs.files, ⟨(m.env.lookup Bundle.rootVariable).map Text.encode, m.home⟩⟩

def readyEvent (binary : String) : Log.Event :=
  ⟨.info, Loop.logTarget, "disassembler ready", [("binary", .shown binary)]⟩

/-- How the process ends, by how the loop did. -/
def endingOf : Exit (Except LoopError Unit) → Ending
  | .done (.ok ()) => .code 0
  | .done (.error _) => .code 1
  | .panicked _ => .code 101
  | .terminated | .killed => .aborted
  | .stalled => .stalled

/-- The failure that ended the loop. -/
def failureOf? : Exit (Except LoopError Unit) → Option Failure
  | .done (.error e) => some (.loop e)
  | _ => none

/-- Whether the host is still held once the loop has given it up, and the dispatcher its link. A guard
holds the link, and so does an engine that was given up without being taken down; and the link holds
the host in charge. -/
def retained (w : World Unit (Workbench γ)) : Bool :=
  w.link.isAttached && (!w.link.live.isEmpty || w.engines.abandoned != 0)

/-- The loop gives up the host. If it was the last to hold it, the disassembler is asked to leave;
nothing of this happens if nothing goes on any more. -/
def closing (c : Child γ) (e : Exit (Except LoopError Unit)) (w : World Unit (Workbench γ)) :
    World Unit (Workbench γ) :=
  match e with
  | .killed | .stalled => w
  | .done _ | .panicked _ | .terminated =>
    if retained w then w
    else
      let (pipe, events) := w.host.pipe.close c
      { w with host := { w.host with pipe }, log := w.log ++ events.toArray }

/-- The world in which the loop starts. -/
def beforeLoop (config : Config) (i : Invocation) (pipe : Pipe γ) (log : List Log.Event) :
    World Unit (Workbench γ) where
  host := { pipe }
  link := {}
  trap := .ofConfig config {}
  log := (log ++ [readyEvent i.binary]).toArray
  engines := {}

/-- Executes the lines on a disassembler that is ready, and closes it. -/
def work (m : Machine γ) (config : Config) (i : Invocation) (c : Child γ) (pipe : Pipe γ)
    (log : List Log.Event) : Exit (Except LoopError Unit) × World Unit (Workbench γ) :=
  let (e, w) := Loop.executeAll (Workbench.port c) Workbench.outputPart
    (.ofConfig m.engine config) (surroundings m) () (Loop.lines i m.input)
    (beforeLoop config i pipe log)
  (e, closing c e w)

/-- Starts the disassembler and executes the lines. -/
def runWith (m : Machine γ) (config : Config) (filter : Log.Filter) (i : Invocation) : Report :=
  let report (ending : Ending) (output : Sink) (diagnostics : String) (log : List Log.Event)
      (received : Option String) : Report :=
    { ending, output, diagnostics, log := log.filter filter.passes, format := config.logFormat
      received }
  match m.programs.launch config.r2Binary i.binary m.output with
  | (.refused e, events) => report (.code 1) m.output (Failure.start e).line events none
  | (.opened _ (.failed e pipe), events) =>
    report (.code 1) pipe.console (Failure.start e).line events (some pipe.received)
  | (.opened _ (.waiting pipe), events) =>
    report .stalled pipe.console "" events (some pipe.received)
  | (.opened c (.ready pipe), events) =>
    let (e, w) := work m config i c pipe events
    let diagnostics := w.trap.sink.text ++ ((failureOf? e).map Failure.line).getD ""
    report (endingOf e) w.host.pipe.console diagnostics w.log.toList (some w.host.pipe.received)

/-- Runs the program on a command line, program name first. -/
def run (m : Machine γ) (arguments : List String) : Report :=
  let parts := CommandLine.split arguments
  match Invocation.read parts.rest with
  | .error mistake =>
    if mistake.isAnswer then answered m (mistake.message Invocation.grammar)
    else failed m (.usage mistake)
  | .ok i =>
    match m.load parts.config with
    | .error e => failed m (.configuration e)
    | .ok config =>
      match Log.Filter.read config.logFilter with
      | .error e => failed m (.filter e)
      | .ok filter => runWith m config filter i

end DecBridge.Program
