import DecBridge.Loop.Course
import DecBridge.Program

/-!
# A program at its loop

A program that got as far as its loop: its command line was read, its configuration loaded, and its
disassembler is ready. Its moments are those of the loop.
-/

namespace DecBridge.Program

open CommandLine (Invocation)

open Host (Call)

open Output (Fault)

variable {γ : Type}

structure Started (m : Machine γ) (arguments : List String) where
  invocation : Invocation
  config : Config
  filter : Log.Filter
  child : Child γ
  pipe : Pipe γ
  events : List Log.Event
  read : Invocation.read (CommandLine.split arguments).rest = .ok invocation
  loaded : m.load (CommandLine.split arguments).config = .ok config
  filtered : Log.Filter.read config.logFilter = .ok filter
  launched : m.programs.launch config.r2Binary invocation.binary m.output =
    (.opened child (.ready pipe), events)

namespace Started

variable {m : Machine γ} {arguments : List String} (s : Started m arguments)

/-- The lines of the loop. -/
def lines : List (Except Fault String) := Loop.lines s.invocation m.input

/-- The world in which the loop starts. -/
def start : World Unit (Workbench γ) := beforeLoop s.config s.invocation s.pipe s.events

def dispatcher : Dispatcher := .ofConfig m.engine s.config

/-- The loop of the program with its moments. -/
def watched : (Exit (Except Loop.LoopError Unit) × World Unit (Workbench γ)) × List Loop.Moment :=
  Loop.watchAll (Workbench.port s.child) Workbench.outputPart s.dispatcher (surroundings m) ()
    s.lines s.start

def exit : Exit (Except Loop.LoopError Unit) := s.watched.1.1

def moments : List Loop.Moment := s.watched.2

/-- The calls of the host, as its port lists them. -/
def calls : List Call :=
  (Loop.executeAll (Workbench.port s.child).noting Workbench.outputPart.carry s.dispatcher
    (surroundings m) () s.lines { s.start with host := (s.start.host, []) }).2.host.2

/-- The disassembler when the loop is over. -/
def disassembler : Pipe γ := s.watched.1.2.host.pipe

/-- The world in which the program ends. -/
def last : World Unit (Workbench γ) := closing s.child s.exit s.watched.1.2

end Started

end DecBridge.Program
