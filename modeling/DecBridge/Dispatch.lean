import DecBridge.Dispatch.Action
import DecBridge.Session

/-!
# Dispatching command lines

A dispatcher carries out the action of a line, if the line is claimed. Each decompilation is a session
of its own, whose script root is chosen from the surroundings of that moment.
-/

namespace DecBridge

open DecBridge.Bundle (Locator ScriptRoot)

open Host (HostError)

/-- How sessions find their script root. -/
inductive RootPolicy where
  /-- The environment, else this configured root, else the conventional one. -/
  | environment (configured : Option String)
  | pinned (root : ScriptRoot)
  deriving DecidableEq, Inhabited, Repr

/-- What an invocation finds around it: the files and the environment of the process. -/
structure Surroundings where
  files : Files.FileSystem
  env : Bundle.Environment
  deriving Inhabited

namespace RootPolicy

def locator (r : RootPolicy) (around : Surroundings) : Locator :=
  match r with
  | .environment configured => ⟨around.files, around.env.resolve configured⟩
  | .pinned root => ⟨around.files, some root⟩

/-- What choosing a root reports to the log. -/
def events (r : RootPolicy) (around : Surroundings) : List Log.Event :=
  match r with
  | .environment _ => Bundle.overrideEvents around.env.root
  | .pinned _ => []

end RootPolicy

/-- What came of a line. -/
inductive Dispatched where
  | notHandled
  | announced
  | handled
  | session (outcome : SessionOutcome)
  deriving DecidableEq, Inhabited, Repr

namespace Dispatched

/-- Whether the host should still run the line. -/
def forwards : Dispatched → Bool
  | .notHandled | .announced => true
  | .handled | .session _ => false

/-- The result with its constructor's name. -/
def shown : Dispatched → String
  | .notHandled => "NotHandled"
  | .announced => "Announced"
  | .handled => "Handled"
  | .session outcome => "Session(" ++ outcome.shown ++ ")"

end Dispatched

/-- Why a claimed line could not be carried out. -/
inductive DispatchError where
  | session (e : SessionError)
  | host (e : HostError)
  deriving DecidableEq, Inhabited, Repr

namespace DispatchError

def message : DispatchError → String
  | .session e => e.message
  | .host e => "host action failed: " ++ e.message

/-- The messages of what an error was caused by. -/
def sources : DispatchError → List String
  | .session e => e.sources
  | .host e => e.message :: e.sources

end DispatchError

/-- What a dispatcher keeps from line to line; `engine` is the kind of engine of its sessions. -/
structure Dispatcher where
  engine : Engine
  options : SessionOptions
  roots : RootPolicy

namespace Dispatcher

def logTarget : String := "pdw_runtime::dispatch"

variable {η σ : Type}

/-- Carries out an action. -/
def carryOut (p : Port η σ) (d : Dispatcher) (around : Surroundings) (host : η) :
    Action → Act η σ (Except DispatchError Dispatched)
  | .configQuery => do
    let _ ← p host (.print (Action.identifier ++ "\n"))
    return .ok .announced
  | .usage => do
    let _ ← p host (.print Action.usageText)
    return .ok .handled
  | .update => do
    Act.note ⟨.info, logTarget, "updating scripts", [("command", .text Action.updateCommand)]⟩
    match ← p host (.cmd Action.updateCommand) with
    | .error e => return .error (.host e)
    | .ok output =>
      let _ ← p host (.print output)
      return .ok .handled
  | .decompile args => do
    Act.notes (d.roots.events around)
    match ← Session.run d.engine p (d.roots.locator around) d.options host args with
    | .error e => return .error (.session e)
    | .ok outcome => return .ok (.session outcome)

/-- What is reported of a line that is claimed. -/
def dispatchingEvent (line : String) (action : Action) : Log.Event :=
  ⟨.debug, logTarget, "dispatching", [("line", .text line), ("action", .shown action.shown)]⟩

/-- Handles a line on behalf of a host. -/
def dispatch (p : Port η σ) (d : Dispatcher) (around : Surroundings) (host : η) (line : String) :
    Act η σ (Except DispatchError Dispatched) := do
  match Action.route line with
  | none => return .ok .notHandled
  | some action =>
    Act.note (dispatchingEvent line action)
    carryOut p d around host action

end Dispatcher

end DecBridge
