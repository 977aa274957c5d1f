import DecBridge.Bundle.Locator
import DecBridge.Script.Run
import DecBridge.World

/-!
# Callbacks

How the requests of a script are served: host commands and console lines go through the link to the
host in charge, and the loaders read beneath the script root. Whatever goes wrong is an answer that
the script sees as an exception; a panic of the host is handed to the engine, which keeps it.
-/

namespace DecBridge.Session

open DecBridge.Bundle (LocateError Locator)

open Host (HostError)

open Script (Request Answer Run)

def callbackTarget : String := "pdw_runtime::bridge"

variable {η σ : Type}

/-- The answer to a call that did not reach the host. -/
def hostFailure (function : String) (e : HostError) : Act η σ Answer := do
  Act.note ⟨.warn, callbackTarget, "host unavailable",
    [("function", .text function), ("error", .shown e.message)]⟩
  return .refused .internal (function ++ ": " ++ e.message)

/-- What is reported of a host command before it is issued. -/
def commandEvent (command : String) : Log.Event :=
  ⟨.trace, callbackTarget, "host command", [("command", .shown command)]⟩

/-- Issues a host command. -/
def serveCommand (p : Port η σ) (command : String) : Act η σ Answer := do
  Act.note (commandEvent command)
  match ← Link.cmd p command with
  | .ok text => return .text text
  | .error e => hostFailure Script.hostCommandName e

/-- Prints a line of the console. -/
def servePrint (p : Port η σ) (line : String) : Act η σ Answer := do
  match ← Link.print p line with
  | .ok () => return .nothing
  | .error e => hostFailure Script.consoleName e

/-- The two ways to name a script. -/
inductive Lookup where
  | file
  | module
  deriving DecidableEq, Inhabited, Repr

namespace Lookup

/-- The function that scripts call. -/
def function : Lookup → String
  | .file => Script.loadName
  | .module => Script.requireName

def find (form : Lookup) (l : Locator) (name : String) : Except LocateError String :=
  match form with
  | .file => l.load name
  | .module => l.require name

def events (form : Lookup) (l : Locator) (name : String) : List Log.Event :=
  match form with
  | .file => l.loadEvents name
  | .module => l.requireEvents name

/-- The name that a diagnostic shows: that of the file. -/
def shownName (form : Lookup) (name : String) : String :=
  match form with
  | .file => name
  | .module => name ++ Bundle.moduleExtension

/-- What is printed for a script that was not found. -/
def diagnostic (form : Lookup) (name : String) : String :=
  "Error: '" ++ form.shownName name ++ "' not found.\n"

/-- What is reported of a script that was not found. -/
def failedEvent (form : Lookup) (name : String) (e : LocateError) : Log.Event :=
  ⟨.debug, callbackTarget, "script lookup failed",
    [("function", .text form.function), ("name", .shown name), ("error", .shown e.message)]⟩

end Lookup

/-- Looks a script up. -/
def serveLookup (p : Port η σ) (l : Locator) (form : Lookup) (name : String) : Act η σ Answer := do
  Act.notes (form.events l name)
  match form.find l name with
  | .ok text => return .text text
  | .error e =>
    Act.note (form.failedEvent name e)
    match ← Link.print p (form.diagnostic name) with
    | .ok () => return .refused .type (form.function ++ ": " ++ e.message)
    | .error dropped =>
      Act.note ⟨.warn, callbackTarget, "lookup diagnostic dropped", [("error", .shown dropped.message)]⟩
      return .refused .type (form.function ++ ": " ++ e.message)

/-- Serves a request. -/
def serve (p : Port η σ) (l : Locator) : Request → Act η σ Answer
  | .command text => serveCommand p text
  | .load name => serveLookup p l .file name
  | .require name => serveLookup p l .module name
  | .print line => servePrint p line

/-- Serves a request; a panic is an answer too. -/
def serveSafely (p : Port η σ) (l : Locator) (r : Request) : Act η σ Answer := do
  match ← (serve p l r).catching with
  | .ok answer => return answer
  | .error payload => return .panicked payload

/-- Carries out a run, serving its requests. -/
def perform {α : Type} (p : Port η σ) (l : Locator) : Run α → Act η σ α
  | .done a => return a
  | .stalled => Act.exit .stalled
  | .ask r resume => fun w =>
    match serveSafely p l r w with
    | (.done answer, w) => perform p l (resume answer) w
    | (.panicked payload, w) => (.panicked payload, w)
    | (.terminated, w) => (.terminated, w)
    | (.killed, w) => (.killed, w)
    | (.stalled, w) => (.stalled, w)

end DecBridge.Session
