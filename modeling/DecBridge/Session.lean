import DecBridge.Engine
import DecBridge.Session.Callback
import DecBridge.Text.Quoted

/-!
# Sessions

One invocation of the decompiler: the host is attached, a new engine gets the callbacks, the two
scripts of the bundle are evaluated, and the entry point is called with the arguments. The host is
detached however the session ends.

An exception of a script is printed and logged and does not end the session, except that one from the
entry point is its outcome. A failure of the engine or a panic of the host goes to the trap.

A panic of the host in a callback is kept by the engine and goes on as soon as an exception leaves the
engine (`handBack`), also one that is thrown while an error is put into words.
-/

namespace DecBridge

open DecBridge.Bundle (LocateError Locator)

open DecBridge.Engine (Failure Outcome)

open Host (HostError)

/-- The scripts of a session and the limits of its engine. -/
structure SessionOptions where
  bootstrap : String := "require.js"
  entry : String := "r2dec-duk.js"
  entryPoint : String := "r2dec_main"
  limits : Limits := ⟨none, none⟩
  policy : FatalPolicy := .abort
  deriving DecidableEq, Inhabited

/-- How a session ended. -/
inductive SessionOutcome where
  | completed
  | entryPointMissing
  | scriptFailed (message : String)
  | faulted (message : String)
  deriving DecidableEq, Inhabited, Repr

/-- Why a session could not start. -/
inductive SessionError where
  | host (e : HostError)
  | engine (reason : String)
  deriving DecidableEq, Inhabited, Repr

namespace SessionOutcome

/-- The outcome with its constructor's name. -/
def shown : SessionOutcome → String
  | .completed => "Completed"
  | .entryPointMissing => "EntryPointMissing"
  | .scriptFailed m => Text.record "ScriptFailed" [("message", Text.quoted m)] false
  | .faulted m => Text.record "Faulted" [("message", Text.quoted m)] false

end SessionOutcome

namespace SessionError

def message : SessionError → String
  | .host e => "cannot start a session: " ++ e.message
  | .engine reason => "failed to create the interpreter: " ++ reason

/-- The messages of what an error was caused by. -/
def sources : SessionError → List String
  | .host e => e.message :: e.sources
  | .engine reason => [reason]

end SessionError

namespace Session

def logTarget : String := "pdw_runtime::session"

/-- First line that is printed when the entry point is missing. -/
def missingEntryPoint : String := "Fatal error. Cannot use R2_HOME_DATADIR."

/-- What is printed when the entry point is missing. -/
def guidance : String :=
  missingEntryPoint ++ "\nSet " ++ Bundle.rootVariable ++ " to the r2dec-wasm checkout.\n"

/-- The message of a fault that a panic causes. -/
def panicMessage : Payload → String
  | .text s => s
  | .other => "interpreter panicked"

variable {η σ : Type}

/-- Prints through the link; what cannot be printed is only logged. -/
def print (p : Port η σ) (text : String) : Act η σ Unit := do
  match ← Link.print p text with
  | .ok () => return
  | .error e => Act.note ⟨.warn, logTarget, "console output dropped", [("error", .shown e.message)]⟩

/-- What is printed of an exception. -/
def exceptionReport (message : String) : String := Text.trimEnd message ++ "\n"

/-- What is reported of an exception. -/
def exceptionEvent (stage message : String) : Log.Event :=
  ⟨.error, logTarget, "script raised an exception",
    [("stage", .text stage), ("error", .shown message)]⟩

/-- Reports the exception of a stage. -/
def reportException (p : Port η σ) (stage message : String) : Act η σ Unit := do
  Act.note (exceptionEvent stage message)
  print p (exceptionReport message)

/-! ## The engine -/

section Engine

variable (E : Engine) (p : Port η σ) (l : Locator)

/-- What an operation of an engine has come to, with the engine's state. -/
abbrev Crossed (α : Type) : Type := Except (Failure E.Value) α × E.State

/-- The engine hands back control; a panic that it keeps goes on in place of an exception. -/
def handBack {α : Type} : Crossed E α → Act η σ (Crossed E α)
  | (.error (.thrown v), s) =>
    match E.kept s with
    | some payload => Act.exit (.panicked payload)
    | none => return (.error (.thrown v), s)
  | r => return r

/-- Carries out an operation of the engine. -/
def crossing {α : Type} (x : Outcome E.State E.Value α) : Act η σ (Crossed E α) := do
  handBack E (← perform p l x)

/-- Reads a part of an error; a part that cannot be read is left out. -/
def readPart (v : E.Value) (key : String) (s : E.State) : Act η σ (Option String × E.State) := do
  match ← crossing E p l (E.read v key s) with
  | (.ok text, s) => return (text, s)
  | (.error _, s) => return (none, s)

/-- Puts a value that was thrown into words. -/
def describe (v : E.Value) (s : E.State) : Act η σ (String × E.State) := do
  if E.isError s v then
    let (message, s) ← readPart E p l v "message" s
    let (stack, s) ← readPart E p l v "stack" s
    return (Engine.errorWords message stack, s)
  else return (E.shown s v, s)

/-- Reports what a stage ended with instead of a value, and yields its words. If there was no memory,
that is the engine's own failure. -/
def scriptError (stage : String) (f : Failure E.Value) (s : E.State) :
    Act η σ (Except String (String × E.State)) := do
  match f with
  | .noMemory => return .error Engine.noRoom
  | .refused message =>
    reportException p stage message
    return .ok (message, s)
  | .thrown v =>
    let (message, s) ← describe E p l v s
    reportException p stage message
    return .ok (message, s)

/-! ## Stages -/

/-- What is reported of a script that is missing. -/
def skippedEvent (name : String) (e : LocateError) : Log.Event :=
  ⟨.info, logTarget, "script skipped", [("script", .text name), ("error", .shown e.message)]⟩

/-- Evaluates a script of the bundle; one that is missing is skipped, and its exception is reported
and tolerated. -/
def evaluate (name : String) (s : E.State) : Act η σ (Except String E.State) := do
  Act.notes (l.loadEvents name)
  match l.load name with
  | .error e =>
    Act.note (skippedEvent name e)
    return .ok s
  | .ok source =>
    match ← crossing E p l (E.evaluate source s) with
    | (.ok (), s) => return .ok s
    | (.error f, s) => (scriptError E p l name f s).proceed fun (_, s) => return .ok s

/-- What is reported if the scripts defined no entry point. -/
def missingEvent (entryPoint : String) : Log.Event :=
  ⟨.warn, logTarget, "entry point is not defined", [("entry_point", .shown entryPoint)]⟩

/-- The outcome of a session whose entry point, or the lookup of it, failed. -/
def failEntryPoint (o : SessionOptions) (f : Failure E.Value) (s : E.State) :
    Act η σ (Except String SessionOutcome) :=
  (scriptError E p l o.entryPoint f s).proceed fun (message, _) => return .ok (.scriptFailed message)

/-- Calls what the entry point was found to be. -/
def invoke (o : SessionOptions) (args : List String) (main : E.Value) (s : E.State) :
    Act η σ (Except String SessionOutcome) := do
  if !E.isFunction s main then
    Act.note (missingEvent o.entryPoint)
    print p guidance
    return .ok .entryPointMissing
  else
    match ← crossing E p l (E.callWith main args s) with
    | (.ok (), _) => return .ok .completed
    | (.error f, s) => failEntryPoint E p l o f s

/-- Calls the entry point that the scripts defined. -/
def callEntryPoint (o : SessionOptions) (args : List String) (s : E.State) :
    Act η σ (Except String SessionOutcome) := do
  match ← crossing E p l (E.lookup o.entryPoint s) with
  | (.ok main, s) => invoke E p l o args main s
  | (.error f, s) => failEntryPoint E p l o f s

/-- What is reported once the callbacks are there. -/
def installedEvent : Log.Event := ⟨.debug, callbackTarget, "callback surface installed", []⟩

/-- Everything that happens in the engine; an error is a failure of the engine itself. -/
def drive (o : SessionOptions) (args : List String) (s : E.State) :
    Act η σ (Except String SessionOutcome) := do
  match E.install s with
  | .error reason => return .error reason
  | .ok s =>
    Act.note installedEvent
    (evaluate E p l o.bootstrap s).proceed fun s =>
      (evaluate E p l o.entry s).proceed fun s => callEntryPoint E p l o args s

end Engine

/-! ## Whole sessions -/

/-- Counts one more engine that is given up without being taken down. -/
def abandon : Act η σ Unit := Act.modify fun w =>
  { w with engines := { w.engines with abandoned := w.engines.abandoned + 1 } }

/-- Trips the trap; if the program goes on, the session counts as faulted. -/
def fault (message : String) : Act η σ SessionOutcome := do
  Trap.trip (some message)
  abandon
  return .faulted message

/-- What a session reports when it starts. -/
def startedEvent (l : Locator) (args : List String) : Log.Event :=
  ⟨.debug, logTarget, "session started",
    [("args", .shown (Text.quotedList args)),
     ("root", .shown (Text.optional (l.root.map fun r => Text.quoted r.path)))]⟩

/-- What a session reports when it is over. -/
def finishedEvent (outcome : SessionOutcome) : Log.Event :=
  ⟨.debug, logTarget, "session finished", [("outcome", .shown outcome.shown)]⟩

/-- Creates the engine of a session. -/
def newEngine (E : Engine) (o : SessionOptions) : Act η σ (Except String E.State) := fun w =>
  (.done (E.create o.limits w.engines.created),
    { w with engines := { w.engines with created := w.engines.created + 1 } })

/-- What is left to do once a session has an outcome. -/
def finish (outcome : SessionOutcome) : Act η σ (Except SessionError SessionOutcome) := do
  Act.note (finishedEvent outcome)
  return .ok outcome

/-- What is left to do once everything in the engine has happened. -/
def conclude : Except Payload (Except String SessionOutcome) →
    Act η σ (Except SessionError SessionOutcome)
  | .ok (.ok outcome) => finish outcome
  | .ok (.error message) => do finish (← fault message)
  | .error payload => do finish (← fault (panicMessage payload))

/-- A session once its host is attached. -/
def runAttached (E : Engine) (p : Port η σ) (l : Locator) (o : SessionOptions) (args : List String) :
    Act η σ (Except SessionError SessionOutcome) := do
  match ← newEngine E o with
  | .error reason => return .error (.engine reason)
  | .ok s =>
    Act.note (startedEvent l args)
    conclude (← (drive E p l o args s).catching)

/-- Runs a session with a host. -/
def run (E : Engine) (p : Port η σ) (l : Locator) (o : SessionOptions) (host : η)
    (args : List String) : Act η σ (Except SessionError SessionOutcome) := do
  match ← Link.attach host with
  | .error e => return .error (.host e)
  | .ok guard => (runAttached E p l o args).afterwards (Link.release guard)

end Session

end DecBridge
