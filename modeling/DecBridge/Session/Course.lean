import DecBridge.Session
import DecBridge.World.Watched

/-!
# The course of a session

What a session does, moment by moment: each use that a script makes of the link, each text that the
session prints itself, each time the engine hands back control, and the failure of the engine if there
is one. `watchRun` is a session with these moments listed.
-/

namespace DecBridge.Session

open DecBridge.Bundle (Locator)

open DecBridge.Engine (Failure Outcome)

open Host (Call HostError)

open Script (Request Run)

variable {η σ α : Type}

/-! ## Moments -/

/-- Something that happened in a session. -/
inductive Moment (η σ : Type) : Type where
  /-- A script called through the link, and this is what came of it. -/
  | callback (c : Call) (before : World η σ)
      (result : Exit (Except HostError String) × World η σ)
  /-- The session printed a text of its own. -/
  | console (text : String) (before : World η σ)
      (result : Exit (Except HostError Unit) × World η σ)
  /-- The engine handed back control, with an exception or without. -/
  | crossed (exceptional : Bool)
  /-- The engine itself failed. -/
  | failed (reason : String)

/-- The call that looking a script up makes, and the world it is made in. -/
def Lookup.call? (form : Lookup) (l : Locator) (name : String) (w : World η σ) :
    Option (Call × World η σ) :=
  match form.find l name with
  | .ok _ => none
  | .error e =>
    some (.print (form.diagnostic name), { w with
      log := (w.log ++ (form.events l name).toArray).push (form.failedEvent name e) })

/-- The call that serving a request makes, and the world it is made in. -/
def call? (l : Locator) (r : Request) (w : World η σ) : Option (Call × World η σ) :=
  match r with
  | .command text =>
    some (.cmd text, { w with log := w.log.push (commandEvent text) })
  | .load name => Lookup.file.call? l name w
  | .require name => Lookup.module.call? l name w
  | .print line => some (.print line, w)

/-- The moments of serving a request. -/
def callbacks (p : Port η σ) (l : Locator) (r : Request) (w : World η σ) :
    List (Moment η σ) :=
  match call? l r w with
  | none => []
  | some (c, before) => [.callback c before (Link.call p c before)]

/-- The calls of hosts that a moment stands for. -/
def Moment.calls : Moment η σ → List Call
  | .callback c before _ => if before.link.isAttached then [c] else []
  | .console text before _ => if before.link.isAttached then [.print text] else []
  | .crossed _ | .failed _ => []

/-- A use of the link that reached `host`, which was in charge. -/
def Moment.Reaches (p : Port η σ) (host : η) : Moment η σ → Prop
  | .callback c before result =>
    before.link.slot = some host ∧ result = p host c before
  | .console text before result =>
    before.link.slot = some host ∧
      result = ((p host (.print text) before).1.map fun _ => .ok (),
        (p host (.print text) before).2)
  | .crossed _ | .failed _ => True

/-! ## Watching a session -/

/-- A part of a session, with its moments. -/
abbrev Course (η σ α : Type) : Type := Watched (Moment η σ) η σ α

open Watched (plain of)

/-- Carries out a run, listing the calls of its requests. -/
def watchPerform (p : Port η σ) (l : Locator) : Run α → Course η σ α
  | .done a => pure a
  | .stalled => plain (Act.exit .stalled)
  | .ask r resume =>
    of (serveSafely p l r) (callbacks p l r) >>= fun answer =>
      watchPerform p l (resume answer)

def watchPrint (p : Port η σ) (text : String) : Course η σ Unit :=
  of (print p text) fun w => [.console text w (Link.print p text w)]

def watchReport (p : Port η σ) (stage message : String) : Course η σ Unit := do
  plain (Act.note (exceptionEvent stage message))
  watchPrint p (exceptionReport message)

section Engine

variable (E : Engine) (p : Port η σ) (l : Locator)

/-- Whether an operation has come to an exception. -/
def exceptional : Crossed E α → Bool
  | (.error (.thrown _), _) => true
  | _ => false

def watchCrossing (x : Outcome E.State E.Value α) : Course η σ (Crossed E α) := do
  let r ← watchPerform p l x
  of (handBack E r) fun _ => [.crossed (exceptional E r)]

def watchRead (v : E.Value) (key : String) (s : E.State) :
    Course η σ (Option String × E.State) := do
  match ← watchCrossing E p l (E.read v key s) with
  | (.ok text, s) => return (text, s)
  | (.error _, s) => return (none, s)

def watchDescribe (v : E.Value) (s : E.State) : Course η σ (String × E.State) := do
  if E.isError s v then
    let (message, s) ← watchRead E p l v "message" s
    let (stack, s) ← watchRead E p l v "stack" s
    return (Engine.errorWords message stack, s)
  else return (E.shown s v, s)

/-- The engine fails. -/
def watchFailure {ε : Type} (reason : String) : Course η σ (Except String ε) :=
  of (pure (.error reason)) fun _ => [.failed reason]

def watchScriptError (stage : String) (f : Failure E.Value) (s : E.State) :
    Course η σ (Except String (String × E.State)) := do
  match f with
  | .noMemory => watchFailure Engine.noRoom
  | .refused message =>
    watchReport p stage message
    return .ok (message, s)
  | .thrown v =>
    let (message, s) ← watchDescribe E p l v s
    watchReport p stage message
    return .ok (message, s)

def watchEvaluate (name : String) (s : E.State) : Course η σ (Except String E.State) := do
  plain (Act.notes (l.loadEvents name))
  match l.load name with
  | .error e =>
    plain (Act.note (skippedEvent name e))
    return .ok s
  | .ok source =>
    match ← watchCrossing E p l (E.evaluate source s) with
    | (.ok (), s) => return .ok s
    | (.error f, s) => (watchScriptError E p l name f s).proceed fun (_, s) => return .ok s

def watchFailEntryPoint (o : SessionOptions) (f : Failure E.Value) (s : E.State) :
    Course η σ (Except String SessionOutcome) :=
  (watchScriptError E p l o.entryPoint f s).proceed fun (message, _) =>
    return .ok (.scriptFailed message)

def watchInvoke (o : SessionOptions) (args : List String) (main : E.Value) (s : E.State) :
    Course η σ (Except String SessionOutcome) := do
  if !E.isFunction s main then
    plain (Act.note (missingEvent o.entryPoint))
    watchPrint p guidance
    return .ok .entryPointMissing
  else
    match ← watchCrossing E p l (E.callWith main args s) with
    | (.ok (), _) => return .ok .completed
    | (.error f, s) => watchFailEntryPoint E p l o f s

def watchEntryPoint (o : SessionOptions) (args : List String) (s : E.State) :
    Course η σ (Except String SessionOutcome) := do
  match ← watchCrossing E p l (E.lookup o.entryPoint s) with
  | (.ok main, s) => watchInvoke E p l o args main s
  | (.error f, s) => watchFailEntryPoint E p l o f s

/-- Everything that happens in the engine. -/
def watchDrive (o : SessionOptions) (args : List String) (s : E.State) :
    Course η σ (Except String SessionOutcome) := do
  match E.install s with
  | .error reason => watchFailure reason
  | .ok s =>
    plain (Act.note installedEvent)
    (watchEvaluate E p l o.bootstrap s).proceed fun s =>
      (watchEvaluate E p l o.entry s).proceed fun s => watchEntryPoint E p l o args s

end Engine

/-- A session once its host is attached. -/
def watchAttached (E : Engine) (p : Port η σ) (l : Locator) (o : SessionOptions)
    (args : List String) : Course η σ (Except SessionError SessionOutcome) := do
  match ← plain (newEngine E o) with
  | .error reason => return .error (.engine reason)
  | .ok s =>
    plain (Act.note (startedEvent l args))
    let driven ← (watchDrive E p l o args s).around Act.catching
    plain (conclude driven)

def watchRun (E : Engine) (p : Port η σ) (l : Locator) (o : SessionOptions) (host : η)
    (args : List String) : Course η σ (Except SessionError SessionOutcome) := do
  match ← plain (Link.attach host) with
  | .error e => return .error (.host e)
  | .ok guard =>
    (watchAttached E p l o args).around fun x => x.afterwards (Link.release guard)

/-- What happens when a session is run in a world. -/
def moments (E : Engine) (p : Port η σ) (l : Locator) (o : SessionOptions) (host : η)
    (args : List String) (w : World η σ) : List (Moment η σ) :=
  (watchRun E p l o host args w).2

/-- The calls that a session makes of hosts. -/
def calls (E : Engine) (p : Port η σ) (l : Locator) (o : SessionOptions) (host : η)
    (args : List String) (w : World η σ) : List Call :=
  (run E p.noting l o host args { w with host := (w.host, []) }).2.host.2

end DecBridge.Session
