import DecBridge.Files.Tree
import DecBridge.Pipe

/-!
# Starting a disassembler

A program is named by a path, or by a plain name that is looked for in the directories of the search
path. Only a program that may be executed is started; everything else is a reason not to.
-/

namespace DecBridge

open Files (FileSystem)

open Host (HostError)

open Output (Fault Sink)

/-- What can be started: the file system, the directories where plain names are looked for, and what
each program does when it is started on a target. -/
structure Programs (γ : Type) where
  files : FileSystem
  searchPath : List String
  /-- A program by the path of its file from the top. -/
  started : List String → Option (String → Child γ)

namespace Programs

variable {γ : Type}

/-- The program at a path. -/
def atPath (ps : Programs γ) (path : String) : Except Fault (String → Child γ) :=
  match ps.files.find path with
  | .error e => .error e
  | .ok (.dir _ _) => .error .permissionDenied
  | .ok (.file names _) =>
    match ps.started names with
    | some run => .ok run
    | none => .error .permissionDenied

/-- Looks for a plain name in directories; what may not be executed is passed over, but remembered,
and what goes wrong in any other way than that there is no such file ends the search. -/
def search (ps : Programs γ) (name : String) (denied : Bool) :
    List String → Except Fault (String → Child γ)
  | [] => .error (if denied then .permissionDenied else .notFound)
  | dir :: rest =>
    match ps.atPath (Files.join dir name) with
    | .ok run => .ok run
    | .error .permissionDenied => ps.search name true rest
    | .error .notFound | .error .notDirectory => ps.search name denied rest
    | .error fault => .error fault

/-- The program of a name. -/
def find (ps : Programs γ) (program target : String) : Except Fault (Child γ) :=
  if program.toList.contains '\x00' || target.toList.contains '\x00' then
    .error (.other "nul byte found in provided data")
  else if program.isEmpty then .error .notFound
  else
    let found := if program.toList.contains '/' then ps.atPath program
      else if Files.longestName < Text.byteLength program.toList then .error .nameTooLong
      else ps.search program false ps.searchPath
    found.map fun run => run target

end Programs

/-- What a launch comes to. -/
inductive Launch (γ : Type) where
  /-- Nothing was started. -/
  | refused (e : HostError)
  /-- A process was started. -/
  | opened (c : Child γ) (o : Pipe.Opening γ)

/-- Starts a disassembler on a target and waits until it is ready. -/
def Programs.launch {γ : Type} (ps : Programs γ) (program target : String) (console : Sink) :
    Launch γ × List Log.Event :=
  let spawning := Pipe.spawningEvent program target
  match ps.find program target with
  | .error fault => (.refused (.spawn program target fault), [spawning])
  | .ok c =>
    let (opening, events) := (Pipe.fresh c program target console).awaitReady c
    (.opened c opening, spawning :: events)

end DecBridge
