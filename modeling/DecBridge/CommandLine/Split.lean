/-!
# Configuration flags in front of a command line

A command line starts with configuration flags, each either `--name=value` or `--name` and the
argument after it, whatever that is. The first argument that is no such flag ends them, and what
follows is for the program itself.
-/

namespace DecBridge.CommandLine

/-- The configuration flags. -/
def configFlags : List String :=
  ["config-path", "log-filter", "log-format", "script-root", "r2-binary", "memory-limit",
    "max-stack-size", "fatal-policy"]

/-- What an argument is where a configuration flag may stand. -/
inductive FlagForm where
  /-- A flag with its value. -/
  | whole
  /-- A flag whose value is the next argument. -/
  | opening
  | other
  deriving DecidableEq, Inhabited, Repr

/-- The form of an argument. -/
def FlagForm.of (argument : String) : FlagForm :=
  match argument.toList with
  | '-' :: '-' :: body =>
    if configFlags.contains (String.ofList (body.takeWhile (· != '='))) then
      if body.contains '=' then .whole else .opening
    else .other
  | _ => .other

/-- A command line cut behind its configuration flags. -/
structure Split where
  config : List String
  /-- Where the arguments that are for the program itself start. -/
  start : Nat
  rest : List String
  deriving DecidableEq, Inhabited, Repr

/-- Whether a flag waits for its value behind an argument; none, if the argument ends the flags. What
stands where a flag waits is its value, whatever it looks like. -/
def waitsAfter? (waiting : Bool) (argument : String) : Option Bool :=
  if waiting then some false
  else
    match FlagForm.of argument with
    | .whole => some false
    | .opening => some true
    | .other => none

/-- Collects the configuration flags at the front of arguments, and counts what it collects. -/
def collect (waiting : Bool) : List String → List String × Nat
  | [] => ([], 0)
  | a :: rest =>
    match waitsAfter? waiting a with
    | none => ([], 0)
    | some next =>
      let (flags, n) := collect next rest
      (a :: flags, n + 1)

/-- A command line without its configuration flags: the name of the program and what stands from
some place on. -/
def prepare (arguments : List String) (start : Nat) : List String :=
  arguments.head?.toList ++ arguments.drop start

/-- Cuts a whole command line, program name first; the name goes with both parts. -/
def split (arguments : List String) : Split :=
  match arguments with
  | [] => ⟨[], 0, prepare arguments 0⟩
  | program :: others =>
    let (flags, n) := collect false others
    ⟨program :: flags, n + 1, prepare arguments (n + 1)⟩

end DecBridge.CommandLine
