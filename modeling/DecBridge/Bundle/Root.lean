import DecBridge.Files.Tree
import DecBridge.Log.Event

/-!
# The root of the script bundle

Where the scripts of an invocation are looked for: the directory that the environment names, else
the configured one, else the conventional place under the user's home. The first of these that is
there is taken, and the others are not looked at again.
-/

namespace DecBridge.Bundle

open Text (Bytes)

/-- Why a root was chosen. -/
inductive RootSource where
  | environment
  | configured
  | standard
  deriving DecidableEq, Inhabited, Repr

structure ScriptRoot where
  path : String
  source : RootSource
  deriving DecidableEq, Inhabited, Repr

/-- The variable of the environment that names a root. -/
def rootVariable : String := "R2DEC_WASM_HOME"

/-- The data directory of the host, from the user's home. -/
def hostDataDir : String := ".local/share/radare2"

/-- The place of the bundle in the data directory of the host. -/
def bundleDir : String := "r2pm/git/r2dec-wasm"

/-- The conventional root under a home directory. -/
def rootUnder (home : String) : String := Files.join (Files.join home hostDataDir) bundleDir

def locatorTarget : String := "pdw_runtime::locator"

/-- The root that the environment names: a text that is not empty. -/
def override? : Option Bytes → Option String
  | none => none
  | some bytes =>
    if bytes.isEmpty then none
    else
      match Text.decode bytes with
      | .ok path => some path
      | .error _ => none

/-- What is reported of a name that the environment gives and that is no text. -/
def overrideEvents : Option Bytes → List Log.Event
  | none => []
  | some bytes =>
    match Text.decode bytes with
    | .ok _ => []
    | .error _ =>
      [⟨.warn, locatorTarget, "ignoring non UTF-8 " ++ rootVariable,
        [("path", .shown (Text.decodeLossy bytes))]⟩]

/-- Chooses a root. -/
def resolve (override : Option Bytes) (configured fallback : Option String) : Option ScriptRoot :=
  match override? override with
  | some path => some ⟨path, .environment⟩
  | none =>
    match configured with
    | some path => some ⟨path, .configured⟩
    | none => fallback.map fun path => ⟨path, .standard⟩

/-- The parts of a process's environment that the choice depends on. -/
structure Environment where
  /-- The value of the variable that names a root. -/
  root : Option Bytes
  /-- The home directory of the user. -/
  home : Option Bytes
  deriving Inhabited

/-- The conventional root under the user's home, if that is a text. -/
def Environment.standardRoot (env : Environment) : Option String :=
  match env.home with
  | none => none
  | some bytes =>
    match Text.decode bytes with
    | .ok home => some (rootUnder home)
    | .error _ => none

/-- The root that the environment and the configuration choose. -/
def Environment.resolve (env : Environment) (configured : Option String) : Option ScriptRoot :=
  Bundle.resolve env.root configured env.standardRoot

end DecBridge.Bundle
