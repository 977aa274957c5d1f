import DecBridge.Config.Discovery
import DecBridge.Config.Variables

/-!
# Loading the configuration

The loader of the executable. The layers are, from the highest to the lowest, the flags, the
environment, and the file with what it extends. All layers are read and put together even if some
cannot be used, so that everything that is wrong is reported at once.

What holds of every configuration rests on `Library.Layered` and not on this loader.
-/

namespace DecBridge.Config

open Files (FileSystem)

/-- The layers of a configuration, the highest first. -/
def layers (flags : Table) (env : Environment) (file : Option (List Table)) : List Table :=
  flags :: ofVariables env :: file.getD []

/-- Loads the configuration of a command line, program name first. -/
def load (fs : FileSystem) (env : Environment) (arguments : List String) : Except LoadError Config :=
  let parsed := grammar.read arguments.tail
  let (flags, path, flagProblems) := match parsed with
    | .ok p => (ofFlags p, pathOfFlags? p, [])
    | .error m => ([], none, [Problem.flags m])
  let found := search fs (candidates fs env path)
  let problems := flagProblems ++ found.problems
  match ofLayers (layers flags env found.layers), problems with
  | .ok config, [] => .ok config
  | .ok _, p :: ps => .error (.ofProblems p ps)
  | .error e, [] => .error (.one (.merge e))
  | .error e, p :: ps => .error (.ofProblems p (ps ++ [.merge e]))

end DecBridge.Config
