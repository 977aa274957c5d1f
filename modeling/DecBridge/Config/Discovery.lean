import DecBridge.Config.File

/-!
# Finding a configuration file

The places where a configuration file may be, in the order in which they are tried. The first file
that can be loaded is taken. The file that a flag names has to be there; any other may be missing, and
what is wrong with it matters only if no other file can be loaded.
-/

namespace DecBridge.Config

open Files (FileSystem)

/-- The environment of a process: names with their values. -/
abbrev Environment := List (String × String)

/-- The value of a variable, unless it is empty. -/
def setVariable? (env : Environment) (name : String) : Option String :=
  (env.lookup name).filter fun v => !v.isEmpty

structure Candidate where
  path : String
  required : Bool
  deriving DecidableEq, Inhabited, Repr

/-- The name of a configuration file that stands by itself. -/
def fileName : String := ".pdw.toml"

/-- The directories of a list that are divided by colons. -/
def directories (list : String) : List String :=
  ((Text.cutAt ':' list.toList).map String.ofList).filter fun d => !d.isEmpty

/-- The directories that hold the configuration of programs. -/
def bases (env : Environment) : List String :=
  let shared := match setVariable? env "XDG_CONFIG_DIRS" with
    | some list => directories list
    | none => []
  (setVariable? env "XDG_CONFIG_HOME").toList
    ++ (if shared.isEmpty then ["/etc/xdg"] else shared)
    ++ (setVariable? env "APPDATA").toList
    ++ (setVariable? env "LOCALAPPDATA").toList
    ++ (setVariable? env "HOME").toList.map fun home => Files.join home ".config"

/-- The paths that are tried when no flag names one. -/
def standardPaths (fs : FileSystem) (env : Environment) : List String :=
  (setVariable? env "PDW_CONFIG_PATH").toList
    ++ (bases env).flatMap (fun base =>
      [Files.join (Files.join base "pdw") "config.toml", Files.join base fileName])
    ++ (setVariable? env "HOME").toList.map (fun home => Files.join home fileName)
    ++ [Files.join (Files.absolute fs.workingDir) fileName]

/-- Everything that is tried. -/
def candidates (fs : FileSystem) (env : Environment) (named : Option String) : List Candidate :=
  named.toList.map (fun path => ⟨path, true⟩)
    ++ (standardPaths fs env).eraseDups.map fun path => ⟨path, false⟩

/-- What trying candidates comes to: the layers of the file that was loaded, and what was wrong with
those before it. -/
structure Search where
  layers : Option (List Table) := none
  required : List Problem := []
  optional : List Problem := []

/-- Adds what was wrong with a candidate. -/
def Search.add (s : Search) (c : Candidate) (p : Problem) : Search :=
  if c.required then { s with required := p :: s.required } else { s with optional := p :: s.optional }

/-- Tries candidates up to the first that can be loaded. -/
def search (fs : FileSystem) : List Candidate → Search
  | [] => {}
  | c :: rest =>
    match loadFile fs c.path with
    | .ok (some layers) => { layers := some layers }
    | .ok none =>
      let s := search fs rest
      if c.required then s.add c (.file c.path .missing) else s
    | .error p => (search fs rest).add c p

/-- The problems that are reported. -/
def Search.problems (s : Search) : List Problem :=
  s.required ++ if s.layers.isSome then [] else s.optional

end DecBridge.Config
