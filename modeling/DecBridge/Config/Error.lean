import DecBridge.Config.Flags
import DecBridge.Config.Layer
import DecBridge.Output.Fault
import DecBridge.Toml.Position

/-!
# Configuration that cannot be loaded

What may be wrong with the flags, with a file, or with the values once all layers are together.
-/

namespace DecBridge.Config

open CommandLine (Mistake)

/-- What is wrong with a file. -/
inductive FileProblem where
  | missing
  /-- A path to the top, which has no name of its own. -/
  | nameless
  | notRegular
  | unreadable (fault : Output.Fault)
  /-- A format that is not supported. -/
  | unsupported (format : String)
  | malformed (stop : Toml.Stop) (document : String)
  /-- What the file extends is not named by a text. -/
  | extendsOther (kind : String)
  | extendsNothing
  | baseMissing (base referrer : String)
  deriving DecidableEq, Inhabited, Repr

def FileProblem.message : FileProblem → String
  | .missing => "required configuration file not found"
  | .nameless => "cannot determine file name for configuration file path"
  | .notRegular => "configuration path is not a regular file"
  | .unreadable fault => fault.message
  | .unsupported format =>
    format ++ " feature disabled: enable the '" ++ format ++ "' feature to support this file format"
  | .malformed stop document => stop.text document
  | .extendsOther kind => "'extends' key must be a string, but found type: " ++ kind
  | .extendsNothing => "'extends' key must be a non-empty string"
  | .baseMissing base referrer =>
    "extended configuration file '" ++ base ++ "' does not exist (referenced from '" ++ referrer ++ "')"

/-- One thing that is wrong. -/
inductive Problem where
  | flags (m : Mistake)
  | file (path : String) (problem : FileProblem)
  /-- Files that extend each other in a circle. -/
  | cycle (paths : List String)
  | merge (e : FieldError)
  /-- A document that only the newer edition of its format can read. -/
  | edition (stop : Toml.Stop) (document : String)
  deriving Inhabited

def Problem.message : Problem → String
  | .flags m => "Failed to parse command-line arguments: " ++ m.message grammar
  | .file path problem => "Configuration file error in '" ++ path ++ "': " ++ problem.message
  | .cycle paths => "cyclic extends detected: " ++ " -> ".intercalate paths
  | .merge e => "Failed to merge CLI with configuration: " ++ e.message
  | .edition stop document =>
    "Failed to merge CLI with configuration: " ++ stop.text document ++ " in TOML source string"

/-- Everything that is wrong: one problem, or several. -/
inductive LoadError where
  | one (p : Problem)
  | several (first second : Problem) (others : List Problem)
  deriving Inhabited

namespace LoadError

/-- The error of some problems. -/
def ofProblems (first : Problem) : List Problem → LoadError
  | [] => .one first
  | second :: others => .several first second others

/-- The problems of an error. -/
def problems : LoadError → List Problem
  | .one p => [p]
  | .several first second others => first :: second :: others

def message : LoadError → String
  | .one p => p.message
  | e@(.several _ _ _) =>
    let numbered := e.problems.zipIdx.map fun (p, i) => toString (i + 1) ++ ": " ++ p.message
    "multiple configuration errors:\n" ++ "\n".intercalate numbered

end LoadError

end DecBridge.Config
