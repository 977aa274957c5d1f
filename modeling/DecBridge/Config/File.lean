import DecBridge.Config.Error
import DecBridge.Files.Tree
import DecBridge.Toml.Document

/-!
# Configuration files

A file may extend another one, which then counts as a lower layer. A file is known by its path from
the top, and a file that is met again while it is being loaded is an error.
-/

namespace DecBridge.Config

open Files (FileSystem)

/-! ## Formats -/

/-- What follows the last point in the name of a file, in lower case; a point at the start of the name
does not count. -/
def extension (path : String) : String :=
  let name := path.toList.reverse.takeWhile (· != '/')
  let ending := name.takeWhile (· != '.')
  if ending.length + 1 < name.length then Text.lower (String.ofList ending.reverse) else ""

/-- The format of a file that is not supported, by its name. -/
def unsupported? (path : String) : Option String :=
  match extension path with
  | "json" | "json5" => some "json5"
  | "yaml" | "yml" => some "yaml"
  | _ => none

/-- Reads the content of a file. -/
def readContent (path : String) (content : Text.Bytes) : Except FileProblem Toml.Document :=
  match Text.decode content with
  | .error _ => .error (.unreadable .notUtf8)
  | .ok document =>
    match unsupported? path with
    | some format => .error (.unsupported format)
    | none =>
      match Toml.read document with
      | .error stop => .error (.malformed stop document)
      | .ok read => .ok read

/-- The file that a table extends, if it extends one. -/
def base? (t : Table) : Except FileProblem (Option String) :=
  match t.lookup "extends" with
  | none => .ok none
  | some (.text path) => if path.isEmpty then .error .extendsNothing else .ok (some path)
  | some v => .error (.extendsOther v.kind)

/-! ## Loading -/

/-- What is at the path of a configuration file. -/
inductive Place where
  | nothing
  | unusable (problem : FileProblem)
  | file (names : List String) (content : Text.Bytes)

def look (fs : FileSystem) (path : String) : Place :=
  match fs.find path with
  | .error .notFound => .nothing
  | .error fault => .unusable (.unreadable fault)
  | .ok (.dir [] _) => .unusable .nameless
  | .ok (.dir _ _) => .unusable .notRegular
  | .ok (.file names content) => .file names content

/-- Loads a file at a path from the top, and what it extends, as layers with the highest first.
`above` are the files whose loading led here, `fuel` bounds how many there may be. -/
def loadChain (fs : FileSystem) : Nat → List String → List String → Text.Bytes →
    Except Problem (List Table)
  | 0, above, names, _ => .error (.cycle (above ++ [Files.absolute names]))
  | fuel + 1, above, names, content =>
    let path := Files.absolute names
    if above.contains path then .error (.cycle (above ++ [path]))
    else
      match readContent path content with
      | .error problem => .error (.file path problem)
      | .ok read =>
        let layer : Table := Value.finiteEntries read.table
        match read.lacking, base? read.table with
        | some stop, _ => .error (.edition stop ((Text.decode content).toOption.getD ""))
        | none, .error problem => .error (.file path problem)
        | none, .ok none => .ok [layer]
        | none, .ok (some relative) =>
          let base := Files.join (Files.absolute names.dropLast) relative
          match look fs base with
          | .nothing => .error (.file base (.baseMissing base path))
          | .unusable problem => .error (.file base problem)
          | .file names content =>
            (loadChain fs fuel (above ++ [path]) names content).map (layer :: ·)

mutual

/-- The number of files at or beneath a node. -/
def fileCount : Files.Node → Nat
  | .file _ => 1
  | .dir entries => fileCounts entries
  | .link _ => 0

def fileCounts : List (String × Files.Node) → Nat
  | [] => 0
  | (_, node) :: rest => fileCount node + fileCounts rest

end

/-- Loads the file at a path, if there is something at all. A chain of different files is not longer
than there are files. -/
def loadFile (fs : FileSystem) (path : String) : Except Problem (Option (List Table)) :=
  match look fs path with
  | .nothing => .ok none
  | .unusable problem => .error (.file path problem)
  | .file names content => (loadChain fs (fileCounts fs.top + 1) [] names content).map some

end DecBridge.Config
