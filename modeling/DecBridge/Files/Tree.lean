import DecBridge.Files.Path
import DecBridge.Output.Fault
import DecBridge.Text.Utf8

/-!
# File trees

Files, directories and symbolic links, and the walk that resolves a path: component by component,
through directories and links. A walk beneath a directory never leaves it: it refuses to step above
that directory and to follow an absolute link.

The result of a walk beneath a directory is a function of the entries of that directory alone.
-/

namespace DecBridge.Files

open Output (Fault)

open Text (Bytes)

inductive Node where
  | file (content : Bytes)
  | dir (entries : List (String × Node))
  | link (target : String)
  deriving Inhabited

/-- The entries of a directory. -/
abbrev Entries := List (String × Node)

/-- A directory that a walk went through, with the name it was entered by. -/
structure Step where
  name : String
  entries : Entries

/-- What a path leads to: a file with the path to it, or a directory. -/
inductive Found where
  | file (path : List String) (content : Bytes)
  | dir (path : List String) (entries : Entries)

/-- Longest name of a file, in bytes. -/
def longestName : Nat := 255

/-- Longest path, in bytes. -/
def longestPath : Nat := 4095

/-- Number of links that a walk may follow. -/
def mostLinks : Nat := 40

/-- The names of the directories of a walk, from the top. -/
def namesOf (steps : List Step) : List String := (steps.map Step.name).reverse

/-- Resolves components from the directory that `steps` end in. With `beneath`, the walk may not
leave the directory it started from, which is `top`. -/
def walk (beneath : Bool) (top : Entries) (links : Nat) (steps : List Step) :
    List String → Except Fault Found
  | [] => .ok (.dir (namesOf steps) (match steps with | s :: _ => s.entries | [] => top))
  | c :: rest =>
    if c == "" || c == "." then walk beneath top links steps rest
    else if c == ".." then
      match steps with
      | _ :: up => walk beneath top links up rest
      | [] => if beneath then .error .leftRoot else walk beneath top links [] rest
    else if Text.byteLength c.toList > longestName then .error .nameTooLong
    else
      let here := match steps with
        | s :: _ => s.entries
        | [] => top
      match here.lookup c with
      | none => .error .notFound
      | some (.dir entries) => walk beneath top links (⟨c, entries⟩ :: steps) rest
      | some (.file content) =>
        if rest.isEmpty then .ok (.file (namesOf steps ++ [c]) content) else .error .notDirectory
      | some (.link target) =>
        match links with
        | 0 => .error .tooManyLinks
        | left + 1 =>
          if isAbsolute target then
            if beneath then .error .leftRoot
            else walk beneath top left [] (components target ++ rest)
          else walk beneath top left steps (components target ++ rest)
termination_by cs => (links, cs.length)

/-- What a name leads to beneath a directory. -/
def findBeneath (entries : Entries) (name : String) : Except Fault Found :=
  if name.isEmpty then .error .notFound
  else if name.toList.contains '\x00' then .error .invalidArgument
  else if isAbsolute name then .error .leftRoot
  else if longestPath < Text.byteLength name.toList then .error .nameTooLong
  else walk true entries mostLinks [] (components name)

/-- The content of the file that a name leads to beneath a directory. -/
def readBeneath (entries : Entries) (name : String) : Except Fault Bytes :=
  match findBeneath entries name with
  | .error e => .error e
  | .ok (.dir _ _) => .error .isDirectory
  | .ok (.file _ content) => .ok content

/-! ## File systems -/

/-- A file system as a process sees it: everything beneath the top, and the directory that relative
paths start from. -/
structure FileSystem where
  top : Entries
  workingDir : List String
  deriving Inhabited

namespace FileSystem

/-- The path from the top that a path means. -/
def fromTop (fs : FileSystem) (path : String) : List String :=
  if isAbsolute path then components path else fs.workingDir ++ components path

/-- What a path leads to. -/
def find (fs : FileSystem) (path : String) : Except Fault Found :=
  if path.isEmpty then .error .notFound
  else if path.toList.contains '\x00' then .error .nulInName
  else if longestPath < Text.byteLength path.toList then .error .nameTooLong
  else walk false fs.top mostLinks [] (fs.fromTop path)

/-- The entries of the directory that a path leads to. -/
def openDir (fs : FileSystem) (path : String) : Except Fault Entries :=
  match fs.find path with
  | .error e => .error e
  | .ok (.file _ _) => .error .notDirectory
  | .ok (.dir _ entries) => .ok entries

end FileSystem

/-! ## Changing a tree -/

/-- Sets an entry, keeping its place if it exists. -/
def setEntry (entries : Entries) (name : String) (node : Node) : Entries :=
  match entries with
  | [] => [(name, node)]
  | (n, x) :: rest => if n == name then (n, node) :: rest else (n, x) :: setEntry rest name node

/-- Puts a node at a path of plain names, making the directories on the way. -/
def put (node : Node) : List String → Entries → Entries
  | [], entries => entries
  | [name], entries =>
    match node, entries.lookup name with
    | .dir [], some (.dir es) => setEntry entries name (.dir es)
    | _, _ => setEntry entries name node
  | name :: rest, entries =>
    match entries.lookup name with
    | some (.dir es) => setEntry entries name (.dir (put node rest es))
    | _ => setEntry entries name (.dir (put node rest []))

/-- Removes the file or link at a path of plain names. -/
def erase : List String → Entries → Entries
  | [], entries => entries
  | [name], entries =>
    match entries.lookup name with
    | some (.dir _) => entries
    | _ => entries.filter fun (n, _) => n != name
  | name :: rest, entries =>
    match entries.lookup name with
    | some (.dir es) => setEntry entries name (.dir (erase rest es))
    | _ => entries

end DecBridge.Files
