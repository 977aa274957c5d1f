import DecBridge.Bundle.Root

/-!
# Looking up scripts

A script is a file beneath the root, by its name or, as a module, by its name without the extension.
Nothing is kept between two lookups. A file that cannot be read beneath the root, or that is empty,
is not found.
-/

namespace DecBridge.Bundle

open Files (FileSystem)

open Output (Fault)

inductive LocateError where
  | rootUnavailable
  | notFound (name root : String)
  | notText (name root : String)
  | nameTooLong (name : String) (length limit : Nat)
  deriving DecidableEq, Inhabited, Repr

def LocateError.message : LocateError → String
  | .rootUnavailable => "no script root is available; set R2DEC_WASM_HOME"
  | .notFound name root => "'" ++ name ++ "' not found under " ++ root
  | .notText name root => "'" ++ name ++ "' under " ++ root ++ " is not valid UTF-8"
  | .nameTooLong name length limit =>
    "module filename '" ++ name ++ "' is " ++ toString length ++ " bytes, the limit is "
      ++ toString limit

/-- What the name of a module lacks to be the name of its file. -/
def moduleExtension : String := ".js"

/-- Longest name of a module's file, in bytes. -/
def longestModuleName : Nat := 255

/-- The name of the file of a module. -/
def moduleFileName (module : String) : Except LocateError String :=
  let name := module ++ moduleExtension
  let length := Text.byteLength name.toList
  if length > longestModuleName then .error (.nameTooLong name length longestModuleName)
  else .ok name

/-- Reads scripts beneath a root, if there is one. -/
structure Locator where
  files : FileSystem
  root : Option ScriptRoot

namespace Locator

/-- The bytes of a file beneath a root. -/
def readUnder (files : FileSystem) (root name : String) : Except Fault Text.Bytes :=
  match files.openDir root with
  | .error e => .error e
  | .ok entries => Files.readBeneath entries name

/-- The text of a script file. -/
def load (l : Locator) (name : String) : Except LocateError String :=
  match l.root with
  | none => .error .rootUnavailable
  | some root =>
    match readUnder l.files root.path name with
    | .error _ => .error (.notFound name root.path)
    | .ok [] => .error (.notFound name root.path)
    | .ok bytes =>
      match Text.decode bytes with
      | .ok text => .ok text
      | .error _ => .error (.notText name root.path)

/-- The text of a module. -/
def require (l : Locator) (module : String) : Except LocateError String :=
  match moduleFileName module with
  | .error e => .error e
  | .ok name => l.load name

/-- What loading a file reports to the log. -/
def loadEvents (l : Locator) (name : String) : List Log.Event :=
  match l.root with
  | none => []
  | some root =>
    match readUnder l.files root.path name with
    | .error e =>
      [⟨.debug, locatorTarget, "script lookup failed",
        [("name", .text name), ("root", .shown root.path), ("error", .shown e.message)]⟩]
    | .ok [] =>
      [⟨.debug, locatorTarget, "script is empty", [("name", .text name), ("root", .shown root.path)]⟩]
    | .ok _ => []

/-- What loading a module reports to the log. -/
def requireEvents (l : Locator) (module : String) : List Log.Event :=
  match moduleFileName module with
  | .error _ => []
  | .ok name => l.loadEvents name

end Locator

end DecBridge.Bundle
