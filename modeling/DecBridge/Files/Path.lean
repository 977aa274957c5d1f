import DecBridge.Text.Lines

/-!
# Paths

A path is a text whose components are divided by slashes; one that starts with a slash is absolute.
-/

namespace DecBridge.Files

/-- The components of a path, empty ones included. -/
def components (path : String) : List String :=
  (Text.cutAt '/' path.toList).map String.ofList

def isAbsolute (path : String) : Bool := path.toList.head? == some '/'

/-- Appends a path to another one, with a slash between them where one is needed; an absolute path
replaces what it is appended to. -/
def join (base path : String) : String :=
  if isAbsolute path || base.isEmpty then path
  else if base.toList.getLast? == some '/' then base ++ path
  else base ++ "/" ++ path

/-- An absolute path from its components. -/
def absolute (names : List String) : String := "/" ++ "/".intercalate names

end DecBridge.Files
