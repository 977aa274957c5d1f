import DecBridge.Settings
import DecBridge.Text.Blank
import DecBridge.Text.Quoted

/-!
# Actions

What a command line asks of the decompiler. A line is claimed by its first three letters, and the
character after them chooses the action; the host's question who decompiles is recognised too.
-/

namespace DecBridge

/-- What a command line asks for. -/
inductive Action where
  | decompile (args : List String)
  | update
  | usage
  | configQuery
  deriving DecidableEq, Inhabited, Repr

namespace Action

/-- What a claimed command line starts with. -/
def commandStart : String := "pdw"

/-- What the host's question who decompiles starts with. -/
def queryStart : String := "e cmd.pdc"

/-- The answer to that question. -/
def identifier : String := "r2dec-wasm"

/-- The host command that installs or upgrades the scripts. -/
def updateCommand : String := "!r2pm -ci r2dec-wasm"

/-- Whether a line is the host's question who decompiles. -/
def isQuery (line : List Char) : Bool :=
  queryStart.toList.isPrefixOf line && line.contains '=' && line.contains '?'

/-- The action that the rest of a claimed line chooses. -/
def ofRest : List Char → Action
  | [] => .decompile []
  | ' ' :: rest => .decompile (Text.words (String.ofList (' ' :: rest)))
  | 'a' :: _ => .decompile ["--all"]
  | 'i' :: _ => .decompile ["--issue"]
  | 'u' :: _ => .update
  | _ :: _ => .usage

/-- The action of a line, if the line is claimed. -/
def route (line : String) : Option Action :=
  let cs := line.toList
  if isQuery cs then some .configQuery
  else if commandStart.toList.isPrefixOf cs then some (ofRest (cs.drop commandStart.toList.length))
  else none

/-- The action with its constructor's name. -/
def shown : Action → String
  | .decompile args =>
    "Decompile(" ++ Text.record "InvocationArgs" [("tokens", Text.quotedList args)] false ++ ")"
  | .update => "Update"
  | .usage => "Usage"
  | .configQuery => "ConfigQuery"

/-- A text with blanks after it up to a width. -/
def padTo (width : Nat) (s : String) : String :=
  s ++ String.ofList (List.replicate (width - s.length) ' ')

/-- The line of the help text for a setting. -/
def settingLine (s : Setting) : String := " " ++ padTo 11 s.name ++ " - " ++ s.description ++ "\n"

/-- The help text. -/
def usageText : String :=
  "Usage: pdw [args] - core plugin for r2dec\n"
    ++ " pdw   - decompile current function\n"
    ++ " pdw?  - show this help\n"
    ++ " pdwa  - decompile all the code segment\n"
    ++ " pdwi  - generates the issue data\n"
    ++ " pdwu  - install/upgrade r2dec via r2pm\n"
    ++ "Evaluable Variables:\n"
    ++ String.join (Setting.all.map settingLine)
    ++ "Environment\n"
    ++ " R2DEC_WASM_HOME  defaults to the root directory of the r2dec repo\n"

end Action

end DecBridge
