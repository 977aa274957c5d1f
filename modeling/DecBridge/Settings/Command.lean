import DecBridge.Text.Blank

/-!
# Settings commands

A command line that reads or assigns a plugin setting: the letter `e` and a space, then the key, and
for an assignment an equals sign and the value. Blanks around key and value do not count, and every
key of the plugin starts with `pdw.`.
-/

namespace DecBridge

inductive SettingsCommand where
  | get (key : String)
  | set (key value : String)
  deriving DecidableEq, Inhabited, Repr

namespace SettingsCommand

/-- What every key of the plugin starts with. -/
def keyStart : List Char := ['p', 'd', 'w', '.']

/-- Reads what follows the command word. -/
def ofRest (rest : List Char) : Option SettingsCommand :=
  if rest.contains '=' then
    let key := Text.dropTrailingBlanks (Text.dropBlanks (rest.takeWhile (· != '=')))
    let value := Text.dropTrailingBlanks (Text.dropBlanks ((rest.dropWhile (· != '=')).drop 1))
    if keyStart.isPrefixOf key then some (.set (String.ofList key) (String.ofList value)) else none
  else if keyStart.isPrefixOf rest then
    some (.get (String.ofList (Text.dropTrailingBlanks rest)))
  else none

/-- Reads a settings command; any other command is none. -/
def parse (command : String) : Option SettingsCommand :=
  match Text.dropTrailingBlanks (Text.dropBlanks command.toList) with
  | 'e' :: ' ' :: rest => ofRest (Text.dropBlanks rest)
  | _ => none

/-- The plainest way to write a command. -/
def render : SettingsCommand → String
  | .get key => "e " ++ key
  | .set key value => "e " ++ key ++ "=" ++ value

end SettingsCommand

end DecBridge
