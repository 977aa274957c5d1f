import DecBridge.Text.Words

/-!
# Log formats

The two ways in which log records are written.
-/

namespace DecBridge.Log

inductive Format where
  | json
  | compact
  deriving DecidableEq, Inhabited, Repr

namespace Format

def name : Format → String
  | .json => "json"
  | .compact => "compact"

/-- The format with its constructor's name. -/
def shown : Format → String
  | .json => "Json"
  | .compact => "Compact"

/-- Reads a format, whatever the case of its letters. -/
def ofText? (s : String) : Option Format :=
  [Format.json, .compact].find? fun f => f.name == Text.lower s

end Format

end DecBridge.Log
