import DecBridge.Text.Words

/-!
# Plugin settings

The options of the decompiler: whether casts are shown, and the colour theme. Each is read and
assigned as a text under its name.
-/

namespace DecBridge

inductive Setting where
  | casts
  | theme
  deriving DecidableEq, Inhabited, Repr

/-- Why a setting could not be read or assigned. -/
inductive SettingsError where
  | unknownKey (key : String)
  | invalidBool (setting : Setting) (value : String)
  deriving DecidableEq, Inhabited, Repr

namespace Setting

/-- Every setting, in the order of the help text. -/
def all : List Setting := [.casts, .theme]

def name : Setting → String
  | .casts => "pdw.casts"
  | .theme => "pdw.theme"

/-- The line of the help text. -/
def description : Setting → String
  | .casts => "if false, hides all casts in the pseudo code."
  | .theme => "defines the color theme to be used on r2dec."

/-- The setting with its constructor's name. -/
def shown : Setting → String
  | .casts => "Casts"
  | .theme => "Theme"

/-- The setting of a name. -/
def ofName (key : String) : Except SettingsError Setting :=
  match all.find? fun s => s.name == key with
  | some s => .ok s
  | none => .error (.unknownKey key)

end Setting

def SettingsError.message : SettingsError → String
  | .unknownKey key => "unknown variable '" ++ key ++ "'"
  | .invalidBool setting value =>
    "invalid value '" ++ value ++ "' for '" ++ setting.name ++ "', expected true or false"

/-- The values of the settings. -/
structure Settings where
  casts : Bool := false
  theme : String := "default"
  deriving DecidableEq, Inhabited, Repr

namespace Settings

/-- A truth value as it is printed. -/
def boolText (b : Bool) : String := if b then "true" else "false"

/-- A truth value as it is assigned: a word in any case, or a digit. -/
def boolOf? (value : String) : Option Bool :=
  let word := Text.lower value
  if word == "true" || word == "1" then some true
  else if word == "false" || word == "0" then some false
  else none

/-- The text of a setting. -/
def get (s : Settings) : Setting → String
  | .casts => boolText s.casts
  | .theme => s.theme

/-- Assigns a setting from a text. -/
def set (s : Settings) (key : Setting) (value : String) : Except SettingsError Settings :=
  match key with
  | .casts =>
    match boolOf? value with
    | some b => .ok { s with casts := b }
    | none => .error (.invalidBool .casts value)
  | .theme => .ok { s with theme := value }

end Settings

end DecBridge
