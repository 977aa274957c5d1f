import DecBridge.Text.Shown

/-!
# Quoted texts and the shape of shown values

A quoted text stands between double quotes; quotes, backslashes and the common controls have a
two-character form, and every other character that is not shown as itself is written by number.
Lists and records are shown around quoted texts.
-/

namespace DecBridge.Text

/-- Digits of a number in base 16, lower case, without leading zeros. -/
def hexDigits (n : Nat) : String := String.ofList (Nat.toDigits 16 n)

/-- A character inside a quoted text. -/
def quotedChar (c : Char) : String :=
  match c with
  | '\x00' => "\\0"
  | '\t' => "\\t"
  | '\r' => "\\r"
  | '\n' => "\\n"
  | '"' => "\\\""
  | '\\' => "\\\\"
  | c => if isShown c then String.singleton c else "\\u\x7b" ++ hexDigits c.toNat ++ "\x7d"

/-- A text between double quotes. -/
def quoted (s : String) : String :=
  "\"" ++ String.join (s.toList.map quotedChar) ++ "\""

/-- A list in brackets, its items separated by a comma and a space. -/
def bracketed (items : List String) : String := "[" ++ ", ".intercalate items ++ "]"

/-- A list of quoted texts. -/
def quotedList (items : List String) : String := bracketed (items.map quoted)

/-- A record with named fields; an `openEnded` one has more fields than it shows. -/
def record (name : String) (fields : List (String × String)) (openEnded : Bool) : String :=
  let shown := fields.map fun (field, value) => field ++ ": " ++ value
  let shown := if openEnded then shown ++ [".."] else shown
  name ++ " \x7b " ++ ", ".intercalate shown ++ " \x7d"

/-- An optional value. -/
def optional : Option String → String
  | none => "None"
  | some s => "Some(" ++ s ++ ")"

end DecBridge.Text
