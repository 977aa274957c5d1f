import DecBridge.Log.Event
import DecBridge.Log.Format
import DecBridge.Text.Quoted

/-!
# Log records

How an event is written: on a line for a reader, or as one JSON object for a program. A record does
not hold the time; whoever writes it puts the time in front.
-/

namespace DecBridge.Log

/-! ## For a reader -/

/-- The name of the field that is the message. -/
def messageName : String := "message"

/-- A control character that a terminal would act on is written by number. -/
def harmlessChar (c : Char) : String :=
  let n := c.toNat
  if n == 0x1b || n == 0x07 || n == 0x08 || n == 0x0c || n == 0x7f then
    "\\x" ++ (if n < 0x10 then "0" else "") ++ Text.hexDigits n
  else if 0x80 ≤ n && n ≤ 0x9f then "\\u\x7b" ++ Text.hexDigits n ++ "\x7d"
  else String.singleton c

def harmless (s : String) : String := String.join (s.toList.map harmlessChar)

/-- A field of a line. A message stands without its name, and a text has quotes around it. -/
def compactField (name : String) (value : Field) : String :=
  if name == messageName then harmless value.plain
  else
    name ++ "=" ++ match value with
      | .text s => Text.quoted s
      | .shown s => s
      | .number n => toString n

/-- The level of a line, as wide as the longest one. -/
def paddedLevel (l : Level) : String :=
  String.ofList (List.replicate (5 - l.name.length) ' ') ++ l.name

/-- An event on a line. -/
def line (e : Event) : String :=
  let fields := (messageName, Field.text e.message) :: e.fields
  paddedLevel e.level ++ " " ++ e.target ++ ": "
    ++ " ".intercalate (fields.map fun (name, value) => compactField name value)

/-! ## For a program -/

/-- What a field of a record may be. -/
inductive RecordValue where
  | text (s : String)
  | number (n : Nat)
  deriving DecidableEq, Inhabited, Repr

def Field.recorded : Field → RecordValue
  | .text s | .shown s => .text s
  | .number n => .number n

/-- Sets a name, keeping its place if it is there already. -/
def setField (fields : List (String × RecordValue)) (name : String) (value : RecordValue) :
    List (String × RecordValue) :=
  match fields with
  | [] => [(name, value)]
  | (n, v) :: rest => if n == name then (n, value) :: rest else (n, v) :: setField rest name value

/-- The fields of an event in one object; of two values for one name the last counts. -/
def recordFields (e : Event) : List (String × RecordValue) :=
  let fields := (messageName, Field.text e.message) :: e.fields
  ("level", .text e.level.name)
    :: fields.foldl (fun fs (name, value) => setField fs name value.recorded) []
    ++ [("target", .text e.target)]

/-- A character inside a JSON text. -/
def jsonChar (c : Char) : String :=
  match c with
  | '"' => "\\\""
  | '\\' => "\\\\"
  | '\n' => "\\n"
  | '\r' => "\\r"
  | '\t' => "\\t"
  | '\x08' => "\\b"
  | '\x0c' => "\\f"
  | c =>
    if c.toNat < 0x20 then
      let digits := Text.hexDigits c.toNat
      "\\u" ++ String.ofList (List.replicate (4 - digits.length) '0') ++ digits
    else String.singleton c

def jsonText (s : String) : String := "\"" ++ String.join (s.toList.map jsonChar) ++ "\""

def RecordValue.json : RecordValue → String
  | .text s => jsonText s
  | .number n => toString n

/-- An event as an object. -/
def object (e : Event) : String :=
  "\x7b" ++ ",".intercalate ((recordFields e).map fun (name, v) => jsonText name ++ ":" ++ v.json)
    ++ "\x7d"

/-- An event in a format. -/
def Format.record : Format → Event → String
  | .json, e => object e
  | .compact, e => line e

end DecBridge.Log
