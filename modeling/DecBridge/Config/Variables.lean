import DecBridge.Config.Value
import DecBridge.Decimal.Fraction
import DecBridge.Decimal.Whole
import DecBridge.Text.Blank
import DecBridge.Text.Lines
import DecBridge.Text.Words
import DecBridge.Toml.Quoted

/-!
# Configuration in the environment

A variable whose name starts with `PDW_` sets the field that the rest of its name spells, whatever the
case of the letters. Its value is a truth value, a number, a list or a table if it is written like
one, and a text otherwise.
-/

namespace DecBridge.Config

/-! ## Values of variables -/

/-- Characters that end a bare word. -/
def isSeparator (c : Char) : Bool :=
  c == ',' || c == '[' || c == ']' || c == '\x7b' || c == '\x7d'

def isAsciiBlank (c : Char) : Bool :=
  c == ' ' || c == '\t' || c == '\n' || c == '\r' || c == '\x0c'

def skipBlanks (cs : List Char) : List Char := cs.dropWhile isAsciiBlank

/-- A bare word: a number if it is written like one. -/
def bareWord (word : String) : Value :=
  let fraction? := if word.toList.contains '.' then Decimal.readFraction? word else none
  match fraction?, Decimal.readWord word, Decimal.readSignedWord? word with
  | some x, _, _ => Value.ofFloat x
  | none, .ok n, _ => .integer (Int.ofNat n)
  | none, .error _, some n => .integer n
  | none, .error _, none => .text word

/-- What follows a word at the front of characters, whatever the case of its letters. -/
def afterWord? : List Char → List Char → Option (List Char)
  | [], cs => some cs
  | w :: ws, c :: cs => if Text.lowerAscii c == w then afterWord? ws cs else none
  | _ :: _, [] => none

/-- The character that a backslash and a letter stand for. -/
def escaped? : Char → Option Char
  | '"' => some '"'
  | '\\' => some '\\'
  | 'b' => some '\x08'
  | 'f' => some '\x0c'
  | 'n' => some '\n'
  | 'r' => some '\r'
  | 't' => some '\t'
  | _ => none

/-- Reads what a text says up to its closing quote; there is fuel for each of its characters. -/
def quotedBody? : Nat → List Char → Option (List Char × List Char)
  | 0, _ => none
  | _ + 1, [] => none
  | _ + 1, '"' :: rest => some ([], rest)
  | fuel + 1, '\\' :: c :: rest =>
    let also (x : Char) (left : List Char) : Option (List Char × List Char) :=
      (quotedBody? fuel left).map fun (text, left) => (x :: text, left)
    let byNumber (n : Nat) : Option (List Char × List Char) :=
      let digits := (rest.take n).takeWhile Toml.isHexDigit
      if digits.length < n then none
      else (Toml.charOfNumber? (Toml.numberIn 16 digits)).bind fun x => also x (rest.drop n)
    match escaped? c, c with
    | some x, _ => also x rest
    | none, 'u' => byNumber 4
    | none, 'U' => byNumber 8
    | none, _ => none
  | fuel + 1, c :: rest =>
    if Toml.isControl c then none
    else (quotedBody? fuel rest).map fun (text, left) => (c :: text, left)

/-- Reads a text up to its closing quote. -/
def quotedWord? (cs : List Char) : Option (String × List Char) :=
  (quotedBody? (cs.length + 1) cs).map fun (text, rest) => (String.ofList text, rest)

/-- Reads a name in a table. -/
def tableName? (cs : List Char) : Option (String × List Char) :=
  match cs with
  | '"' :: rest => quotedWord? rest
  | _ =>
    match cs.takeWhile Toml.isNameChar with
    | [] => none
    | name => some (String.ofList name, cs.dropWhile Toml.isNameChar)

mutual

/-- Reads a value and the blanks around it. -/
def readValue? : Nat → List Char → Option (Value × List Char)
  | 0, _ => none
  | fuel + 1, cs =>
    let cs := skipBlanks cs
    let found : Option (Value × List Char) := match afterWord? "true".toList cs, afterWord? "false".toList cs, cs with
      | some rest, _, _ => some (.boolean true, rest)
      | none, some rest, _ => some (.boolean false, rest)
      | none, none, '\x7b' :: rest => (readTable? fuel rest).map fun (t, r) => (.table t, r)
      | none, none, '[' :: rest => (readList? fuel rest).map fun (vs, r) => (.list vs, r)
      | none, none, '"' :: rest => (quotedWord? rest).map fun (s, r) => (.text s, r)
      | none, none, '\'' :: c :: '\'' :: rest => some (.text (String.singleton c), rest)
      | none, none, '\'' :: _ => none
      | none, none, _ =>
        let word := Text.trim (String.ofList (cs.takeWhile fun c => !isSeparator c))
        some (bareWord word, cs.dropWhile fun c => !isSeparator c)
    found.map fun (v, rest) => (v, skipBlanks rest)

/-- Reads the items of a list up to its end. -/
def readList? : Nat → List Char → Option (List Value × List Char)
  | 0, _ => none
  | fuel + 1, cs =>
    match cs with
    | ']' :: rest => some ([], rest)
    | _ =>
      match readValue? fuel cs with
      | some (v, ',' :: rest) => (readList? fuel rest).map fun (vs, r) => (v :: vs, r)
      | some (v, ']' :: rest) => some ([v], rest)
      | _ => none

/-- Reads the assignments of a table up to its end. Of several to one name the last counts. -/
def readTable? : Nat → List Char → Option (Table × List Char)
  | 0, _ => none
  | fuel + 1, cs =>
    match cs with
    | '\x7d' :: rest => some ([], rest)
    | _ =>
      match tableName? (skipBlanks cs) with
      | none => none
      | some (name, rest) =>
        match skipBlanks rest with
        | '=' :: rest =>
          match readValue? fuel rest with
          | some (v, ',' :: rest) =>
            (readTable? fuel rest).map fun (t, r) =>
              (if (t.lookup name).isSome then t else (name, v) :: t, r)
          | some (v, '\x7d' :: rest) => some ([(name, v)], rest)
          | _ => none
        | _ => none

end

/-- Whether a value that holds a comma is a plain list of texts. -/
def isPlainList (cs : List Char) : Bool :=
  cs.contains ',' && !(match cs with
    | c :: _ => c == '[' || c == '\x7b' || c == '"' || c == '\''
    | [] => false)

/-- The value of a variable. What is not written like a value of some other kind is a text. -/
def ofVariable (raw : String) : Value :=
  let s := Text.trim raw
  if isPlainList s.toList then
    .list ((Text.cutAt ',' s.toList).map fun item => .text (Text.trim (String.ofList item)))
  else
    match readValue? (2 * s.length + 2) s.toList with
    | some (v, []) => v
    | _ => .text s

/-! ## Names of variables -/

/-- What the names of variables of the configuration start with. -/
def variableStart : String := "pdw_"

/-- Writes a point for every two underscores. -/
def divide : List Char → List Char
  | '_' :: '_' :: rest => '.' :: divide rest
  | c :: rest => c :: divide rest
  | [] => []

/-- The field that a variable is for: the parts of its name, which a point or two underscores divide.
A part that is empty makes it no field at all. -/
def fieldOfVariable? (name : String) : Option (List String) :=
  let lower := (Text.lower (Text.trim name)).toList
  if variableStart.toList.isPrefixOf lower then
    let parts := (Text.cutAt '.' (divide (lower.drop variableStart.length))).map String.ofList
    if parts.any String.isEmpty then none else some parts
  else none

/-- A value under a path of names. -/
def nested (v : Value) : List String → Value
  | [] => v
  | name :: rest => .table [(name, nested v rest)]

/-- The layer of the variables of an environment. A later variable for the same field counts. -/
def ofVariables (env : List (String × String)) : Table :=
  env.foldl (fun t (name, value) =>
    match fieldOfVariable? name with
    | some (field :: path) => Table.set t field (nested (ofVariable value) path)
    | _ => t) []

end DecBridge.Config
