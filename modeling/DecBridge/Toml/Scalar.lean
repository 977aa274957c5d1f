import DecBridge.Decimal.Whole
import DecBridge.Toml.Date
import DecBridge.Toml.Quoted

/-!
# Scalars of a document

Texts, truth values, dates and numbers. What a number is written like is settled here; whether it is
one that can be held is settled only when the whole document is known to be sound.
-/

namespace DecBridge.Toml

inductive Scalar where
  | text (s : String)
  | boolean (b : Bool)
  | date (text : String)
  /-- Digits in a base behind an optional sign. -/
  | integer (base : Nat) (digits : List Char)
  /-- A number with a point or an exponent, or one that is not finite. -/
  | float (digits : List Char)
  deriving Inhabited

/-! ## Words that are no value -/

/-- Stops at a word that is no value of any kind. -/
def noValue {α : Type} (l : Lexeme) : Except Stop α :=
  let ends (s : String) : Bool := s.toList.isSuffixOf l.text
  let unopened (s : String) : Except Stop α :=
    stopAt l.start ("missing opening quote, expected `" ++ s ++ "`")
  if ends "'''" then unopened "'''"
  else if ends "\"\"\"" then unopened "\"\"\""
  else if ends "'" then unopened "'"
  else if ends "\"" then unopened "\""
  else stopOver l.span "string values must be quoted, expected literal string"

/-- Reads a word that has to be a certain one. -/
def exactWord (l : Lexeme) (word found : List Char) (kind : String) (s : Scalar) : Except Stop Scalar :=
  if found == word then .ok s
  else if l.text.contains ' ' then noValue l
  else stopOver l.span ("invalid " ++ kind ++ ", expected `" ++ String.ofList word ++ "`")

/-! ## Numbers -/

/-- Stops at an underscore that is not between digits. -/
def strayUnderscore {α : Type} (place : Nat) : Except Stop α :=
  stopOver ⟨place, place + 1⟩ "`_` may only go between digits, expected nothing"

/-- Takes the underscores out of a number; `before` is what was read last. -/
def withoutUnderscores (isDigit : Char → Bool) (place : Nat) (before : Option Char) :
    List Char → Except Stop (List Char)
  | [] => .ok []
  | '_' :: rest =>
    if before.any isDigit && rest.head?.any isDigit then
      withoutUnderscores isDigit (place + 1) (some '_') rest
    else if before.any isDigit && rest.head? == some '_' then strayUnderscore (place + 1)
    else strayUnderscore place
  | c :: rest => do return c :: (← withoutUnderscores isDigit (place + 1) (some c) rest)

/-- Stops at a zero that more digits follow. -/
def leadingZero {α : Type} (place : Nat) : Except Stop α :=
  stopOver ⟨place, place + 1⟩ "unexpected leading zero, expected nothing"

/-- Reads digits and underscores off the front of a number: at least one digit, and no zero in front of
others unless it is allowed. Yields what is left. -/
def readRun (place : Nat) (zeros : Bool) (name : String) (cs : List Char) :
    Except Stop (Nat × List Char) :=
  let run := cs.takeWhile fun c => c.isDigit || c == '_'
  let count := (run.filter Char.isDigit).length
  if count == 0 then stopAt place ("invalid " ++ name ++ ", expected digits")
  else if 1 < count && run.head? == some '0' && !zeros then leadingZero place
  else .ok (place + run.length, cs.drop run.length)

/-- Reads the fraction of a number, if there is one. -/
def readFractionPart (place : Nat) : List Char → Except Stop (Nat × List Char)
  | '.' :: rest => readRun (place + 1) true "fraction" rest
  | cs => .ok (place, cs)

/-- Reads the exponent of a number, if there is one. -/
def readExponentPart (place : Nat) : List Char → Except Stop (Nat × List Char)
  | e :: sign :: rest =>
    if e == 'e' || e == 'E' then
      if sign == '+' || sign == '-' then readRun (place + 2) true "exponent" rest
      else readRun (place + 1) true "exponent" (sign :: rest)
    else .ok (place, e :: sign :: rest)
  | [e] => if e == 'e' || e == 'E' then readRun (place + 1) true "exponent" [] else .ok (place, [e])
  | [] => .ok (place, [])

/-- Checks how a number with a point or an exponent is written. -/
def checkFloat (l : Lexeme) (place : Nat) (cs : List Char) : Except Stop Unit := do
  let (place, rest) ← readRun place false "mantissa" cs
  let (place, rest) ← readFractionPart place rest
  let (place, rest) ← readExponentPart place rest
  if rest.isEmpty then return () else stopOver ⟨place, l.stop⟩ "invalid float, expected nothing"

/-- Reads a date or a number in decimal digits; `place` is where it starts behind its sign. -/
def readDecimal (l : Lexeme) (place : Nat) (cs : List Char) : Except Stop Scalar :=
  let rest := cs.dropWhile Char.isDigit
  let whole : Except Stop Scalar :=
    if 1 < cs.length && cs.head? == some '0' then leadingZero place
    else do return .integer 10 (← withoutUnderscores Char.isDigit l.start none l.text)
  match rest with
  | [] => whole
  | c :: _ =>
    if c == '-' || c == ':' then
      match checkDate l.text with
      | .ok () => .ok (.date (String.ofList l.text))
      | .error e => stopOver l.span e.message
    else if rest.contains ' ' then noValue l
    else if rest.any fun d => d == '.' || d == 'e' || d == 'E' then do
      checkFloat l place cs
      return .float (← withoutUnderscores Char.isDigit l.start none l.text)
    else if c == '_' then whole
    else noValue l

/-- The base that a letter behind a zero stands for. -/
def baseOf? : Char → Option Nat
  | 'x' => some 16
  | 'o' => some 8
  | 'b' => some 2
  | _ => none

/-- Reads a number that starts with a zero; `place` is where it starts behind its sign. -/
def readZero (l : Lexeme) (place : Nat) (signed : Bool) (cs : List Char) : Except Stop Scalar :=
  match cs with
  | zero :: letter :: digits =>
    match baseOf? letter.toLower with
    | none => readDecimal l place (zero :: letter :: digits)
    | some base =>
      if signed then
        stopOver ⟨l.start, l.start + 1⟩ "integers with a radix cannot be signed, expected nothing"
      else if letter.isUpper then
        stopOver ⟨place, place + 2⟩
          ("radix must be lowercase, expected `0" ++ String.singleton letter.toLower ++ "`")
      else do
        let isDigit := if base == 16 then isHexDigit else Char.isDigit
        return .integer base (← withoutUnderscores isDigit (place + 2) none digits)
  | _ => readDecimal l place cs

/-- Reads a number behind its signs, of which there may be only one; `place` is where it starts. -/
def readSigned (l : Lexeme) (place : Nat) (cs : List Char) : Except Stop Scalar :=
  match cs with
  | [] => noValue l
  | c :: _ =>
    if c == '+' || c == '-' then
      stopOver ⟨place, place + 1⟩ "redundant numeric sign, expected nothing"
    else if c == '0' then readZero l place true cs
    else if c.isDigit || c == '_' || c == '.' then readDecimal l place cs
    else if c == 'i' || c == 'I' then exactWord l "inf".toList cs "float" (.float l.text)
    else if c == 'n' || c == 'N' then exactWord l "nan".toList cs "float" (.float l.text)
    else noValue l

/-! ## Scalars -/

/-- Reads a word in a value. -/
def readWord (l : Lexeme) : Except Stop Scalar :=
  match l.text with
  | [] => noValue l
  | c :: rest =>
    if c == '+' || c == '-' then readSigned l (l.start + 1) rest
    else if c == '0' then readZero l l.start false l.text
    else if c.isDigit || c == '_' || c == '.' then readDecimal l l.start l.text
    else if c == 't' || c == 'T' then exactWord l "true".toList l.text "boolean" (.boolean true)
    else if c == 'f' || c == 'F' then exactWord l "false".toList l.text "boolean" (.boolean false)
    else if c == 'i' || c == 'I' then exactWord l "inf".toList l.text "float" (.float l.text)
    else if c == 'n' || c == 'N' then exactWord l "nan".toList l.text "float" (.float l.text)
    else noValue l

/-- Reads a scalar. -/
def readScalar (l : Lexeme) : Except Stop Scalar :=
  match readQuoted? l with
  | some quoted => quoted.map .text
  | none => readWord l

end DecBridge.Toml
