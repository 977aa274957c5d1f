import DecBridge.Toml.Lexeme

/-!
# Texts of a document

What a text in quotes says. A text in double quotes may hold escapes; one in three quotes may hold
several lines, of which the first break does not belong to it.
-/

namespace DecBridge.Toml

def hexValue? (c : Char) : Option Nat :=
  if c.isDigit then some (c.toNat - '0'.toNat)
  else if 'a' ≤ c && c ≤ 'f' then some (c.toNat - 'a'.toNat + 10)
  else if 'A' ≤ c && c ≤ 'F' then some (c.toNat - 'A'.toNat + 10)
  else none

def isHexDigit (c : Char) : Bool := (hexValue? c).isSome

/-- The number that digits write in a base. -/
def numberIn (base : Nat) (digits : List Char) : Nat :=
  digits.foldl (fun n d => n * base + (hexValue? d).getD 0) 0

/-- The character with a number, if there is one. -/
def charOfNumber? (n : Nat) : Option Char :=
  if n < 0xd800 || (0xdfff < n && n < 0x110000) then some (Char.ofNat n) else none

/-! ## Escapes -/

/-- The character that a backslash and a letter stand for. -/
def escaped? : Char → Option Char
  | 'b' => some '\x08'
  | 'e' => some '\x1b'
  | 't' => some '\t'
  | 'n' => some '\n'
  | 'f' => some '\x0c'
  | 'r' => some '\r'
  | '"' => some '"'
  | '\\' => some '\\'
  | _ => none

/-- How many digits follow a letter that stands for a character by its number. -/
def escapeDigits? : Char → Option Nat
  | 'x' => some 2
  | 'u' => some 4
  | 'U' => some 8
  | _ => none

/-- Reads an escape behind its backslash: the character and what is left. `place` is how many
characters are before. -/
def readEscape (place : Nat) (cs : List Char) : Except Stop (Char × List Char) :=
  let unknown : Except Stop (Char × List Char) :=
    stopAt place
      "missing escaped value, expected `b`, `e`, `f`, `n`, `r`, `\\`, `\"`, `x`, `u`, `U`"
  match cs with
  | [] => unknown
  | c :: rest =>
    match escaped? c, escapeDigits? c with
    | some x, _ => .ok (x, rest)
    | none, some n =>
      let digits := (rest.take n).takeWhile isHexDigit
      if digits.length < n then
        stopAt (place + 1 + digits.length)
          "too few unicode value digits, expected unicode hexadecimal value"
      else
        match charOfNumber? (numberIn 16 digits) with
        | some x => .ok (x, rest.drop n)
        | none => stopAt (place + 1) "invalid value, expected unicode hexadecimal value"
    | none, none => unknown

/-! ## Texts on one line -/

/-- Takes quotes off both ends of a text, which has at least the opening ones. -/
def unquote (l : Lexeme) (quotes : List Char) (kind shown : String) : Except Stop (List Char) :=
  let body := l.text.drop quotes.length
  if quotes.length ≤ body.length && body.drop (body.length - quotes.length) == quotes then
    .ok (body.take (body.length - quotes.length))
  else stopAt l.stop ("invalid " ++ kind ++ ", expected `" ++ shown ++ "`")

/-- Stops at the first control in a text that starts at a place, unless it is excused. -/
def refuseControls (place : Nat) (excused : Char → Bool) (cs : List Char) (message : String) :
    Except Stop Unit :=
  match cs.findIdx? fun c => isControl c && !excused c with
  | some i =>
    let run := ((cs.drop i).takeWhile fun c => isControl c && !excused c).length
    stopOver ⟨place + i, place + i + run⟩ message
  | none => .ok ()

/-- Reads a text without escapes. -/
def readLiteral (l : Lexeme) : Except Stop String := do
  let body ← unquote l ['\''] "literal string" "'"
  refuseControls (l.start + 1) (fun _ => false) body
    "invalid literal string, expected non-single-quote visible characters"
  return String.ofList body

/-- Reads what a text with escapes says; there is fuel for each of its characters. -/
def basicBody : Nat → Nat → List Char → Except Stop (List Char)
  | 0, _, _ => .ok []
  | _ + 1, _, [] => .ok []
  | fuel + 1, place, '\\' :: rest => do
    let (c, left) ← readEscape (place + 1) rest
    return c :: (← basicBody fuel (place + 1 + (rest.length - left.length)) left)
  | fuel + 1, place, c :: rest =>
    if isControl c then
      stopOver ⟨place, place + ((c :: rest).takeWhile isControl).length⟩
        "invalid basic string, expected non-double-quote visible characters, `\\`"
    else do return c :: (← basicBody fuel (place + 1) rest)

/-- Reads a text with escapes. -/
def readBasic (l : Lexeme) : Except Stop String := do
  let body ← unquote l ['"'] "basic string" "\""
  return String.ofList (← basicBody body.length (l.start + 1) body)

/-! ## Texts on several lines -/

/-- The line break right behind the quotes does not belong to a text; says how long it is. -/
def firstBreak : List Char → Nat
  | '\n' :: _ => 1
  | '\r' :: '\n' :: _ => 2
  | _ => 0

/-- Stops behind a carriage return. -/
def loneReturn {α : Type} (place : Nat) : Except Stop α :=
  stopAt (place + 1) "carriage return must be followed by newline, expected newline"

/-- Checks the characters of a text on several lines. -/
def checkLiteralLines : Nat → List Char → Except Stop Unit
  | _, [] => .ok ()
  | place, '\r' :: rest =>
    if rest.head? == some '\n' then checkLiteralLines (place + 1) rest else loneReturn place
  | place, c :: rest =>
    if isControl c && c != '\n' then
      stopAt place "invalid multi-line literal string, expected non-single-quote characters"
    else checkLiteralLines (place + 1) rest

/-- Reads a text on several lines without escapes. -/
def readLiteralLines (l : Lexeme) : Except Stop String := do
  let inside ← unquote l ['\'', '\'', '\''] "multi-line literal string" "'''"
  let skipped := firstBreak inside
  checkLiteralLines (l.start + 3 + skipped) (inside.drop skipped)
  return String.ofList (inside.drop skipped)

/-- The blanks and line breaks that follow a backslash at the end of a line. -/
def skippedBlanks : Nat → Nat → List Char → Except Stop Nat
  | 0, n, _ => .ok n
  | _ + 1, n, [] => .ok n
  | fuel + 1, n, c :: rest =>
    if isSpace c || c == '\n' then skippedBlanks fuel (n + 1) rest
    else if c == '\r' then
      if rest.head? == some '\n' then skippedBlanks fuel (n + 1) rest else loneReturn n
    else .ok n

/-- Reads what a text on several lines says; there is fuel for each of its characters. A backslash at
the end of a line takes away all blanks up to the next other character. -/
def basicLinesBody : Nat → Nat → List Char → Except Stop (List Char)
  | 0, _, _ => .ok []
  | _ + 1, _, [] => .ok []
  | fuel + 1, place, '\\' :: rest =>
    match rest.head? with
    | some c =>
      if isSpace c || c == '\n' || c == '\r' then do
        let blanks := (rest.takeWhile isSpace).length
        match rest.drop blanks with
        | '\n' :: _ | '\r' :: _ =>
          let behind ← skippedBlanks rest.length (place + 1) rest
          basicLinesBody fuel behind (rest.drop (behind - (place + 1)))
        | _ => stopAt (place + 1 + blanks) "invalid multi-line basic string, expected newline"
      else do
        let (x, left) ← readEscape (place + 1) rest
        return x :: (← basicLinesBody fuel (place + 1 + (rest.length - left.length)) left)
    | none => do
      let (x, left) ← readEscape (place + 1) rest
      return x :: (← basicLinesBody fuel (place + 1) left)
  | fuel + 1, place, '\r' :: rest =>
    if rest.head? == some '\n' then do return '\r' :: (← basicLinesBody fuel (place + 1) rest)
    else loneReturn place
  | fuel + 1, place, c :: rest =>
    if isControl c && c != '\n' then
      stopOver ⟨place, place + ((c :: rest).takeWhile fun d => isControl d && d != '\n' && d != '\r').length⟩
        "invalid multi-line basic string, expected characters, `\\`"
    else do return c :: (← basicLinesBody fuel (place + 1) rest)

/-- Reads a text on several lines with escapes. -/
def readBasicLines (l : Lexeme) : Except Stop String := do
  let inside ← unquote l ['"', '"', '"'] "multi-line basic string" "\"\"\""
  let skipped := firstBreak inside
  return String.ofList (← basicLinesBody inside.length (l.start + 3 + skipped) (inside.drop skipped))

/-- Reads a text in quotes; none for a lexeme that is not one. -/
def readQuoted? (l : Lexeme) : Option (Except Stop String) :=
  match l.kind with
  | .literal => some (readLiteral l)
  | .basic => some (readBasic l)
  | .literalLines => some (readLiteralLines l)
  | .basicLines => some (readBasicLines l)
  | _ => none

/-! ## Names -/

def isNameChar (c : Char) : Bool := c.isAlphanum || c == '_' || c == '-'

def nameExpected : String := ", expected letters, numbers, `-`, `_`"

/-- Reads a part of a name. -/
def readPart (l : Lexeme) : Except Stop String :=
  match l.kind, readQuoted? l with
  | .literalLines, _ =>
    stopOver l.span "keys cannot be multi-line literal strings, expected basic string, literal string"
  | .basicLines, _ =>
    stopOver l.span "keys cannot be multi-line basic strings, expected basic string, literal string"
  | _, some quoted => quoted
  | _, none =>
    if l.text.isEmpty then stopOver l.span ("unquoted keys cannot be empty" ++ nameExpected)
    else
      match l.text.findIdx? fun c => !isNameChar c with
      | some i => stopAt (l.start + i) ("invalid unquoted key" ++ nameExpected)
      | none => .ok (String.ofList l.text)

end DecBridge.Toml
