import DecBridge.Script.Number
import DecBridge.Script.Units
import DecBridge.Text.Name

/-!
# Tokens of a script

A script is cut into names, numbers, texts and marks; each token keeps the text it was read from,
where it stood, and whether a line ended before it. What cannot be cut becomes a `bad` token, which
the reader of the script reports when it gets there and not before. A token that only code without
strictness may hold says what is wrong with it otherwise.
-/

namespace DecBridge.Script

/-- What a token is. -/
inductive Lexeme where
  | name (text : String)
  | number (value : Number)
  | text (units : List Unit16)
  | mark (text : String)
  | bad (message : String)
  | done
  deriving Inhabited

/-- A place in a script as it is shown to people. -/
structure Spot where
  line : Nat
  column : Nat
  deriving DecidableEq, Inhabited

/-- A token of a script, from character `start` up to `stop`. -/
structure Token where
  lexeme : Lexeme
  text : String
  start : Nat
  stop : Nat
  spot : Spot
  afterNewline : Bool
  /-- What is wrong with the token in strict code. -/
  strictFault : Option String
  deriving Inhabited

/-! ## Character classes -/

def isLineEnd (c : Char) : Bool := c == '\n' || c == '\r' || c == '\u2028' || c == '\u2029'

def isScriptSpace (c : Char) : Bool :=
  c == '\ufeff' || (c != '\u0085' && Text.isBlank c)

def isNameStart (c : Char) : Bool :=
  c.isAlpha || c == '_' || c == '$' || Text.startsName c

def isNamePart (c : Char) : Bool :=
  isNameStart c || c.isDigit || Text.continuesName c

/-- Marks of more than one character, longest first. -/
def longMarks : List String :=
  [">>>=", "===", "!==", "...", "**=", "<<=", ">>=", ">>>", "&&=", "||=", "??=", "=>", "==", "!=",
   "<=", ">=", "&&", "||", "??", "?.", "++", "--", "+=", "-=", "*=", "/=", "%=", "&=", "|=", "^=",
   "<<", ">>", "**"]

/-! ## Numbers -/

def digitValue (c : Char) : Nat :=
  if c.isDigit then c.toNat - '0'.toNat
  else if 'a' ≤ c && c ≤ 'f' then c.toNat - 'a'.toNat + 10
  else if 'A' ≤ c && c ≤ 'F' then c.toNat - 'A'.toNat + 10
  else 0

def isHexDigit (c : Char) : Bool := c.isDigit || ('a' ≤ c && c ≤ 'f') || ('A' ≤ c && c ≤ 'F')

/-- Whether a character is a digit of a base up to sixteen. -/
def isDigitOf (base : Nat) (c : Char) : Bool := isHexDigit c && digitValue c < base

def natOfDigits (base : Nat) (cs : List Char) : Nat :=
  cs.foldl (fun n c => n * base + digitValue c) 0

/-- The double nearest to `mantissa · 10 ^ scale`. -/
def scaled (mantissa : Nat) (scale : Int) : Float :=
  if mantissa == 0 || scale < -1000 - Int.ofNat mantissa.log2 then 0.0
  else if scale > 400 then 1.0 / 0.0
  else Float.ofScientific mantissa (scale < 0) scale.natAbs

/-- Digits off the front of the characters; with `separated`, single underscores may stand between
them and are taken along. -/
def digitsOf (base : Nat) (separated : Bool) : List Char → List Char
  | [] => []
  | '_' :: c :: rest => if separated && isDigitOf base c then '_' :: c :: digitsOf base separated rest else []
  | c :: rest => if isDigitOf base c then c :: digitsOf base separated rest else []

/-- The base that a letter after a zero stands for. -/
def baseOf? : Char → Option Nat
  | 'x' | 'X' => some 16
  | 'o' | 'O' => some 8
  | 'b' | 'B' => some 2
  | _ => none

/-- The number that digits with separators spell. -/
def natOfSpelled (base : Nat) (cs : List Char) : Nat := natOfDigits base (cs.filter (· != '_'))

/-- A decimal number off the front of the characters, and how many of them it takes. -/
def decimalNumber (separated : Bool) (cs : List Char) : Float × Nat :=
  let whole := if cs.head? == some '_' then [] else digitsOf 10 separated cs
  let rest := cs.drop whole.length
  let (point, fraction) := match rest with
    | '.' :: '_' :: _ => (1, [])
    | '.' :: r => (1, digitsOf 10 separated r)
    | _ => (0, [])
  let rest := rest.drop (point + fraction.length)
  let (exponent, taken) := match rest with
    | e :: r =>
      if e == 'e' || e == 'E' then
        let (negative, sign, digits) := match r with
          | '-' :: d => (true, 1, d)
          | '+' :: d => (false, 1, d)
          | d => (false, 0, d)
        let ds := if digits.head? == some '_' then [] else digitsOf 10 separated digits
        if ds.isEmpty then ((0 : Int), 0)
        else
          let n := Int.ofNat (natOfSpelled 10 ds)
          (if negative then -n else n, 1 + sign + ds.length)
      else (0, 0)
    | [] => (0, 0)
  let fraction' := fraction.filter (· != '_')
  (scaled (natOfSpelled 10 (whole ++ fraction)) (exponent - Int.ofNat fraction'.length),
    whole.length + point + fraction.length + taken)

/-- A number with a base in front, off the front of the characters; none if it has no digits. -/
def basedNumber? (separated : Bool) : List Char → Option (Float × Nat)
  | '0' :: x :: rest =>
    match baseOf? x with
    | some base =>
      let ds := if rest.head? == some '_' then [] else digitsOf base separated rest
      if ds.isEmpty then none else some (scaled (natOfSpelled base ds) 0, 2 + ds.length)
    | none => none
  | _ => none

/-- Whether the characters start like a number with a base. -/
def startsBased : List Char → Bool
  | '0' :: x :: _ => (baseOf? x).isSome
  | _ => false

/-- What was cut off the front of the characters: a lexeme, how many characters it takes, and what
is wrong with it in strict code. -/
structure Cut where
  lexeme : Lexeme
  taken : Nat
  strictFault : Option String := none

def badNumber : String := "invalid number literal"

/-- A number that must not run into a name. -/
def numberCut (x : Float) (taken : Nat) (cs : List Char) (fault : Option String) : Cut :=
  match cs.drop taken with
  | c :: _ => if isNamePart c then ⟨.bad badNumber, taken, fault⟩ else ⟨.number (.ofFloat x), taken, fault⟩
  | [] => ⟨.number (.ofFloat x), taken, fault⟩

/-- A number off the front of the characters, which start with a digit or with a point before one.
A leading zero before digits makes them octal, if they can be. -/
def cutNumber (cs : List Char) : Cut :=
  if startsBased cs then
    match basedNumber? true cs with
    | some (x, taken) => numberCut x taken cs none
    | none => ⟨.bad badNumber, 2, none⟩
  else
    match cs with
    | '0' :: c :: _ =>
      if c.isDigit then
        let digits := cs.takeWhile Char.isDigit
        let base := if digits.all (isDigitOf 8) then 8 else 10
        numberCut (scaled (natOfDigits base digits) 0) digits.length cs
          (some "Octal literals are not allowed in strict mode")
      else if c == '_' then ⟨.bad "Numeric separator can not be used after leading 0", 1, none⟩
      else
        let (x, taken) := decimalNumber true cs
        numberCut x taken cs none
    | _ =>
      let (x, taken) := decimalNumber true cs
      numberCut x taken cs none

/-! ## Texts -/

/-- The units of a code point, which may be that of a surrogate. -/
def unitsOfCode (n : Nat) : List Unit16 :=
  if n < 0x10000 then [UInt16.ofNat n] else unitsOfChar (Char.ofNat n)

/-- What follows a backslash: units that a number of characters stand for, the same in a form that
strict code refuses, or nothing that makes sense. -/
inductive Escaped where
  | units (us : List Unit16) (taken : Nat)
  | legacy (us : List Unit16) (taken : Nat) (fault : String)
  | malformed
  | unfinished

/-- The fault of an octal escape in strict code. -/
def octalEscape : String := "octal escape sequences are not allowed in strict mode"

/-- The fault of an escape that means nothing. -/
def malformedEscape : String := "malformed escape sequence in string literal"

/-- An escape of up to three octal digits. -/
def octalDigits (a : Char) (rest : List Char) : Nat × Nat :=
  match rest with
  | b :: more =>
    if isDigitOf 8 b then
      let two := digitValue a * 8 + digitValue b
      match more with
      | c :: _ => if two < 32 && isDigitOf 8 c then (two * 8 + digitValue c, 3) else (two, 2)
      | [] => (two, 2)
    else (digitValue a, 1)
  | [] => (digitValue a, 1)

/-- The code point in braces of an escape, with the characters up to the closing one. -/
def bracedEscape (rest : List Char) : Escaped :=
  let digits := rest.takeWhile isHexDigit
  match rest.drop digits.length with
  | '\x7d' :: _ =>
    if digits.isEmpty || natOfDigits 16 digits > 0x10ffff then .malformed
    else .units (unitsOfCode (natOfDigits 16 digits)) (digits.length + 3)
  | _ => .malformed

/-- The escape after a backslash. -/
def escape : List Char → Escaped
  | [] => .unfinished
  | 'n' :: _ => .units [10] 1
  | 't' :: _ => .units [9] 1
  | 'r' :: _ => .units [13] 1
  | 'b' :: _ => .units [8] 1
  | 'f' :: _ => .units [12] 1
  | 'v' :: _ => .units [11] 1
  | '\r' :: '\n' :: _ => .units [] 2
  | '\r' :: _ | '\n' :: _ | '\u2028' :: _ | '\u2029' :: _ => .units [] 1
  | 'x' :: a :: b :: _ =>
    if isHexDigit a && isHexDigit b then .units [UInt16.ofNat (natOfDigits 16 [a, b])] 3 else .malformed
  | 'x' :: _ => .malformed
  | 'u' :: '\x7b' :: rest => bracedEscape rest
  | 'u' :: a :: b :: c :: d :: _ =>
    if [a, b, c, d].all isHexDigit then .units [UInt16.ofNat (natOfDigits 16 [a, b, c, d])] 5
    else .malformed
  | 'u' :: _ => .malformed
  | c :: rest =>
    if c == '8' || c == '9' then .legacy (unitsOfChar c) 1 malformedEscape
    else if c.isDigit then
      if c == '0' && !(rest.head?.map Char.isDigit).getD false then .units [0] 1
      else
        let (n, taken) := octalDigits c rest
        .legacy [UInt16.ofNat n] taken octalEscape
    else .units (unitsOfChar c) 1

/-- The units of a text up to its closing quote, with the number of characters taken; the units read
so far are in reverse. At most `fuel` characters are read. -/
def textBody (quote : Char) : Nat → List Char → List Unit16 → Nat → Option String → Cut
  | 0, _, _, taken, fault => ⟨.bad "unexpected end of string", taken, fault⟩
  | _, [], _, taken, fault => ⟨.bad "unexpected end of string", taken, fault⟩
  | fuel + 1, c :: cs, acc, taken, fault =>
    if c == quote then ⟨.text acc.reverse, taken + 1, fault⟩
    else if c == '\\' then
      match escape cs with
      | .units us n => textBody quote fuel (cs.drop n) (us.reverse ++ acc) (taken + 1 + n) fault
      | .legacy us n f =>
        textBody quote fuel (cs.drop n) (us.reverse ++ acc) (taken + 1 + n) (fault.or (some f))
      | .malformed => ⟨.bad malformedEscape, taken, fault⟩
      | .unfinished => ⟨.bad "unexpected end of string", taken, fault⟩
    else if c == '\n' || c == '\r' then ⟨.bad "unexpected end of string", taken, fault⟩
    else textBody quote fuel cs ((unitsOfChar c).reverse ++ acc) (taken + 1) fault

/-! ## The scanner -/

/-- Where the scanner stands. -/
structure Cursor where
  offset : Nat
  spot : Spot

/-- The cursor behind a character. Columns count bytes, from zero in the first line and from one in
the others. -/
def Cursor.past (here : Cursor) (c : Char) : Cursor :=
  if c == '\n' || c == '\u2028' || c == '\u2029' then ⟨here.offset + 1, ⟨here.spot.line + 1, 1⟩⟩
  else ⟨here.offset + 1, ⟨here.spot.line, here.spot.column + c.utf8Size⟩⟩

/-- The cursor behind characters. -/
def Cursor.pastAll (here : Cursor) (cs : List Char) : Cursor := cs.foldl Cursor.past here

/-- What is left to scan. -/
structure Ahead where
  chars : List Char
  cursor : Cursor
  /-- Whether a line ended since the last token. -/
  newline : Bool

/-- What follows a block comment, if it ends. -/
def blockComment : List Char → Cursor → Bool → Option Ahead
  | [], _, _ => none
  | '*' :: '/' :: rest, here, newline => some ⟨rest, (here.past '*').past '/', newline⟩
  | c :: rest, here, newline => blockComment rest (here.past c) (newline || isLineEnd c)

/-- What follows the rest of a line. -/
def lineComment : List Char → Cursor → List Char × Cursor
  | [], here => ([], here)
  | c :: rest, here => if isLineEnd c then (c :: rest, here) else lineComment rest (here.past c)

/-- Whether a comment that lasts to the end of the line starts here; the arrow is one only where
nothing stands before it in its line. -/
def startsLineComment (first : Bool) : List Char → Bool
  | '/' :: '/' :: _ | '<' :: '!' :: '-' :: '-' :: _ => true
  | '-' :: '-' :: '>' :: _ => first
  | _ => false

/-- Skips blanks and comments; none if a comment never ends. At most `fuel` of them are skipped. -/
def skipGaps : Nat → Ahead → Option Ahead
  | 0, a => some a
  | fuel + 1, a =>
    match a.chars with
    | [] => some a
    | c :: rest =>
      if startsLineComment (a.newline || a.cursor.offset == 0) a.chars then
        let (chars, cursor) := lineComment a.chars a.cursor
        skipGaps fuel ⟨chars, cursor, a.newline⟩
      else if c == '/' && rest.head? == some '*' then
        match blockComment (rest.drop 1) ((a.cursor.past '/').past '*') a.newline with
        | some a => skipGaps fuel a
        | none => none
      else if isLineEnd c then skipGaps fuel ⟨rest, a.cursor.past c, true⟩
      else if isScriptSpace c then skipGaps fuel ⟨rest, a.cursor.past c, a.newline⟩
      else some a

/-- The mark at the front of the characters. An optional access is none before a digit. -/
def markAt (cs : List Char) : String :=
  let fits (m : String) : Bool :=
    m.toList.isPrefixOf cs && !(m == "?." && ((cs.drop 2).head?.map Char.isDigit).getD false)
  match longMarks.find? fits with
  | some m => m
  | none => String.ofList (cs.take 1)

/-- One lexeme off the front of the characters, of which there are at most `fuel`. -/
def cut (fuel : Nat) (cs : List Char) : Cut :=
  match cs with
  | [] => ⟨.done, 0, none⟩
  | c :: rest =>
    if isNameStart c then
      let name := cs.takeWhile isNamePart
      ⟨.name (String.ofList name), name.length, none⟩
    else if c.isDigit || (c == '.' && (rest.head?.map Char.isDigit).getD false) then cutNumber cs
    else if c == '"' || c == '\'' then textBody c fuel rest [] 1 none
    else if c == '#' then
      let name := rest.takeWhile isNamePart
      if (rest.head?.map isNameStart).getD false then
        ⟨.mark (String.ofList (c :: name)), name.length + 1, none⟩
      else ⟨.bad "invalid first character of private name", 1, none⟩
    else if c.toNat ≥ 0x80 then ⟨.bad "unexpected character", 1, none⟩
    else
      let m := markAt cs
      ⟨.mark m, m.length, none⟩

/-- The tokens of what is left of a script, in reverse before those already cut; the last one is
`done` or `bad`. There are fewer than `fuel` characters left. -/
def tokensFrom : Nat → Ahead → List Token → List Token
  | 0, _, done => done
  | fuel + 1, a, done =>
    match skipGaps (fuel + 1) a with
    | none =>
      let offset := a.cursor.offset
      ⟨.bad "unexpected end of comment", "", offset, offset, a.cursor.spot, false, none⟩ :: done
    | some a =>
      let piece := cut (fuel + 1) a.chars
      let chars := a.chars.take piece.taken
      let after := a.cursor.pastAll chars
      let token : Token :=
        ⟨piece.lexeme, String.ofList chars, a.cursor.offset, after.offset, a.cursor.spot, a.newline,
          piece.strictFault⟩
      match piece.lexeme with
      | .done | .bad _ => token :: done
      | _ => tokensFrom fuel ⟨a.chars.drop piece.taken, after, false⟩ (token :: done)

/-- The characters of a script after a first line that names its interpreter. -/
def afterInterpreterLine (chars : List Char) : List Char × Cursor :=
  let start : Cursor := ⟨0, ⟨1, 0⟩⟩
  match chars with
  | '#' :: '!' :: _ => lineComment chars start
  | _ => (chars, start)

/-- The tokens of a script. -/
def tokens (source : List Char) : List Token :=
  let (chars, cursor) := afterInterpreterLine source
  (tokensFrom (source.length + 2) ⟨chars, cursor, false⟩ []).reverse

end DecBridge.Script
