import DecBridge.Toml.Position

/-!
# Lexemes of a document

A document is cut into lexemes that together are all of it. Every text can be cut: a quote that is
never closed takes the rest of its line, or of the document if it may hold several lines, and whatever
is nothing else is a word. The last lexeme is always the empty one at the end.
-/

namespace DecBridge.Toml

inductive LexemeKind where
  | point
  | equals
  | comma
  | openBracket
  | closeBracket
  | openBrace
  | closeBrace
  | blank
  | comment
  | lineBreak
  /-- A text in single quotes. -/
  | literal
  /-- A text in double quotes. -/
  | basic
  | literalLines
  | basicLines
  | word
  | finish
  deriving DecidableEq, Inhabited, Repr

structure Lexeme where
  kind : LexemeKind
  /-- How many characters are before it. -/
  start : Nat
  text : List Char
  deriving DecidableEq, Inhabited, Repr

namespace Lexeme

def stop (l : Lexeme) : Nat := l.start + l.text.length

def span (l : Lexeme) : Span := ⟨l.start, l.stop⟩

/-- The word without characters in front of a lexeme. -/
def emptyBefore (l : Lexeme) : Lexeme := ⟨.word, l.start, []⟩

end Lexeme

def isSpace (c : Char) : Bool := c == ' ' || c == '\t'

/-- Whether a character may not stand in a text as itself. -/
def isControl (c : Char) : Bool := (c.toNat < 0x20 && c != '\t') || c.toNat == 0x7f

/-- Whether a character cannot be inside a word. Quotes can, in case the opening one was left out. -/
def endsWord (c : Char) : Bool :=
  isSpace c || c == '.' || c == '=' || c == ',' || c == '[' || c == ']' || c == '\x7b' || c == '\x7d'
    || c == '#' || c == '\r' || c == '\n'

/-- The characters of a text behind its opening quote, the closing one included. -/
def literalLength : List Char → Nat
  | [] => 0
  | '\'' :: _ => 1
  | '\n' :: _ => 0
  | _ :: rest => literalLength rest + 1

def basicLength : List Char → Nat
  | [] => 0
  | '"' :: _ => 1
  | '\n' :: _ => 0
  | '\\' :: '"' :: rest => basicLength rest + 2
  | '\\' :: '\\' :: rest => basicLength rest + 2
  | _ :: rest => basicLength rest + 1

/-- The quotes at the front, of which two more than the closing ones may belong to a text. -/
def quoteRun (quote : Char) (cs : List Char) : Nat := min 5 (cs.takeWhile (· == quote)).length

def literalLinesLength : List Char → Nat
  | '\'' :: '\'' :: '\'' :: rest => quoteRun '\'' ('\'' :: '\'' :: '\'' :: rest)
  | [] => 0
  | _ :: rest => literalLinesLength rest + 1

def basicLinesLength : List Char → Nat
  | '"' :: '"' :: '"' :: rest => quoteRun '"' ('"' :: '"' :: '"' :: rest)
  | [] => 0
  | '\\' :: '"' :: rest => basicLinesLength rest + 2
  | '\\' :: '\\' :: rest => basicLinesLength rest + 2
  | _ :: rest => basicLinesLength rest + 1

/-- The kind and the length of the lexeme that starts with a character; `rest` is what follows it. -/
def firstLexeme (c : Char) (rest : List Char) : LexemeKind × Nat :=
  if c == '.' then (.point, 1)
  else if c == '=' then (.equals, 1)
  else if c == ',' then (.comma, 1)
  else if c == '[' then (.openBracket, 1)
  else if c == ']' then (.closeBracket, 1)
  else if c == '\x7b' then (.openBrace, 1)
  else if c == '\x7d' then (.closeBrace, 1)
  else if isSpace c then (.blank, (rest.takeWhile isSpace).length + 1)
  else if c == '#' then (.comment, (rest.takeWhile fun d => d != '\r' && d != '\n').length + 1)
  else if c == '\n' then (.lineBreak, 1)
  else if c == '\r' then (.lineBreak, if rest.head? == some '\n' then 2 else 1)
  else if c == '\'' then
    match rest with
    | '\'' :: '\'' :: more => (.literalLines, literalLinesLength more + 3)
    | _ => (.literal, literalLength rest + 1)
  else if c == '"' then
    match rest with
    | '"' :: '"' :: more => (.basicLines, basicLinesLength more + 3)
    | _ => (.basic, basicLength rest + 1)
  else (.word, (rest.takeWhile fun d => !endsWord d).length + 1)

/-- Cuts characters into lexemes; there is fuel for one lexeme a character. -/
def lexemesFrom : Nat → Nat → List Char → List Lexeme
  | 0, start, _ => [⟨.finish, start, []⟩]
  | _ + 1, start, [] => [⟨.finish, start, []⟩]
  | fuel + 1, start, c :: rest =>
    let (kind, n) := firstLexeme c rest
    ⟨kind, start, (c :: rest).take n⟩ :: lexemesFrom fuel (start + n) ((c :: rest).drop n)

/-- The lexemes of a document. A byte order mark at the front does not belong to it. -/
def lexemes (document : List Char) : List Lexeme :=
  match document with
  | '\ufeff' :: rest => lexemesFrom rest.length 1 rest
  | cs => lexemesFrom cs.length 0 cs

end DecBridge.Toml
