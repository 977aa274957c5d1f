import DecBridge.Text.Lines
import DecBridge.Text.Utf8

/-!
# Places in a document

Where the reading of a document came to a stop, and the text that shows the place.
-/

namespace DecBridge.Toml

/-- A stretch of a document: how many characters are before it, and how many before its end. -/
structure Span where
  start : Nat
  stop : Nat
  deriving Repr, DecidableEq, Inhabited

/-- The empty stretch at a place. -/
def Span.point (n : Nat) : Span := ⟨n, n⟩

/-- Why a document cannot be read, and where, if that is known. -/
structure Stop where
  span : Option Span
  message : String
  deriving Repr, DecidableEq, Inhabited

/-- Stops over a stretch. -/
def stopOver {α : Type} (span : Span) (message : String) : Except Stop α := .error ⟨some span, message⟩

/-- Stops at a place. -/
def stopAt {α : Type} (place : Nat) (message : String) : Except Stop α :=
  stopOver (.point place) message

/-- A place by line and column, counted from zero. -/
structure Place where
  line : Nat
  column : Nat
  deriving Repr, DecidableEq, Inhabited

/-- The place behind characters that were read. -/
def Place.behind (read : List Char) : Place :=
  ⟨(read.filter (· == '\n')).length, (read.reverse.takeWhile (· != '\n')).length⟩

/-- The place where so many characters were read. The end of a document counts as right behind its
last character, on the line of that character. -/
def Place.at (document : List Char) (read : Nat) : Place :=
  let last := min read (document.length - 1)
  let place := Place.behind (document.take last)
  { place with column := place.column + (read - last) }

/-- The marks under a stretch that starts in a column: at least one, and as many as the stretch has
bytes, as long as the line reaches. -/
def marks (document line : List Char) (span : Span) (column : Nat) : Nat :=
  let wanted := Text.byteLength ((document.drop span.start).take (span.stop - span.start))
  max 1 (min wanted (Text.byteLength line - column))

/-- The lines that show a stretch of a document. -/
def Span.shown (span : Span) (document : List Char) : String :=
  let p := Place.at document span.start
  let number := toString (p.line + 1)
  let line := ((Text.cutAt '\n' document)[p.line]?).getD []
  let gutter := String.ofList (List.replicate (number.length + 1) ' ') ++ "|"
  "TOML parse error at line " ++ number ++ ", column " ++ toString (p.column + 1) ++ "\n"
    ++ gutter ++ "\n" ++ number ++ " | " ++ String.ofList line ++ "\n"
    ++ gutter ++ String.ofList (List.replicate (p.column + 1) ' ')
    ++ String.ofList (List.replicate (marks document line span p.column) '^') ++ "\n"

/-- The text about a stop, with the line that it is on. -/
def Stop.text (s : Stop) (document : String) : String :=
  (match s.span with
    | some span => span.shown document.toList
    | none => "") ++ s.message ++ "\n"

end DecBridge.Toml
