/-!
# Lines of a text

A line ends at a line feed; a carriage return right before that line feed belongs to the end of
the line. Text after the last line feed is a line of its own, and an empty rest is none.
-/

namespace DecBridge.Text

/-- Cuts a list at every occurrence of `stop`; the pieces do not hold it, and there is one more
piece than there are occurrences. -/
def cutAt {α : Type} [BEq α] (stop : α) : List α → List (List α)
  | [] => [[]]
  | c :: cs =>
    match cutAt stop cs with
    | [] => [[c]]
    | piece :: pieces => if c == stop then [] :: piece :: pieces else (c :: piece) :: pieces

/-- A list without one final carriage return. -/
def dropFinalReturn (cs : List Char) : List Char :=
  match cs.getLast? with
  | some '\r' => cs.dropLast
  | _ => cs

/-- The lines among pieces that were cut at line feeds: only the last piece was not ended by one,
and it counts only if it holds something. -/
def linesOfPieces : List (List Char) → List (List Char)
  | [] => []
  | [rest] => if rest.isEmpty then [] else [rest]
  | piece :: pieces => dropFinalReturn piece :: linesOfPieces pieces

/-- The lines of a text, without their ends. -/
def lines (s : String) : List String :=
  (linesOfPieces (cutAt '\n' s.toList)).map String.ofList

end DecBridge.Text
