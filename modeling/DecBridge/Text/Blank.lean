/-!
# Blank characters

The characters with the Unicode property `White_Space`, and the operations that look only at
them: trimming either end of a text and cutting a text into its words.

Everything is defined on lists of characters and carried over to `String`; the words of a text are
its maximal runs of characters that are not blank.
-/

namespace DecBridge.Text

/-- Whether a character has the Unicode property `White_Space`. -/
def isBlank (c : Char) : Bool :=
  let n := c.toNat
  (0x09 ≤ n && n ≤ 0x0d) || n == 0x20 || n == 0x85 || n == 0xa0 || n == 0x1680
    || (0x2000 ≤ n && n ≤ 0x200a) || n == 0x2028 || n == 0x2029 || n == 0x202f || n == 0x205f
    || n == 0x3000

/-! ## Trimming -/

/-- A list of characters without its leading blanks. -/
def dropBlanks (cs : List Char) : List Char := cs.dropWhile isBlank

/-- A list of characters without its trailing blanks. -/
def dropTrailingBlanks (cs : List Char) : List Char :=
  (cs.reverse.dropWhile isBlank).reverse

/-- A text without its trailing blanks. -/
def trimEnd (s : String) : String := String.ofList (dropTrailingBlanks s.toList)

/-- A text without blanks at either end. -/
def trim (s : String) : String := String.ofList (dropTrailingBlanks (dropBlanks s.toList))

/-- Whether a text holds nothing but blanks. -/
def isBlankText (s : String) : Bool := s.toList.all isBlank

/-! ## Words -/

/-- The words of a list of characters, given the word read so far. -/
def wordsFrom (word : List Char) : List Char → List (List Char)
  | [] => if word.isEmpty then [] else [word]
  | c :: cs =>
    if isBlank c then
      if word.isEmpty then wordsFrom [] cs else word :: wordsFrom [] cs
    else wordsFrom (word ++ [c]) cs

/-- The maximal blank-free runs of a text, in order. -/
def words (s : String) : List String := (wordsFrom [] s.toList).map String.ofList

end DecBridge.Text
