/-!
# Whole numbers in decimal

Reading a number that has to fit into a machine word: an optional plus sign and digits. The first
character that does not fit decides what is wrong.
-/

namespace DecBridge.Decimal

/-- Why a text is not a number that fits. -/
inductive WholeError where
  | empty
  | invalidDigit
  | tooLarge
  deriving DecidableEq, Inhabited, Repr

def WholeError.message : WholeError → String
  | .empty => "cannot parse integer from empty string"
  | .invalidDigit => "invalid digit found in string"
  | .tooLarge => "number too large to fit in target type"

/-- Reads digits behind a number read so far; the result may be at most `most`. -/
def readDigits (most n : Nat) : List Char → Except WholeError Nat
  | [] => .ok n
  | c :: rest =>
    if !c.isDigit then .error .invalidDigit
    else
      let next := n * 10 + (c.toNat - '0'.toNat)
      if next ≤ most then readDigits most next rest else .error .tooLarge

/-- Largest number of a machine word. -/
def largestWord : Nat := 0xffffffffffffffff

/-- Half of the numbers of a machine word. -/
def halfWord : Nat := 0x8000000000000000

/-- Reads a number that fits into a machine word. -/
def readWord (s : String) : Except WholeError Nat :=
  match s.toList with
  | [] => .error .empty
  | ['+'] => .error .invalidDigit
  | '+' :: digits => readDigits largestWord 0 digits
  | digits => readDigits largestWord 0 digits

/-- Reads a number with a sign in front of it that fits into a machine word, one bit of which is for
the sign. -/
def readSignedWord? (s : String) : Option Int :=
  match s.toList with
  | '-' :: c :: digits => (readDigits halfWord 0 (c :: digits)).toOption.map fun n => -Int.ofNat n
  | '+' :: c :: digits => (readDigits (halfWord - 1) 0 (c :: digits)).toOption.map Int.ofNat
  | c :: digits => (readDigits (halfWord - 1) 0 (c :: digits)).toOption.map Int.ofNat
  | [] => none

end DecBridge.Decimal
