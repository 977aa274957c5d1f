/-!
# Decimal fractions

Reading a number with a point or an exponent: a sign, digits with an optional point among them, and
an optional exponent.
-/

namespace DecBridge.Decimal

def digitsValue (cs : List Char) : Nat :=
  cs.foldl (fun n c => n * 10 + (c.toNat - '0'.toNat)) 0

/-- The double nearest to `digits · 10^scale`. -/
def scaled (digits : Nat) (scale : Int) : Float :=
  if scale < 0 then Float.ofScientific digits true scale.natAbs
  else Float.ofScientific digits false scale.natAbs

/-- Reads an exponent with its mark, or nothing. -/
def readExponent? : List Char → Option Int
  | [] => some 0
  | e :: rest =>
    let (negative, digits) := match rest with
      | '-' :: ds => (true, ds)
      | '+' :: ds => (false, ds)
      | ds => (false, ds)
    if (e == 'e' || e == 'E') && !digits.isEmpty && digits.all Char.isDigit then
      let n := Int.ofNat (min (digitsValue digits) 100000)
      some (if negative then -n else n)
    else none

/-- Reads a number without a sign. -/
def readMagnitude? (cs : List Char) : Option Float :=
  let whole := cs.takeWhile Char.isDigit
  let rest := cs.dropWhile Char.isDigit
  let (fraction, rest) := match rest with
    | '.' :: more => (more.takeWhile Char.isDigit, more.dropWhile Char.isDigit)
    | more => ([], more)
  if whole.isEmpty && fraction.isEmpty then none
  else
    (readExponent? rest).map fun e =>
      scaled (digitsValue (whole ++ fraction)) (e - Int.ofNat fraction.length)

/-- Reads a number with an optional sign. -/
def readFraction? (s : String) : Option Float :=
  match s.toList with
  | '-' :: cs => (readMagnitude? cs).map fun x => -x
  | '+' :: cs => readMagnitude? cs
  | cs => readMagnitude? cs

end DecBridge.Decimal
