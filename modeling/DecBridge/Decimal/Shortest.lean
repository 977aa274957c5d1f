/-!
# The shortest decimal of a binary fraction

A finite double is `m · 2 ^ q`. Its decimal is the one with the fewest digits among those that
round to it, and of two such the nearer. For one digit, two digits and so on, only the two
neighbours of the value on that decimal grid have to be tried, in exact arithmetic.

A `Spelling` says where positional writing ends and how the parts are spelled.
-/

namespace DecBridge.Decimal

/-- A magnitude `num / den`. -/
structure Ratio where
  num : Nat
  den : Nat

/-- A power of two. -/
def twoTo (n : Nat) : Nat := Nat.pow 2 n

/-- A power of ten. -/
def tenTo (n : Nat) : Nat := Nat.pow 10 n

/-- A finite positive double `m · 2 ^ q`, with the interval of the numbers that round to it. The
ends belong to the interval when `m` is even. -/
structure Rounded where
  value : Ratio
  low : Ratio
  high : Ratio
  closed : Bool

/-- A decimal `digits · 10 ^ scale`. -/
structure Numeral where
  digits : Nat
  scale : Int
  deriving Repr, DecidableEq

/-- The double `m · 2 ^ q` and its neighbourhood; `narrow` says that the double below is only half
as far away as the one above. -/
def Rounded.ofScaled (m : Nat) (q : Int) (narrow : Bool) : Rounded :=
  let up := twoTo q.toNat
  let den := 4 * twoTo (-q).toNat
  { value := ⟨4 * m * up, den⟩
    low := ⟨(4 * m - if narrow then 1 else 2) * up, den⟩
    high := ⟨(4 * m + 2) * up, den⟩
    closed := m % 2 == 0 }

/-- Mantissa, exponent and narrowness of a finite positive double given by its bits. -/
def Rounded.ofBits (bits : Nat) : Rounded :=
  let biased := bits / twoTo 52 % twoTo 11
  let fraction := bits % twoTo 52
  if biased == 0 then Rounded.ofScaled fraction (-1074) false
  else Rounded.ofScaled (twoTo 52 + fraction) (Int.ofNat biased - 1075) (fraction == 0 && biased > 1)

/-- Compares `d · 10 ^ k` with a ratio. -/
def compareTo (d : Nat) (k : Int) (r : Ratio) : Ordering :=
  compare (d * tenTo k.toNat * r.den) (r.num * tenTo (-k).toNat)

/-- Whether `d · 10 ^ k` rounds to the double. -/
def Rounded.holds (x : Rounded) (d : Nat) (k : Int) : Bool :=
  let low := compareTo d k x.low
  let high := compareTo d k x.high
  (low == .gt && high == .lt) || (x.closed && (low == .eq || high == .eq))

/-- Smallest `e` with `r < 10 ^ e`, found by stepping from `e` at most `fuel` times. -/
def magnitudeFrom (r : Ratio) : Nat → Int → Int
  | 0, e => e
  | fuel + 1, e =>
    if compareTo 1 e r == .gt then
      if compareTo 1 (e - 1) r == .gt then magnitudeFrom r fuel (e - 1) else e
    else magnitudeFrom r fuel (e + 1)

/-- The decimal with `n` digits that rounds to the double and is nearest to it, if there is one. -/
def Rounded.withDigits? (x : Rounded) (e : Int) (n : Nat) : Option Numeral :=
  let k := e - Int.ofNat n
  let below := x.value.num * tenTo (-k).toNat / (x.value.den * tenTo k.toNat)
  let above := below + 1
  match x.holds below k, x.holds above k with
  | true, true =>
    let twice := compareTo (below + above) k ⟨2 * x.value.num, x.value.den⟩
    let nearer := if twice == .gt || (twice == .eq && below % 2 == 0) then below else above
    some ⟨nearer, k⟩
  | true, false => some ⟨below, k⟩
  | false, true => some ⟨above, k⟩
  | false, false => none

/-- The shortest decimal of a double, trying `n` digits up to 17. -/
def Rounded.shortest (x : Rounded) : Numeral :=
  let e := magnitudeFrom x.value 700 0
  match (List.range 17).findSome? fun n => x.withDigits? e (n + 1) with
  | some d => d
  | none => ⟨0, 0⟩

/-! ## Writing -/

/-- How numbers are spelled. -/
structure Spelling where
  /-- Least position of the decimal point that is still written positionally. -/
  least : Int
  /-- Greatest such position. -/
  greatest : Int
  /-- Whether a whole number is written with `.0`. -/
  pointZero : Bool
  /-- Whether a positive exponent carries a plus sign. -/
  plus : Bool
  /-- Whether zero keeps its sign. -/
  signedZero : Bool
  infinity : String

/-- The digits of a decimal without trailing zeros, and the position of the point before them. -/
def Numeral.normal (d : Numeral) : List Char × Int :=
  let cs := Nat.toDigits 10 d.digits
  let point := Int.ofNat cs.length + d.scale
  ((cs.reverse.dropWhile (· == '0')).reverse, point)

/-- A decimal in a spelling. -/
def Numeral.write (f : Spelling) (d : Numeral) : String :=
  let (cs, point) := d.normal
  let zeros (n : Int) : List Char := List.replicate n.toNat '0'
  if f.least ≤ point && point ≤ f.greatest then
    if point ≤ 0 then String.ofList ('0' :: '.' :: zeros (-point) ++ cs)
    else if Int.ofNat cs.length ≤ point then
      String.ofList (cs ++ zeros (point - Int.ofNat cs.length)) ++ if f.pointZero then ".0" else ""
    else String.ofList (cs.take point.toNat ++ '.' :: cs.drop point.toNat)
  else
    let e := point - 1
    let mantissa := match cs with
      | [] => "0"
      | [c] => String.singleton c
      | c :: rest => String.ofList (c :: '.' :: rest)
    mantissa ++ "e" ++ (if e < 0 then "-" else if f.plus then "+" else "") ++ toString e.natAbs

/-- A double in a spelling. -/
def write (f : Spelling) (x : Float) : String :=
  if x.isNaN then "NaN"
  else
    let bits := x.toBits.toNat
    let negative := bits / twoTo 63 == 1
    let magnitude := bits % twoTo 63
    if magnitude == 0 then
      (if negative && f.signedZero then "-" else "") ++ "0" ++ (if f.pointZero then ".0" else "")
    else
      (if negative then "-" else "") ++
        (if x.isInf then f.infinity else ((Rounded.ofBits magnitude).shortest).write f)

end DecBridge.Decimal
