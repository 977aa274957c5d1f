import DecBridge.Decimal.Shortest

/-!
# Numbers of scripts

A number is a double that also knows whether it is kept as an integer of 32 bits. Arithmetic on two
such integers yields an integer whenever the result is one; once a number that is not kept so takes
part, the result is not either, whatever its value.
-/

namespace DecBridge.Script

/-- A double, and whether it is kept as an integer of 32 bits. -/
structure Number where
  value : Float
  whole : Bool
  deriving Inhabited

/-- The double that is no number. -/
def notANumber : Float := 0.0 / 0.0

/-- Whether a double can be kept as an integer: whole, within 32 bits, and not a negative zero. -/
def isSmallInteger (x : Float) : Bool :=
  x == x.floor && -2147483648.0 ≤ x && x ≤ 2147483647.0 && !(x == 0.0 && x.toBits != 0)

/-- Magnitude of a finite double as `m · 2 ^ q`. -/
def mantissaOf (x : Float) : Nat × Int :=
  let bits := x.toBits.toNat
  let biased := bits / Decimal.twoTo 52 % Decimal.twoTo 11
  let fraction := bits % Decimal.twoTo 52
  if biased == 0 then (fraction, -1074) else (Decimal.twoTo 52 + fraction, Int.ofNat biased - 1075)

/-- The remainder of a division towards zero, which has the sign of the dividend. -/
def floatRemainder (a b : Float) : Float :=
  if a.isNaN || a.isInf || b.isNaN || b == 0.0 then notANumber
  else if b.isInf then a
  else
    let (m, p) := mantissaOf a
    let (n, q) := mantissaOf b
    let low := min p q
    let rest := (m <<< (p - low).toNat) % (n <<< (q - low).toNat)
    let size := (Float.ofNat rest).scaleB low
    if a.toBits ≥ 0x8000000000000000 then -size else size

/-- The integer part of a finite double; zero for the others. -/
def truncated (x : Float) : Int :=
  if x.isNaN || x.isInf then 0
  else
    let (m, q) := mantissaOf x
    let size := Int.ofNat (if q < 0 then m >>> (-q).toNat else m <<< q.toNat)
    if x < 0.0 then -size else size

namespace Number

/-- A number that is kept as an integer if it can be. -/
def ofFloat (x : Float) : Number := ⟨x, isSmallInteger x⟩

def ofNat (n : Nat) : Number := ofFloat (Float.ofNat n)

def ofInt (i : Int) : Number := ofFloat (Float.ofInt i)

/-- The result of an operation on numbers whose value is known. -/
def result (a b : Number) (x : Float) : Number :=
  if a.whole && b.whole then ofFloat x else ⟨x, false⟩

def add (a b : Number) : Number := a.result b (a.value + b.value)

def sub (a b : Number) : Number := a.result b (a.value - b.value)

def mul (a b : Number) : Number := a.result b (a.value * b.value)

def div (a b : Number) : Number := a.result b (a.value / b.value)

def rem (a b : Number) : Number := a.result b (floatRemainder a.value b.value)

/-- Powers; a one raised to an infinite power is no number. -/
def pow (a b : Number) : Number :=
  let x := if b.value.isInf && a.value.abs == 1.0 then notANumber else Float.pow a.value b.value
  a.result b x

def neg (a : Number) : Number := a.result a (-a.value)

/-- The low 32 bits of the integer part, as a number without a sign. -/
def lowBits (a : Number) : Nat := ((truncated a.value) % 4294967296).toNat

/-- The number that 32 bits stand for, the highest of them being the sign. -/
def ofBits (n : Nat) : Number :=
  let low := n % 4294967296
  ofInt (if low ≥ 2147483648 then Int.ofNat low - 4294967296 else Int.ofNat low)

end Number

end DecBridge.Script
