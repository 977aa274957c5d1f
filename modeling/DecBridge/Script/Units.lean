import DecBridge.Text.Blank
import DecBridge.Text.Utf8

/-!
# Script texts

Scripts count texts in UTF-16 units and may hold a surrogate without its partner, so a script text
is a sequence of units. Concatenation only joins two texts; the units are laid out when they are
looked at.

A script text is handed to the outside only if it is a sequence of scalar values; otherwise the
offset of the first unpaired surrogate, in bytes of UTF-8, says what is wrong.
-/

namespace DecBridge.Script

/-- A UTF-16 code unit. -/
abbrev Unit16 := UInt16

/-- Units laid out flat or joined. -/
inductive Rope where
  | flat (units : List Unit16)
  | join (left right : Rope)
  deriving Inhabited

/-- How many pieces and joints a rope has. -/
def Rope.pieces : Rope → Nat
  | .flat _ => 1
  | .join l r => l.pieces + r.pieces + 1

def Rope.piecesOfAll : List Rope → Nat
  | [] => 0
  | r :: rest => r.pieces + piecesOfAll rest

/-- The units of ropes that are to be read from the last one back, before units that are already
laid out. -/
def Rope.layOut : List Rope → List Unit16 → List Unit16
  | [], done => done
  | .flat us :: rest, done => layOut rest (us ++ done)
  | .join l r :: rest, done => layOut (r :: l :: rest) done
termination_by ropes => piecesOfAll ropes
decreasing_by
  · simp only [piecesOfAll, pieces]
    omega
  · simp only [piecesOfAll, pieces]
    omega

/-- A rope `n` times over; its halves are shared. -/
def Rope.times (r : Rope) (n : Nat) : Rope :=
  if n = 0 then .flat []
  else if n = 1 then r
  else
    let half := r.times (n / 2)
    if n % 2 = 0 then .join half half else .join (.join half half) r
termination_by n
decreasing_by omega

/-- A script text with the number of its units. -/
structure Str where
  size : Nat
  rope : Rope
  deriving Inhabited

namespace Str

def units (s : Str) : List Unit16 := Rope.layOut [s.rope] []

def ofUnits (us : List Unit16) : Str := ⟨us.length, .flat us⟩

def empty : Str := ofUnits []

def append (a b : Str) : Str :=
  if a.size == 0 then b else if b.size == 0 then a else ⟨a.size + b.size, .join a.rope b.rope⟩

instance : Append Str := ⟨append⟩

instance : BEq Str := ⟨fun a b => a.size == b.size && a.units == b.units⟩

end Str

/-- The units of a character: one, or a pair of surrogates. -/
def unitsOfChar (c : Char) : List Unit16 :=
  let n := c.toNat
  if n < 0x10000 then [UInt16.ofNat n]
  else [UInt16.ofNat (0xd800 + (n - 0x10000) / 0x400), UInt16.ofNat (0xdc00 + (n - 0x10000) % 0x400)]

def isHighSurrogate (u : Unit16) : Bool := 0xd800 ≤ u && u < 0xdc00

def isLowSurrogate (u : Unit16) : Bool := 0xdc00 ≤ u && u < 0xe000

/-- The character of a pair of surrogates. -/
def charOfPair (hi lo : Unit16) : Char :=
  Char.ofNat (0x10000 + (hi.toNat - 0xd800) * 0x400 + (lo.toNat - 0xdc00))

/-- What units say: a scalar value, or a surrogate without a partner. -/
inductive Scalar where
  | char (c : Char)
  | unpaired (u : Unit16)

/-- A unit that stands alone. -/
def loneScalar (u : Unit16) : Scalar :=
  if isHighSurrogate u || isLowSurrogate u then .unpaired u else .char (Char.ofNat u.toNat)

/-- Reads units as scalar values and unpaired surrogates. -/
def scalars : List Unit16 → List Scalar
  | [] => []
  | [u] => [loneScalar u]
  | u :: v :: rest =>
    if isHighSurrogate u && isLowSurrogate v then .char (charOfPair u v) :: scalars rest
    else loneScalar u :: scalars (v :: rest)

namespace Str

def ofString (s : String) : Str := ofUnits (s.toList.flatMap unitsOfChar)

/-- The characters before the first unpaired surrogate, and the text itself if there is none. -/
def readFrom (offset : Nat) (acc : List Char) : List Scalar → Except Nat (List Char)
  | [] => .ok acc.reverse
  | .char c :: rest => readFrom (offset + c.utf8Size) (c :: acc) rest
  | .unpaired _ :: _ => .error offset

/-- The text as scalar values, or the byte offset of the first unpaired surrogate. -/
def toText (s : Str) : Except Nat String :=
  (readFrom 0 [] (scalars s.units)).map String.ofList

/-- The text with a replacement character for each unpaired surrogate. -/
def toLossy (s : Str) : String :=
  String.ofList ((scalars s.units).map fun | .char c => c | .unpaired _ => '\ufffd')

/-- `n` copies of a text. -/
def replicate (s : Str) (n : Nat) : Str :=
  if s.size * n = 0 then empty else ⟨s.size * n, s.rope.times n⟩

/-- Blanks and line ends as scripts see them: the Unicode ones, without the next-line control and
with the byte order mark. -/
def isScriptBlank (u : Unit16) : Bool :=
  u == 0xfeff || (u != 0x85 && Text.isBlank (Char.ofNat u.toNat))

/-- A text without blanks at either end. -/
def trim (s : Str) : Str :=
  ofUnits ((s.units.dropWhile isScriptBlank).reverse.dropWhile isScriptBlank).reverse

/-- Lexicographic order of the units. -/
def less : List Unit16 → List Unit16 → Bool
  | [], [] => false
  | [], _ :: _ => true
  | _ :: _, [] => false
  | a :: as, b :: bs => if a == b then less as bs else a < b

end Str

end DecBridge.Script
