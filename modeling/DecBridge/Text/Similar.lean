/-!
# Similar words

How alike two words are: the share of their characters that find a partner close by in the other
word, lowered for partners that stand in a different order. The measure is a fraction between 0 and
1, kept exactly.
-/

namespace DecBridge.Text

/-- A fraction; its denominator is positive. -/
structure Fraction where
  numerator : Nat
  denominator : Nat
  deriving Repr, DecidableEq

def Fraction.lt (a b : Fraction) : Bool :=
  a.numerator * b.denominator < b.numerator * a.denominator

/-- Pairs a character with the first free equal one at a position from `low` on and below `high`.
The other word is a list of characters with a mark on those that are taken; `none` means that there
is no partner. -/
def takePartner (c : Char) (low high : Nat) : Nat → List (Char × Bool) → Option (List (Char × Bool))
  | _, [] => none
  | i, (d, taken) :: rest =>
    if low ≤ i && i < high && d == c && !taken then some ((d, true) :: rest)
    else (takePartner c low high (i + 1) rest).map ((d, taken) :: ·)

/-- Pairs the characters of a word from position `i` on. Yields the characters that found a partner,
and the other word with its marks. -/
def pairUp (range : Nat) : Nat → List Char → List (Char × Bool) → List Char × List (Char × Bool)
  | _, [], other => ([], other)
  | i, c :: rest, other =>
    match takePartner c (i - range) (i + range + 1) 0 other with
    | some other =>
      let (paired, other) := pairUp range (i + 1) rest other
      (c :: paired, other)
    | none => pairUp range (i + 1) rest other

/-- How alike two words are. -/
def similarity (a b : String) : Fraction :=
  let xs := a.toList
  let ys := b.toList
  let range := max xs.length ys.length / 2 - 1
  let (paired, marked) := pairUp range 0 xs (ys.map fun c => (c, false))
  let partners := (marked.filter Prod.snd).map Prod.fst
  let n := paired.length
  let swaps := ((paired.zip partners).filter fun (x, y) => x != y).length / 2
  if xs.isEmpty && ys.isEmpty then ⟨1, 1⟩
  else if n == 0 then ⟨0, 1⟩
  else
    let p := xs.length
    let q := ys.length
    ⟨n * q * n + n * p * n + (n - swaps) * p * q, 3 * p * q * n⟩

/-- The word among `candidates` that is most like `word`, if it is more alike than `least`; of
equally good ones the last. -/
def mostSimilar? (least : Fraction) (word : String) (candidates : List String) : Option String :=
  let better := candidates.foldl (fun best candidate =>
    let s := similarity word candidate
    match best with
    | none => if least.lt s then some (candidate, s) else none
    | some (_, t) => if s.lt t then best else if least.lt s then some (candidate, s) else best) none
  better.map Prod.fst

end DecBridge.Text
