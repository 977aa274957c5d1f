import DecBridge.Script.Units

/-!
# Property keys

Properties go by texts or by symbols. A text that is a sequence of scalar values is kept as such; one
that holds an unpaired surrogate is kept as its units, so that no two texts become one key.
-/

namespace DecBridge.Script

/-- The longest beginning of a list of characters with at most `room` bytes. -/
def takeBytes : Nat → List Char → List Char
  | _, [] => []
  | room, c :: cs => if c.utf8Size ≤ room then c :: takeBytes (room - c.utf8Size) cs else []

/-- What is left of a text after it went through a buffer with `room` bytes: it ends at the first
NUL, and a character that does not fit is dropped. -/
def buffered (room : Nat) (s : String) : String :=
  if s.utf8ByteSize ≤ room && !s.contains '\x00' then s
  else String.ofList (takeBytes room (s.toList.takeWhile (· != '\x00')))

/-- Bytes of a name that a message has room for. -/
def nameRoom : Nat := 63

/-- A name inside a message. -/
def shownName (x : String) : String := buffered nameRoom x

/-- What a property goes by. -/
inductive Key where
  | name (s : String)
  | units (us : List Unit16)
  | symbol (id : Nat) (label : String)
  deriving DecidableEq, Inhabited

namespace Key

def ofStr (s : Str) : Key :=
  match s.toText with
  | .ok t => .name t
  | .error _ => .units s.units

def ofUnits (us : List Unit16) : Key := ofStr (Str.ofUnits us)

/-- The text of a key; a symbol has its label. -/
def toStr : Key → Str
  | .name s => Str.ofString s
  | .units us => Str.ofUnits us
  | .symbol _ label => Str.ofString label

/-- What a function is called that is found under a key. -/
def label : Key → String
  | .symbol _ "" => ""
  | .symbol _ x => "[" ++ x ++ "]"
  | k => k.toStr.toLossy

/-- A key inside a message. -/
def shown (k : Key) : String := shownName k.toStr.toLossy

def isSymbol : Key → Bool
  | .symbol _ _ => true
  | _ => false

/-- The largest index that an element of an array can have. -/
def lastIndex : Nat := 4294967294

/-- The index that a key spells: a decimal without leading zeros. -/
def index? : Key → Option Nat
  | .name s =>
    let cs := s.toList
    if cs.isEmpty || cs.length > 10 || !cs.all Char.isDigit then none
    else if cs.length > 1 && cs.head? == some '0' then none
    else
      let n := cs.foldl (fun n c => n * 10 + (c.toNat - '0'.toNat)) 0
      if n ≤ lastIndex then some n else none
  | _ => none

def ofNat (n : Nat) : Key := .name (toString n)

end Key

/-- The property of arrays and texts that counts their elements. -/
def lengthKey : Key := .name "length"

end DecBridge.Script
