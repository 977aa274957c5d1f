/-!
# Bytes and texts

Reading bytes as UTF-8, strictly or with a replacement character for what is not UTF-8, and the
bytes of a text.

A malformed sequence is cut off after its longest well-formed beginning, so each such stretch costs
one replacement character.
-/

namespace DecBridge.Text

/-- Bytes as they stand in a file or go through a pipe. -/
abbrev Bytes := List UInt8

/-- The UTF-8 bytes of a text. -/
def encode (s : String) : Bytes := s.toUTF8.toList

/-- The smallest and largest second byte that may follow a leading byte. -/
def secondByteRange (lead : Nat) : Nat × Nat :=
  if lead == 0xe0 then (0xa0, 0xbf)
  else if lead == 0xed then (0x80, 0x9f)
  else if lead == 0xf0 then (0x90, 0xbf)
  else if lead == 0xf4 then (0x80, 0x8f)
  else (0x80, 0xbf)

/-- The number of bytes that follow a leading byte, if it is one. -/
def followers? (lead : Nat) : Option Nat :=
  if lead < 0x80 then some 0
  else if 0xc2 ≤ lead && lead ≤ 0xdf then some 1
  else if 0xe0 ≤ lead && lead ≤ 0xef then some 2
  else if 0xf0 ≤ lead && lead ≤ 0xf4 then some 3
  else none

/-- One step of reading: a character and the bytes it took, or the length of a malformed stretch
(and whether the input simply ended inside a sequence). -/
inductive Scan where
  | char (c : Char) (size : Nat)
  | malformed (size : Nat) (cutShort : Bool)
  deriving Inhabited

/-- Continuation bytes: takes up to `n` of them, the first within `range`; the payload so far is
`acc`. Yields the payload and how many were taken. -/
def takeFollowers (n : Nat) (range : Nat × Nat) (acc : Nat) : Bytes → Nat × Nat
  | [] => (acc, 0)
  | b :: bs =>
    match n with
    | 0 => (acc, 0)
    | n + 1 =>
      let v := b.toNat
      if range.1 ≤ v && v ≤ range.2 then
        let (acc, taken) := takeFollowers n (0x80, 0xbf) (acc * 64 + (v - 0x80)) bs
        (acc, taken + 1)
      else (acc, 0)

/-- Reads one character off the front of a nonempty list of bytes. -/
def scan (lead : UInt8) (rest : Bytes) : Scan :=
  let v := lead.toNat
  match followers? v with
  | none => .malformed 1 false
  | some n =>
    let payload := if n == 0 then v else if n == 1 then v - 0xc0 else if n == 2 then v - 0xe0 else v - 0xf0
    let (code, taken) := takeFollowers n (secondByteRange v) payload rest
    if taken == n then .char (Char.ofNat code) (n + 1)
    else .malformed (taken + 1) (taken == rest.length)

/-- Where bytes stop being UTF-8. -/
structure Malformed where
  /-- Number of bytes before the first malformed stretch. -/
  validUpTo : Nat
  /-- Length of that stretch; none if the input ended inside a sequence. -/
  length : Option Nat
  deriving Repr, DecidableEq

/-- Reads all bytes as UTF-8; `skip` bytes still belong to the character read last. -/
def decodeFrom (offset skip : Nat) (acc : List Char) : Bytes → Except Malformed (List Char)
  | [] => .ok acc.reverse
  | b :: bs =>
    match skip with
    | k + 1 => decodeFrom (offset + 1) k acc bs
    | 0 =>
      match scan b bs with
      | .char c size => decodeFrom (offset + 1) (size - 1) (c :: acc) bs
      | .malformed size cutShort => .error ⟨offset, if cutShort then none else some size⟩

/-- The text whose UTF-8 encoding the bytes are. -/
def decode (bytes : Bytes) : Except Malformed String :=
  (decodeFrom 0 0 [] bytes).map String.ofList

/-- Reads all bytes, with one replacement character for each malformed stretch. -/
def decodeLossyFrom (skip : Nat) (acc : List Char) : Bytes → List Char
  | [] => acc.reverse
  | b :: bs =>
    match skip with
    | k + 1 => decodeLossyFrom k acc bs
    | 0 =>
      match scan b bs with
      | .char c size => decodeLossyFrom (size - 1) (c :: acc) bs
      | .malformed size _ => decodeLossyFrom (size - 1) ('\ufffd' :: acc) bs

/-- The text of bytes that may not be UTF-8. -/
def decodeLossy (bytes : Bytes) : String := String.ofList (decodeLossyFrom 0 [] bytes)

/-- Number of UTF-8 bytes of a list of characters. -/
def byteLength (cs : List Char) : Nat := cs.foldl (fun n c => n + c.utf8Size) 0

end DecBridge.Text
