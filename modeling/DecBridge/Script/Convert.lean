import DecBridge.Script.Property

/-!
# Conversions

Turning values into texts, numbers, keys and truth values, and comparing them. Whatever may run
script code (a conversion method of an object) goes through the evaluator.
-/

namespace DecBridge.Script

open Eval

def isCallable (h : Heap) : Value → Bool
  | .object r => (h.objects.getD r default).isCallable
  | _ => false

/-- Numbers in scripts: positional from a millionth up to 21 digits, and zero without a sign. -/
def numberSpelling : Decimal.Spelling :=
  { least := -5, greatest := 21, pointZero := false, plus := true, signedZero := false
    infinity := "Infinity" }

/-- The text of a number. -/
def numberText (x : Number) : String :=
  if x.whole then toString x.value.toInt64.toInt else Decimal.write numberSpelling x.value

/-! ## Primitive values -/

/-- The primitive value of an object, from the first of its conversion methods that yields one. -/
def firstPrimitive (ev : Evaluator) (v : Value) : List String → Eval Value
  | [] => raise .type "toPrimitive"
  | key :: rest => do
    let f ← getNamed ev v key
    if ← inspect fun h => isCallable h f then
      match ← ev.run (.call f v []) with
      | .object _ => firstPrimitive ev v rest
      | x => return x
    else firstPrimitive ev v rest

def toPrimitive (ev : Evaluator) (asText : Bool) (v : Value) : Eval Value :=
  match v with
  | .object _ =>
    firstPrimitive ev v (if asText then ["toString", "valueOf"] else ["valueOf", "toString"])
  | v => return v

/-! ## Texts -/

/-- The text of a primitive value. -/
def primitiveText : Value → Eval Str
  | .undefined => return Str.ofString "undefined"
  | .null => return Str.ofString "null"
  | .bool b => return Str.ofString (if b then "true" else "false")
  | .number x => return Str.ofString (numberText x)
  | .text s => return s
  | .symbol _ _ => raise .type "cannot convert symbol to string"
  | .object _ => raise .type "toPrimitive"
  | .panic => throw .panic

def toText (ev : Evaluator) (v : Value) : Eval Str := do
  match v with
  | .text s => return s
  | v => primitiveText (← toPrimitive ev true v)

/-- The key that a value denotes. -/
def toKey (ev : Evaluator) (v : Value) : Eval Key := do
  match ← toPrimitive ev true v with
  | .symbol id label => return .symbol id label
  | v => return .ofStr (← primitiveText v)

/-! ## Numbers -/

/-- The number that a text spells; the empty text is zero. -/
def numberOfText (s : Str) : Number :=
  let cs := s.trim.toLossy.toList
  if cs.isEmpty then .ofNat 0
  else if startsBased cs then
    match basedNumber? false cs with
    | some (x, taken) => .ofFloat (if taken == cs.length then x else notANumber)
    | none => .ofFloat notANumber
  else
    let (negative, digits) := match cs with
      | '-' :: r => (true, r)
      | '+' :: r => (false, r)
      | r => (false, r)
    let sign (x : Float) : Number := .ofFloat (if negative then -x else x)
    let hasDigits := match digits with
      | '.' :: c :: _ => c.isDigit
      | c :: _ => c.isDigit
      | [] => false
    if hasDigits then
      let (x, taken) := decimalNumber false digits
      if taken == digits.length then sign x else .ofFloat notANumber
    else if String.ofList digits == "Infinity" then sign (1.0 / 0.0)
    else .ofFloat notANumber

/-- The number of a primitive value. -/
def primitiveNumber : Value → Eval Number
  | .undefined => return .ofFloat notANumber
  | .null => return .ofNat 0
  | .bool b => return .ofNat (if b then 1 else 0)
  | .number x => return x
  | .text s => return numberOfText s
  | .symbol _ _ => raise .type "cannot convert symbol to number"
  | .object _ => return .ofFloat notANumber
  | .panic => throw .panic

def toNumber (ev : Evaluator) (v : Value) : Eval Number := do
  match v with
  | .number x => return x
  | v => primitiveNumber (← toPrimitive ev false v)

/-- The integer part of the number that a value stands for, within bounds; a negative one counts
from `size` down. -/
def toPosition (ev : Evaluator) (size : Nat) (v : Value) : Eval Nat := do
  let x := (← toNumber ev v).value
  if x.isInf then return if x < 0.0 then 0 else size
  else
    let i := truncated x
    return min size (if i < 0 then i + size else i).toNat

/-- Writes a property of a value. -/
def putProperty (ev : Evaluator) (target : Value) (key : Key) (v : Value) (strict : Bool) : Eval Unit :=
  setProperty ev (toNumber ev) target key v strict

/-! ## Truth and comparison -/

def isTruthy : Value → Bool
  | .undefined | .null => false
  | .bool b => b
  | .number x => !(x.value == 0.0 || x.value.isNaN)
  | .text s => s.size > 0
  | .symbol _ _ | .object _ | .panic => true

def typeName (h : Heap) : Value → String
  | .undefined => "undefined"
  | .null => "object"
  | .bool _ => "boolean"
  | .number _ => "number"
  | .text _ => "string"
  | .symbol _ _ => "symbol"
  | .object r => if isCallable h (.object r) then "function" else "object"
  | .panic => "unknown"

/-- Equality without conversion. -/
def same : Value → Value → Bool
  | .undefined, .undefined | .null, .null => true
  | .bool a, .bool b => a == b
  | .number a, .number b => a.value == b.value
  | .text a, .text b => a == b
  | .symbol a _, .symbol b _ => a == b
  | .object a, .object b => a == b
  | _, _ => false

/-- Equality after conversion. -/
def equal (ev : Evaluator) (a b : Value) : Eval Bool := do
  match a, b with
  | .undefined, .null | .null, .undefined => return true
  | .undefined, _ | .null, _ | _, .undefined | _, .null => return same a b
  | .object _, .object _ => return same a b
  | _, _ =>
    let a ← toPrimitive ev false a
    let b ← toPrimitive ev false b
    match a, b with
    | .text _, .text _ | .bool _, .bool _ | .symbol _ _, _ | _, .symbol _ _ => return same a b
    | .undefined, _ | .null, _ | _, .undefined | _, .null => return same a b
    | _, _ => return (← primitiveNumber a).value == (← primitiveNumber b).value

/-! ## Joining texts -/

/-- The longest text there can be, in units. -/
def longestText : Nat := 0x3fffffff

/-- Joins two texts. -/
def concatenate (a b : Str) : Eval Str := do
  if a.size + b.size > longestText then raise .range "invalid string length"
  else
    charge (min a.size b.size)
    return a ++ b

end DecBridge.Script
