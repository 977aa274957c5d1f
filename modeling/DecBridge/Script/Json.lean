import DecBridge.Script.Convert

/-!
# Values as JSON

The JSON text of a value on one line. A value without one (undefined, a function, a symbol) is left
out of an object and written as null in an array. An object that contains itself has no JSON text.
-/

namespace DecBridge.Script

open Eval

def unitsOf (s : String) : List Unit16 := s.toList.flatMap unitsOfChar

/-- A unit by number: four hexadecimal digits. -/
def unitEscape (u : Unit16) : List Unit16 :=
  let digits := Nat.toDigits 16 u.toNat
  unitsOf "\\u" ++ (List.replicate (4 - digits.length) '0' ++ digits).flatMap unitsOfChar

/-- A unit inside a JSON text that belongs to no pair of surrogates. -/
def jsonUnit (u : Unit16) : List Unit16 :=
  if u == 0x22 then unitsOf "\\\""
  else if u == 0x5c then unitsOf "\\\\"
  else if u == 8 then unitsOf "\\b"
  else if u == 9 then unitsOf "\\t"
  else if u == 10 then unitsOf "\\n"
  else if u == 12 then unitsOf "\\f"
  else if u == 13 then unitsOf "\\r"
  else if u < 0x20 || isHighSurrogate u || isLowSurrogate u then unitEscape u
  else [u]

/-- The units of a JSON text after those that are written already, in reverse. -/
def jsonUnits : List Unit16 → List Unit16 → List Unit16
  | [], done => done
  | [u], done => (jsonUnit u).reverse ++ done
  | u :: v :: rest, done =>
    if isHighSurrogate u && isLowSurrogate v then jsonUnits rest (v :: u :: done)
    else jsonUnits (v :: rest) ((jsonUnit u).reverse ++ done)

/-- A text as JSON. -/
def jsonText (s : Str) : Str := Str.ofUnits (0x22 :: (0x22 :: jsonUnits s.units []).reverse)

/-- The keys that an object shows: indices in ascending order, then the others in the order in
which they were set. -/
def enumerableKeys (o : Object) : List Key :=
  let keys := (o.props.filter fun (k, p) => p.enumerable && !k.isSymbol).map Prod.fst
  let indices := keys.filter fun k => k.index?.isSome
  let sorted := indices.mergeSort fun a b => a.index?.getD 0 ≤ b.index?.getD 0
  sorted ++ keys.filter fun k => k.index?.isNone

/-- An element of an array or of something like one. -/
def getElement (ev : Evaluator) (v : Value) (i : Nat) : Eval Value := do
  let found ← (do
    match v with
    | .object r => peek r fun o =>
      match o.kind with
      | .array _ items => items.getD i none
      | _ => none
    | _ => return none)
  match found with
  | some x => return x
  | none => getProperty ev v (.ofNat i)

/-- Parts with a comma between them. -/
def jsonPart (before : Option Str) (part : Str) : Option Str :=
  match before with
  | some s => some (s ++ Str.ofString "," ++ part)
  | none => some part

/-- The fields of an object that have a JSON text, after those already written. -/
def jsonFields (ev : Evaluator) (v : Value) (around : List Ref) : List Key → Option Str → Eval (Option Str)
  | [], done => return done
  | key :: rest, done => do
    match ← ev.run (.json key (← getProperty ev v key) around) with
    | some t =>
      jsonFields ev v around rest (jsonPart done (jsonText key.toStr ++ Str.ofString ":" ++ t))
    | none => jsonFields ev v around rest done

/-- The first `n` elements of an array, with null for those that have no JSON text. -/
def jsonItems (ev : Evaluator) (v : Value) (around : List Ref) (n : Nat) : Eval (Option Str) :=
  foldIndices n none fun i done => do
    let text ← ev.run (.json (.ofNat i) (← getElement ev v i) around)
    return jsonPart done (text.getD (Str.ofString "null"))

/-- How an object is written. -/
inductive JsonForm where
  | omitted
  | boxed (v : Value)
  | items (n : Nat)
  | fields (keys : List Key)

def jsonForm (o : Object) : JsonForm :=
  match o.kind with
  | .closure _ | .native _ => .omitted
  | .boxed v => .boxed v
  | .array length _ => .items length
  | _ => .fields (enumerableKeys o)

/-- A text between brackets. -/
def bracketed (left right : String) (inner : Option Str) : Str :=
  Str.ofString left ++ inner.getD Str.empty ++ Str.ofString right

/-- The value that is written in place of a value: what its own conversion says, if it has one. -/
def jsonValue (ev : Evaluator) (key : Key) (v : Value) : Eval Value := do
  match v with
  | .object _ =>
    let f ← getNamed ev v "toJSON"
    if ← inspect fun h => isCallable h f then ev.run (.call f v [.text key.toStr]) else return v
  | v => return v

/-- The JSON text of a number. -/
def jsonNumber (x : Number) : Str :=
  Str.ofString (if x.value.isNaN || x.value.isInf then "null" else numberText x)

/-- The JSON text of a value under a key, if it has one; `around` are the objects that it is inside
of. -/
def jsonRule (ev : Evaluator) (key : Key) (v : Value) (around : List Ref) : Eval (Option Str) := do
  if around.length ≥ (← inspect fun h => h.budget.calls) then raise .range tooDeep
  match ← jsonValue ev key v with
  | .undefined | .symbol _ _ => return none
  | .null => return some (Str.ofString "null")
  | .bool b => return some (Str.ofString (if b then "true" else "false"))
  | .number x => return some (jsonNumber x)
  | .text s =>
    charge s.size
    return some (jsonText s)
  | .panic => throw .panic
  | .object r =>
    let o := Value.object r
    match ← peek r jsonForm with
    | .omitted => return none
    | .boxed (.text _) => return some (jsonText (← toText ev o))
    | .boxed (.number _) => return some (jsonNumber (← toNumber ev o))
    | .boxed v => return some (← primitiveText v)
    | .items n =>
      if around.contains r then raise .type "circular reference"
      return some (bracketed "[" "]" (← jsonItems ev o (r :: around) n))
    | .fields keys =>
      if around.contains r then raise .type "circular reference"
      return some (bracketed "\x7b" "\x7d" (← jsonFields ev o (r :: around) keys none))

end DecBridge.Script
