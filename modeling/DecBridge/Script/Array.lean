import DecBridge.Script.Json

/-!
# Methods of arrays

They work on arrays and on whatever has a length and elements. A method that calls back looks at the
length once and at each element when its turn comes, and passes over missing elements.
-/

namespace DecBridge.Script

open Eval

/-! ## Arrays and things like them -/

/-- Makes an array; missing elements are holes. -/
def newHolyArray (items : List (Option Value)) : Eval Value := do
  charge (Object.header + 16 * items.length)
  return .object (← alloc ⟨some arrayProto, .array items.length items.toArray, []⟩)

def newArray (items : List Value) : Eval Value := newHolyArray (items.map some)

/-- Refuses values that have no properties. -/
def needObject (v : Value) : Eval Unit :=
  if isMissing v then raise .type "cannot convert to object" else return

/-- The largest length of a thing that is no array. -/
def longestList : Nat := 9007199254740991

/-- The length that a value says it has. -/
def lengthOf (ev : Evaluator) (v : Value) : Eval Nat := do
  needObject v
  let n ← (do
    match v with
    | .object r => peek r Object.length?
    | _ => return none)
  match n with
  | some n => return n
  | none =>
    let x := (← toNumber ev (← getProperty ev v lengthKey)).value
    if x.isInf then return if x < 0.0 then 0 else longestList
    else return min longestList (truncated x).toNat

/-- An element, unless it is missing. -/
def element? (ev : Evaluator) (v : Value) (i : Nat) : Eval (Option Value) := do
  match ← inspect fun h => h.lookup? v (.ofNat i) with
  | none => return none
  | some p => return some (← readContent ev v (some p))

/-- Sets an element of an array by its index. -/
def setElementAt (r : Ref) (i : Nat) (v : Value) : Eval Unit := modifyObject r fun o => o.setElement i v

/-! ## Joining -/

/-- The text of an element in a joined array: nothing for null and undefined. -/
def elementText (ev : Evaluator) : Value → Eval Str
  | .undefined | .null => return Str.empty
  | v => toText ev v

/-- Joins the first `n` elements. -/
def joinElements (ev : Evaluator) (v : Value) (separator : Str) (n : Nat) : Eval Str :=
  foldIndices n Str.empty fun i done => do
    let done ← (do if i == 0 then return done else concatenate done separator)
    concatenate done (← elementText ev (← getElement ev v i))

def joinRule (ev : Evaluator) (this : Value) (args : List Value) : Eval Value := do
  let n ← lengthOf ev this
  let separator ← (do
    match args.head? with
    | none | some .undefined => return Str.ofString ","
    | some v => toText ev v)
  return .text (← joinElements ev this separator n)

/-! ## Adding and filling -/

/-- Sets elements one after the other, starting at an index. -/
def putElements (ev : Evaluator) (v : Value) (i : Nat) : List Value → Eval Unit
  | [] => return
  | x :: rest => do
    putProperty ev v (.ofNat i) x true
    putElements ev v (i + 1) rest

def pushRule (ev : Evaluator) (this : Value) (args : List Value) : Eval Value := do
  let n ← lengthOf ev this
  let after := n + args.length
  let fast ← (do
    match this with
    | .object r => return (← peek r Object.isArray) && after ≤ Key.lastIndex
    | _ => return false)
  match fast, this with
  | true, .object r =>
    charge (16 * args.length)
    modifyObject r fun o => (args.foldl (fun (o, i) v => (o.setElement i v, i + 1)) (o, n)).1
  | _, _ =>
    putElements ev this n args
    putProperty ev this lengthKey (.ofNat after) true
  return .ofNat after

/-- Sets the `n` elements from an index on to one value. -/
def fillElements (ev : Evaluator) (this v : Value) (n start : Nat) : Eval Unit :=
  foldIndices n () fun i _ => do
    match this with
    | .object r =>
      if ← peek r Object.isArray then setElementAt r (start + i) v
      else putProperty ev this (.ofNat (start + i)) v true
    | _ => putProperty ev this (.ofNat (start + i)) v true

def fillRule (ev : Evaluator) (this : Value) (args : List Value) : Eval Value := do
  let size ← lengthOf ev this
  let position (i : Nat) (standard : Nat) : Eval Nat := do
    match args[i]? with
    | none | some .undefined => return standard
    | some v => toPosition ev size v
  let start ← position 1 0
  let stop ← position 2 size
  let dense ← (do
    match this with
    | .object r => peek r Object.dense
    | _ => return 0)
  charge (16 * (stop - max start dense))
  fillElements ev this (args.headD .undefined) (stop - start) start
  return this

/-! ## Calling back -/

/-- Calls a function on the first `n` elements that are not missing; the values go into `target`, if
there is one. -/
def callOnElements (ev : Evaluator) (f this array : Value) (target : Option Ref) (n : Nat) : Eval Unit :=
  foldIndices n () fun i _ => do
    match ← element? ev array i with
    | none => return
    | some v =>
      let x ← ev.run (.call f this [v, .ofNat i, array])
      match target with
      | some r =>
        charge 16
        setElementAt r i x
      | none => return

def eachRule (ev : Evaluator) (keeps : Bool) (this : Value) (args : List Value) : Eval Value := do
  let n ← lengthOf ev this
  let f := args.headD .undefined
  if !(← inspect fun h => isCallable h f) then raise .type "not a function"
  let target ← (do
    if keeps then
      if n > 4294967295 then raise .range "invalid array length"
      charge Object.header
      return some (← alloc ⟨some arrayProto, .array n #[], []⟩)
    else return none)
  callOnElements ev f ((args[1]?).getD .undefined) this target n
  match target with
  | some r => return .object r
  | none => return .undefined

/-! ## Concatenating -/

/-- Copies the first `n` elements of an array to another one, from an index on. -/
def copyElements (ev : Evaluator) (source : Value) (r : Ref) (start n : Nat) : Eval Unit :=
  foldIndices n () fun i _ => do
    match ← element? ev source i with
    | some v => setElementAt r (start + i) v
    | none => return

/-- Adds values to an array, the elements of arrays one by one; yields the new length. -/
def concatParts (ev : Evaluator) (r : Ref) : List Value → Nat → Eval Nat
  | [], n => return n
  | v :: rest, n => do
    let length ← (do
      match v with
      | .object s => peek s Object.length?
      | _ => return none)
    match length with
    | some size =>
      charge (16 * size)
      copyElements ev v r n size
      concatParts ev r rest (n + size)
    | none =>
      charge 16
      setElementAt r n v
      concatParts ev r rest (n + 1)

def concatRule (ev : Evaluator) (this : Value) (args : List Value) : Eval Value := do
  needObject this
  charge Object.header
  let r ← alloc ⟨some arrayProto, .array 0 #[], []⟩
  let n ← concatParts ev r (this :: args) 0
  modifyObject r fun o => o.setLength n
  return .object r

end DecBridge.Script
