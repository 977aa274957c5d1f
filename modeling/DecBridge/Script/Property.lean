import DecBridge.Script.Machine

/-!
# Properties

Reading, writing, defining and deleting properties. Whatever may run script code (a getter, a
setter) goes through the evaluator.
-/

namespace DecBridge.Script

open Eval

/-! ## Own properties -/

/-- The property that a text has by its units. -/
def textProperty? (s : Str) (key : Key) : Option Property :=
  if key == lengthKey then some (.fixed (.ofNat s.size))
  else
    match key.index? with
    | some i => (s.units[i]?).map fun u => ⟨.value (.text (Str.ofUnits [u])) false, true, false⟩
    | none => none

namespace Object

/-- An own property of an object. -/
def own? (o : Object) (key : Key) : Option Property :=
  match o.kind with
  | .array length items =>
    if key == lengthKey then some ⟨.value (.ofNat length) true, false, false⟩
    else
      match key.index? with
      | some i => if i < items.size then (items.getD i none).map Property.plain else o.props.lookup key
      | none => o.props.lookup key
  | .boxed (.text s) => (textProperty? s key).or (o.props.lookup key)
  | _ => o.props.lookup key

def isArray (o : Object) : Bool :=
  match o.kind with
  | .array _ _ => true
  | _ => false

def isCallable (o : Object) : Bool :=
  match o.kind with
  | .closure _ | .native _ => true
  | _ => false

/-- The length of an array. -/
def length? (o : Object) : Option Nat :=
  match o.kind with
  | .array length _ => some length
  | _ => none

/-- How many elements of an array are kept together. -/
def dense (o : Object) : Nat :=
  match o.kind with
  | .array _ items => items.size
  | _ => 0

/-- Whether an object keeps elements as properties. -/
def isScattered (o : Object) : Bool := o.props.any fun p => p.1.index?.isSome

end Object

/-- Sets the value of a property in a list, or adds it at the end. -/
def putOwn (props : List (Key × Property)) (key : Key) (v : Value) : List (Key × Property) :=
  match props with
  | [] => [(key, .plain v)]
  | (k, p) :: rest =>
    if k == key then
      match p.content with
      | .value _ writable => (k, { p with content := .value v writable }) :: rest
      | .accessor _ _ => (k, p) :: rest
    else (k, p) :: putOwn rest key v

/-- Defines a property in a list with all its attributes. -/
def defineOwn (props : List (Key × Property)) (key : Key) (p : Property) : List (Key × Property) :=
  match props with
  | [] => [(key, p)]
  | (k, q) :: rest => if k == key then (key, p) :: rest else (k, q) :: defineOwn rest key p

/-- The elements of an array as properties. -/
def elementProps (items : Array (Option Value)) : List (Key × Property) :=
  (items.toList.zipIdx).filterMap fun (v, i) => v.map fun v => (Key.ofNat i, Property.plain v)

/-- The longest run of missing elements that is kept together with the elements before it. -/
def widestGap : Nat := 4096

namespace Object

/-- An array after setting the element at an index. -/
def setElement (o : Object) (i : Nat) (v : Value) : Object :=
  let scattered := o.isScattered
  match o with
  | ⟨proto, .array length items, props⟩ =>
    if i < items.size then ⟨proto, .array length (items.setIfInBounds i (some v)), props⟩
    else if i ≤ items.size + widestGap && !scattered then
      let gap := i - items.size
      let items := if gap == 0 then items else items ++ Array.replicate gap none
      ⟨proto, .array (max length (i + 1)) (items.push (some v)), props⟩
    else ⟨proto, .array (max length (i + 1)) items, putOwn props (.ofNat i) v⟩
  | o => o

/-- An array after setting its length; the elements beyond it are gone. -/
def setLength (o : Object) (n : Nat) : Object :=
  match o with
  | ⟨proto, .array _ items, props⟩ =>
    let within (p : Key × Property) : Bool :=
      match p.1.index? with
      | some i => i < n
      | none => true
    ⟨proto, .array n (items.take n), props.filter within⟩
  | o => o

/-- An array whose elements are all kept as properties. -/
def scatter (o : Object) : Object :=
  match o with
  | ⟨proto, .array length items, props⟩ => ⟨proto, .array length #[], elementProps items ++ props⟩
  | o => o

/-- An object after setting the value of an own property, or adding one. -/
def put (o : Object) (key : Key) (v : Value) : Object :=
  match o.isArray, key.index? with
  | true, some i => o.setElement i v
  | _, _ => { o with props := putOwn o.props key v }

/-- An object after defining an own property with all its attributes. -/
def define (o : Object) (key : Key) (p : Property) : Object :=
  match o.isArray, key.index? with
  | true, some i =>
    match p with
    | ⟨.value v true, true, true⟩ => o.setElement i v
    | _ =>
      match o.scatter with
      | ⟨proto, .array length items, props⟩ =>
        ⟨proto, .array (max length (i + 1)) items, defineOwn props key p⟩
      | o => o
  | _, _ => { o with props := defineOwn o.props key p }

/-- An object without an own property. -/
def remove (o : Object) (key : Key) : Object :=
  match o, key.index? with
  | ⟨proto, .array length items, props⟩, some i =>
    if i < items.size then ⟨proto, .array length (items.setIfInBounds i none), props⟩
    else ⟨proto, .array length items, props.filter fun p => p.1 != key⟩
  | o, _ => { o with props := o.props.filter fun p => p.1 != key }

end Object

/-! ## Looking up -/

/-- A property of an object or of one of its prototypes. -/
def Heap.property? (h : Heap) (key : Key) : Nat → Ref → Option Property
  | 0, _ => none
  | fuel + 1, r =>
    let o := h.objects.getD r default
    match o.own? key with
    | some p => some p
    | none =>
      match o.proto with
      | some proto => h.property? key fuel proto
      | none => none

def Heap.find? (h : Heap) (r : Ref) (key : Key) : Option Property :=
  h.property? key (h.objects.size + 1) r

/-- The prototype that a primitive value takes its properties from. -/
def primitiveProto : Value → Ref
  | .text _ => textProto
  | .number _ => numberProto
  | .bool _ => boolProto
  | .symbol _ _ => symbolProto
  | _ => objectProto

/-- Whether a value has no properties at all. -/
def isMissing : Value → Bool
  | .undefined | .null => true
  | _ => false

/-- The property that a value has under a key. -/
def Heap.lookup? (h : Heap) (v : Value) (key : Key) : Option Property :=
  match v with
  | .object r => h.find? r key
  | .text s => (textProperty? s key).or (h.find? textProto key)
  | v => h.find? (primitiveProto v) key

/-- The value of a property for a receiver. -/
def readContent (ev : Evaluator) (receiver : Value) : Option Property → Eval Value
  | none => return .undefined
  | some p =>
    match p.content with
    | .value x _ => return x
    | .accessor .undefined _ => return .undefined
    | .accessor f _ => ev.run (.call f receiver [])

/-- Reads a property of a value. -/
def getProperty (ev : Evaluator) (v : Value) (key : Key) : Eval Value := do
  match v with
  | .undefined => raise .type ("cannot read property '" ++ key.shown ++ "' of undefined")
  | .null => raise .type ("cannot read property '" ++ key.shown ++ "' of null")
  | .panic => throw .panic
  | v => readContent ev v (← inspect fun h => h.lookup? v key)

/-- Reads a property of a value under a name. -/
def getNamed (ev : Evaluator) (v : Value) (x : String) : Eval Value := getProperty ev v (.name x)

/-! ## Writing -/

/-- Refuses to write a property; code without strictness goes on. -/
def refuseWrite (strict : Bool) (message : String) : Eval Unit :=
  if strict then raise .type message else return

def readOnly (key : Key) : String := "'" ++ key.shown ++ "' is read-only"

/-- What stands in the way of a write, or takes it over. -/
inductive WriteSite where
  | own
  | absent
  | fixed
  | setter (f : Value)

def Property.writeSite (own : Bool) (p : Property) : WriteSite :=
  match p.content with
  | .value _ true => if own then .own else .absent
  | .value _ false => .fixed
  | .accessor _ set => .setter set

/-- Where a write to a property of an object goes. -/
def Heap.writeSite (h : Heap) (r : Ref) (key : Key) : WriteSite :=
  let o := h.objects.getD r default
  match o.own? key with
  | some p => p.writeSite true
  | none =>
    match o.proto.bind fun proto => h.find? proto key with
    | some p => p.writeSite false
    | none => .absent

/-- The elements that an array is charged for when it gets one at an index. -/
def growth (o : Object) (key : Key) : Nat :=
  match o.isArray, key.index? with
  | true, some i => if i ≤ o.dense + widestGap then i + 1 - min o.dense (i + 1) else 1
  | _, _ => 1

/-- The length that a number stands for. -/
def arrayLength (x : Float) : Eval Nat :=
  if 0.0 ≤ x && x ≤ 4294967295.0 && x == x.floor then return (truncated x).toNat
  else raise .range "invalid array length"

/-- Writes a property of a value; `toNumber` says which number a value stands for. -/
def setProperty (ev : Evaluator) (toNumber : Value → Eval Number) (target : Value) (key : Key)
    (v : Value) (strict : Bool) : Eval Unit := do
  let throughSetter (f : Value) : Eval Unit := do
    match f with
    | .undefined => refuseWrite strict "no setter for property"
    | f => let _ ← ev.run (.call f target [v])
  match target with
  | .undefined => raise .type ("cannot set property '" ++ key.shown ++ "' of undefined")
  | .null => raise .type ("cannot set property '" ++ key.shown ++ "' of null")
  | .object r =>
    match ← inspect fun h => h.writeSite r key with
    | .fixed => refuseWrite strict (readOnly key)
    | .setter f => throughSetter f
    | .own =>
      if key == lengthKey && (← peek r Object.isArray) then
        let n ← arrayLength (← toNumber v).value
        modifyObject r fun o => o.setLength n
      else modifyObject r fun o => o.put key v
    | .absent =>
      charge (Object.propertyBytes * (← peek r fun o => growth o key))
      modifyObject r fun o => o.put key v
  | target =>
    match ← inspect fun h => (h.find? (primitiveProto target) key).map (Property.writeSite false) with
    | some .fixed => refuseWrite strict (readOnly key)
    | some (.setter f) => throughSetter f
    | _ => refuseWrite strict "not an object"

/-! ## Defining and deleting -/

/-- What a definition says of a property; what it leaves out stays as it is. -/
structure Descriptor where
  value : Option Value := none
  writable : Option Bool := none
  get : Option Value := none
  set : Option Value := none
  enumerable : Option Bool := none
  configurable : Option Bool := none

/-- Whether two values cannot be told apart. -/
def indistinct : Value → Value → Bool
  | .undefined, .undefined | .null, .null => true
  | .bool a, .bool b => a == b
  | .number a, .number b => a.value.toBits == b.value.toBits || (a.value.isNaN && b.value.isNaN)
  | .text a, .text b => a == b
  | .symbol a _, .symbol b _ => a == b
  | .object a, .object b => a == b
  | _, _ => false

namespace Descriptor

def isAccessor (d : Descriptor) : Bool := d.get.isSome || d.set.isSome

def isData (d : Descriptor) : Bool := d.value.isSome || d.writable.isSome

/-- The property that a definition makes out of nothing. -/
def fresh (d : Descriptor) : Property :=
  { content := if d.isAccessor then .accessor (d.get.getD .undefined) (d.set.getD .undefined)
      else .value (d.value.getD .undefined) (d.writable.getD false)
    enumerable := d.enumerable.getD false
    configurable := d.configurable.getD false }

/-- Whether a new part of a property is the old one. -/
def keeps (new : Option Value) (old : Value) : Bool := (new.map (indistinct old)).getD true

/-- Whether a property that cannot be redefined may get this definition. -/
def agrees (d : Descriptor) (p : Property) : Bool :=
  d.configurable != some true && (d.enumerable.map (· == p.enumerable)).getD true
    && match p.content with
      | .accessor get set => !d.isData && keeps d.get get && keeps d.set set
      | .value v writable =>
        !d.isAccessor && (writable || (d.writable != some true && keeps d.value v))

/-- A property after a definition. -/
def apply (d : Descriptor) (p : Property) : Property :=
  { content :=
      match p.content with
      | .value v writable =>
        if d.isAccessor then .accessor (d.get.getD .undefined) (d.set.getD .undefined)
        else .value (d.value.getD v) (d.writable.getD writable)
      | .accessor get set =>
        if d.isData then .value (d.value.getD .undefined) (d.writable.getD false)
        else .accessor (d.get.getD get) (d.set.getD set)
    enumerable := d.enumerable.getD p.enumerable
    configurable := d.configurable.getD p.configurable }

end Descriptor

/-- Defines a property of an object. -/
def defineProperty (r : Ref) (key : Key) (d : Descriptor) : Eval Unit := do
  match ← peek r fun o => o.own? key with
  | none =>
    charge (Object.propertyBytes * (← peek r fun o => growth o key))
    modifyObject r fun o => o.define key d.fresh
  | some p =>
    if !p.configurable && !d.agrees p then raise .type "property is not configurable"
    modifyObject r fun o => o.define key (d.apply p)

/-- Deletes a property of an object; whether it is gone. -/
def deleteProperty (r : Ref) (key : Key) : Eval Bool := do
  match ← peek r fun o => o.own? key with
  | none => return true
  | some p =>
    if p.configurable then
      modifyObject r fun o => o.remove key
      return true
    else return false

end DecBridge.Script
