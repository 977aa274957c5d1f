import DecBridge.Script.Convert

/-!
# Making and calling functions

Function objects and classes, the scope that a call sets up, and the construction of objects.
-/

namespace DecBridge.Script

open Eval

/-- The name of a script in traces. -/
def scriptFile : String := "eval_script"

/-! ## Making function objects -/

/-- The properties that every function has. -/
def functionProps (name : String) (params : Nat) : List (Key × Property) :=
  [(lengthKey, .label (.ofNat params)), (.name "name", .label (.ofString name))]

def prototypeKey : Key := .name "prototype"

def constructorKey : Key := .name "constructor"

/-- Gives a function the object that those it constructs inherit from. -/
def givePrototype (f : Ref) (parent : Option Ref) (writable : Bool) : Eval Ref := do
  let proto ← alloc ⟨parent, .plain, [(constructorKey, .hidden (.object f))]⟩
  let p : Property := ⟨.value (.object proto) writable, false, false⟩
  modifyObject f fun o => { o with props := o.props ++ [(prototypeKey, p)] }
  return proto

/-- The function object of a function in a scope; `home` is the object that it is a method of. -/
def makeFunction (f : Func) (scope : Nat) (home : Option Ref) : Eval Value := do
  let info := f.info
  let constructs := info.kind == .plain && !info.isAsync
  charge (if constructs then 3 * Object.header else 2 * Object.header)
  let r ← alloc
    { proto := some functionProto
      kind := .closure ⟨f, scope, .none, false, home⟩
      props := functionProps info.name info.params.length }
  if constructs then let _ ← givePrototype r (some objectProto) true
  return .object r

/-- Makes the declared functions of a block and puts them into its scope. -/
def hoistFunctions (scope : Nat) : List (String × Func) → Eval Unit
  | [] => return
  | (x, f) :: rest => do
    setSlot scope x (.ofValue (← makeFunction f scope none))
    hoistFunctions scope rest

/-- The slots of the names of a block before any of them has a value. -/
def blockSlots (names : List BlockName) : List (String × Slot) :=
  names.map fun n => (n.name, ⟨none, n.constant⟩)

/-! ## Calling -/

/-- Pairs parameters with arguments; a parameter without one is undefined. -/
def bindParams : List String → List Value → List (String × Slot)
  | [], _ => []
  | x :: xs, [] => (x, .ofValue .undefined) :: bindParams xs []
  | x :: xs, v :: vs => (x, .ofValue v) :: bindParams xs vs

/-- What a call knows besides its arguments. -/
structure CallSite where
  callee : Value
  /-- Absent while a derived class has not made its object. -/
  this : Option Value
  /-- The class that an object is being made of. -/
  target : Value

/-- The object that plain code without strictness sees in place of a missing receiver. -/
def receiver (strict : Bool) : Option Value → Option Value
  | some .undefined => some (if strict then .undefined else .object globalRef)
  | some .null => some (if strict then .null else .object globalRef)
  | v => v

/-- The names under which code finds what it was called with. -/
def thisName : String := "this"

/-- The name of the function under way, for calls of the class above. -/
def calleeName : String := "%callee"

/-- The name of the class that an object is being made of. -/
def targetName : String := "%target"

/-- The name of the object that the function under way is a method of. -/
def homeName : String := "%home"

/-- The arguments of a call as an object. -/
def argumentsObject (args : List Value) : Eval Value := do
  charge (Object.header + 16 * args.length)
  let items := args.zipIdx.map fun (v, i) => (Key.ofNat i, Property.plain v)
  return .object (← alloc
    ⟨some objectProto, .arguments, items ++ [(lengthKey, .hidden (.ofNat args.length))]⟩)

/-- The slots of a function besides those that its text declares. -/
def ownSlots (info : FuncInfo) (c : Closure) (site : CallSite) (args : List Value) :
    Eval (List (String × Slot)) := do
  let self := if info.bindsSelf then [(info.name, Slot.mk (some site.callee) info.strict)] else []
  if info.kind == .arrow then return self
  else
    let arguments ← (do
      if info.usesArguments then return [("arguments", Slot.ofValue (← argumentsObject args))]
      else return [])
    let home := match c.home with
      | some r => [(homeName, Slot.mk (some (.object r)) true)]
      | none => []
    let above := if c.role == .derived then
        [(calleeName, Slot.mk (some site.callee) true), (targetName, ⟨some site.target, true⟩)]
      else []
    return (thisName, ⟨receiver info.strict site.this, true⟩) :: arguments ++ home ++ above ++ self

/-- Runs the body of a function; its value and the scope it ran in. -/
def runBody (ev : Evaluator) (c : Closure) (site : CallSite) (args : List Value) :
    Eval (Value × Nat) := do
  match c.func with
  | .mk info vars (.mk names funcs body) =>
    let own ← ownSlots info c site args
    let params := bindParams info.params args
    let fresh := vars.map fun x => (x, Slot.ofValue .undefined)
    let scope ← newScope c.scope (params ++ fresh ++ blockSlots names ++ own)
    settle scope
    hoistFunctions scope funcs
    match ← ev.run (.execAll body ⟨scope, info.strict, false⟩) with
    | .ret v => return (v, scope)
    | _ => return (.undefined, scope)

/-- The call of a function of the script. -/
def Closure.activation (c : Closure) (callee : Ref) : Activation :=
  { callee := some callee, file := some c.func.info.file, spot := default, scope := c.scope }

/-- Runs the body of a function; that of an asynchronous one up to its first wait, and whatever it
throws is lost. -/
def runFunction (ev : Evaluator) (c : Closure) (site : CallSite) (args : List Value) : Eval Value := do
  if c.func.info.isAsync then
    let _ ← attempt (runBody ev c site args)
    return .object (← alloc ⟨some promiseProto, .promise, []⟩)
  else return (← runBody ev c site args).1

/-! ## Constructing -/

/-- Whether a function constructs objects. -/
def Closure.constructs (c : Closure) : Bool :=
  c.role != .none || (c.func.info.kind == .plain && !c.func.info.isAsync)

def Native.constructs : Native → Bool
  | .error _ | .text | .number | .bool | .symbol | .function | .array | .object => true
  | _ => false

def isConstructor (h : Heap) : Value → Bool
  | .object r =>
    match (h.objects.getD r default).kind with
    | .closure c => c.constructs
    | .native f => f.constructs
    | _ => false
  | _ => false

/-- The prototype of the objects that a class makes. -/
def prototypeOf (ev : Evaluator) (target : Value) (fallback : Ref) : Eval Ref := do
  match ← getProperty ev target prototypeKey with
  | .object r => return r
  | _ => return fallback

/-- The value of `this` in a scope. -/
def thisOf (scope : Nat) : Eval Value := do
  match ← slot? thisName scope with
  | some (_, ⟨some v, _⟩) => return v
  | _ => raise .reference "this is not initialized"

/-- The class that a class is derived from. -/
def parentOf (f : Value) : Eval Value := do
  match f with
  | .object r =>
    match ← peek r Object.proto with
    | some parent => return .object parent
    | none => return .null
  | _ => return .null

/-- Makes an object with a function of the script. -/
def constructClosure (ev : Evaluator) (f : Value) (c : Closure) (args : List Value) (target : Value) :
    Eval Value := do
  if c.implicit && c.role == .derived then
    return ← ev.run (.construct (← parentOf f) args target)
  let this ← (do
    match c.role with
    | .derived => return none
    | _ =>
      charge Object.header
      let proto ← prototypeOf ev target objectProto
      return some (Value.object (← alloc ⟨some proto, .plain, []⟩)))
  match c.role, ← runBody ev c ⟨f, this, target⟩ args with
  | _, (.object r, _) => return .object r
  | .derived, (.undefined, scope) => thisOf scope
  | .derived, _ => raise .type "derived class constructor must return an object or undefined"
  | _, (_, scope) => thisOf scope

/-! ## Classes -/

/-- The constructor of a class that does not write one down; a derived one hands its arguments to
the class it is derived from. -/
def implicitInit (name source : String) : Func :=
  let info : FuncInfo :=
    { name, params := [], kind := .method, isAsync := false, strict := true, bindsSelf := false
      usesArguments := false, source, file := scriptFile }
  .mk info [] (.mk [] [] [])

/-- Defines an entry of an object or a class. -/
def defineEntry (r : Ref) (key : Key) (kind : FieldKind) (v : Value) (enumerable : Bool) : Eval Unit :=
  let attributes : Descriptor := { enumerable := some enumerable, configurable := some true }
  defineProperty r key (match kind with
    | .value => { attributes with value := some v, writable := some true }
    | .getter => { attributes with get := some v }
    | .setter => { attributes with set := some v })

/-- Puts the methods of a class on its prototype, the static ones on the class. -/
def addMethods (ev : Evaluator) (cls proto : Ref) (frame : Frame) :
    List (Bool × FieldKind × Expr × Func) → Eval Unit
  | [] => return
  | (isStatic, kind, key, f) :: rest => do
    let key ← toKey ev (← ev.run (.eval key frame))
    let home := if isStatic then cls else proto
    let f := f.named (kind.functionName key.label)
    defineEntry home key kind (← makeFunction f frame.scope (some home)) false
    addMethods ev cls proto frame rest

/-- What a class and its prototype inherit from. -/
def heritage (ev : Evaluator) : Option Value → Eval (Ref × Option Ref)
  | none => return (functionProto, some objectProto)
  | some .null => return (functionProto, none)
  | some v => do
    if !(← inspect fun h => isConstructor h v) then raise .type "parent class must be constructor"
    match v, ← getProperty ev v prototypeKey with
    | .object r, .object p => return (r, some p)
    | .object r, .null => return (r, none)
    | _, _ => raise .type "parent prototype must be an object or null"

/-- Makes a class object. -/
def makeClass (ev : Evaluator) (frame : Frame) (c : Class) : Eval Value := do
  match c with
  | .mk name source parent init methods =>
    let scope ← (do
      if name.isEmpty then return frame.scope
      else newScope frame.scope [(name, ⟨none, true⟩)])
    let frame := { frame with scope, strict := true }
    let parentValue ← (do
      match parent with
      | none => return none
      | some e => return some (← ev.run (.eval e frame)))
    let (above, protoAbove) ← heritage ev parentValue
    let role : ClassRole := if parent.isSome then .derived else .base
    let func := match init with
      | some (.mk info vars body) => Func.mk { info with name, source } vars body
      | none => implicitInit name source
    charge (3 * Object.header)
    let r ← alloc
      { proto := some above
        kind := .closure ⟨func, scope, role, init.isNone, none⟩
        props := functionProps name func.info.params.length }
    let proto ← givePrototype r protoAbove false
    modifyObject r fun o =>
      match o with
      | ⟨p, .closure c, props⟩ => ⟨p, .closure { c with home := some proto }, props⟩
      | o => o
    addMethods ev r proto frame methods
    if !name.isEmpty then setSlot scope name ⟨some (.object r), true⟩
    return .object r

end DecBridge.Script
