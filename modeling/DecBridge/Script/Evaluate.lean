import DecBridge.Script.Native

/-!
# Evaluation

One rule per kind of task. The rules call each other only through the `Evaluator` they are given;
`evaluate` ties the knot with a number of steps that bounds how deep tasks may nest, and a run that
needs more is `stalled`.
-/

namespace DecBridge.Script

open Eval

/-! ## Names -/

/-- What a name stands for. -/
inductive Binding where
  | slot (scope : Nat) (s : Slot)
  | global (p : Property)
  | unknown

/-- What a name stands for in a scope. -/
def Heap.binding (h : Heap) (x : String) (scope : Nat) : Binding :=
  match findSlot h.scopes x (h.scopes.size + 1) scope with
  | some (owner, s) => .slot owner s
  | none =>
    match h.find? globalRef (.name x) with
    | some p => .global p
    | none => .unknown

def notInitialized (x : String) : String := shownName x ++ " is not initialized"

def notDefined (x : String) : String := shownName x ++ " is not defined"

/-- The value of a name. -/
def readName (ev : Evaluator) (frame : Frame) (x : String) (spot : Spot) : Eval Value := do
  match ← inspect fun h => h.binding x frame.scope with
  | .slot _ ⟨some v, _⟩ => return v
  | .slot _ ⟨none, _⟩ =>
    reach spot
    raise .reference (notInitialized x)
  | .global p => readContent ev (.object globalRef) (some p)
  | .unknown =>
    reach spot
    raise .reference (notDefined x)

/-- Looks at a name that is about to be assigned to: a constant of a function or a block is refused
at once. Yields whether the name means anything. -/
def checkAssigned (frame : Frame) (x : String) (spot : Spot) : Eval Bool := do
  match ← inspect fun h => h.binding x frame.scope with
  | .slot scope s =>
    if s.constant && scope != globalScope then
      reach spot
      raise .type (readOnly (.name x))
    return true
  | .global _ => return true
  | .unknown => return false

/-- Assigns to a name; `known` says whether it meant anything when the assignment began. -/
def assignName (ev : Evaluator) (frame : Frame) (x : String) (known : Bool) (v : Value) : Eval Unit := do
  match ← inspect fun h => h.binding x frame.scope with
  | .slot _ ⟨none, _⟩ => raise .reference (notInitialized x)
  | .slot scope ⟨some _, constant⟩ =>
    if constant then raise .type (readOnly (.name x))
    else setSlot scope x (.ofValue v)
  | _ =>
    if frame.strict && !known then raise .reference (notDefined x)
    else putProperty ev (.object globalRef) (.name x) v frame.strict

/-! ## Operators -/

def isInstance (h : Heap) (proto : Ref) : Nat → Option Ref → Bool
  | 0, _ => false
  | _, none => false
  | fuel + 1, some r => r == proto || isInstance h proto fuel (h.objects.getD r default).proto

def instanceRule (ev : Evaluator) (a b : Value) : Eval Value := do
  if !(← inspect fun h => isCallable h b) then raise .type "invalid 'instanceof' right operand"
  match a with
  | .object r =>
    match ← getProperty ev b prototypeKey with
    | .object proto =>
      return .bool (← inspect fun h =>
        isInstance h proto (h.objects.size + 1) (h.objects.getD r default).proto)
    | _ => raise .type "operand 'prototype' property is not an object"
  | _ => return .bool false

def inRule (ev : Evaluator) (a b : Value) : Eval Value := do
  match b with
  | .object r =>
    let key ← toKey ev a
    return .bool (← inspect fun h => (h.find? r key).isSome)
  | _ => raise .type "invalid 'in' operand"

def addRule (ev : Evaluator) (a b : Value) : Eval Value := do
  match a, b with
  | .number x, .number y => return .number (x.add y)
  | _, _ =>
    let a ← toPrimitive ev false a
    let b ← toPrimitive ev false b
    match a, b with
    | .text s, _ => return .text (← concatenate s (← primitiveText b))
    | _, .text t => return .text (← concatenate (← primitiveText a) t)
    | _, _ =>
      let x ← primitiveNumber a
      return .number (x.add (← primitiveNumber b))

/-- Compares two values by a relation of numbers and the same relation of texts. -/
def compareRule (ev : Evaluator) (a b : Value) (numbers : Float → Float → Bool)
    (texts : List Unit16 → List Unit16 → Bool) : Eval Value := do
  match a, b with
  | .number x, .number y => return .bool (numbers x.value y.value)
  | _, _ =>
    let a ← toPrimitive ev false a
    let b ← toPrimitive ev false b
    match a, b with
    | .text s, .text t => return .bool (texts s.units t.units)
    | _, _ =>
      let x ← primitiveNumber a
      return .bool (numbers x.value (← primitiveNumber b).value)

/-- Applies an operation to the numbers of two values. -/
def arithmetic (ev : Evaluator) (f : Number → Number → Number) (a b : Value) : Eval Value := do
  let x ← toNumber ev a
  return .number (f x (← toNumber ev b))

/-- Applies an operation to the bits of two numbers. -/
def onBits (f : Nat → Nat → Nat) (a b : Number) : Number := .ofBits (f a.lowBits b.lowBits)

/-- Shifts to the right; the sign moves in from the left. -/
def shiftRight (a b : Number) : Number :=
  let low := Int.ofNat a.lowBits
  let signed := if low ≥ 2147483648 then low - 4294967296 else low
  .ofInt (signed >>> (b.lowBits % 32))

def binaryRule (ev : Evaluator) (op : BinaryOp) (a b : Value) : Eval Value := do
  match op with
  | .add => addRule ev a b
  | .sub => arithmetic ev Number.sub a b
  | .mul => arithmetic ev Number.mul a b
  | .div => arithmetic ev Number.div a b
  | .rem => arithmetic ev Number.rem a b
  | .pow => arithmetic ev Number.pow a b
  | .shiftLeft => arithmetic ev (onBits fun x y => x <<< (y % 32)) a b
  | .shiftRight => arithmetic ev shiftRight a b
  | .shiftRightZero => arithmetic ev (fun x y => .ofNat (x.lowBits >>> (y.lowBits % 32))) a b
  | .bitAnd => arithmetic ev (onBits (· &&& ·)) a b
  | .bitOr => arithmetic ev (onBits (· ||| ·)) a b
  | .bitXor => arithmetic ev (onBits (· ^^^ ·)) a b
  | .less => compareRule ev a b (· < ·) Str.less
  | .greater => compareRule ev a b (fun x y => y < x) (fun s t => Str.less t s)
  | .lessEq => compareRule ev a b (· ≤ ·) (fun s t => !Str.less t s)
  | .greaterEq => compareRule ev a b (fun x y => y ≤ x) (fun s t => !Str.less s t)
  | .same => return .bool (same a b)
  | .notSame => return .bool (!same a b)
  | .equal => return .bool (← equal ev a b)
  | .notEqual => return .bool (!(← equal ev a b))
  | .instanceOf => instanceRule ev a b
  | .isIn => inRule ev a b

/-- Whether the left side of a logical operation is its value. -/
def settles (op : LogicalOp) (v : Value) : Bool :=
  match op with
  | .and => !isTruthy v
  | .or => isTruthy v
  | .coalesce => !isMissing v

/-! ## Places -/

/-- A place that can be read and written. -/
inductive Place where
  | name (x : String) (known : Bool) (spot : Spot)
  | property (target : Value) (key : Key)

/-- Notes the place in the script if a value has no properties. -/
def reachIfMissing (v : Value) (spot : Spot) : Eval Unit := if isMissing v then reach spot else return

/-- The place that an expression denotes. -/
def placeOf (ev : Evaluator) (frame : Frame) : Expr → Eval Place
  | .member e key spot => do
    let target ← ev.run (.eval e frame)
    reachIfMissing target spot
    return .property target key
  | .index e k spot => do
    let target ← ev.run (.eval e frame)
    let key ← ev.run (.eval k frame)
    if isMissing target then
      reach spot
      raise .type "value has no property"
    return .property target (← toKey ev key)
  | .name x spot => return .name x (← checkAssigned frame x spot) spot
  | _ => raise .form "invalid assignment left-hand side"

def readPlace (ev : Evaluator) (frame : Frame) : Place → Eval Value
  | .name x _ spot => readName ev frame x spot
  | .property target key => getProperty ev target key

def writePlace (ev : Evaluator) (frame : Frame) (v : Value) : Place → Eval Unit
  | .name x known _ => assignName ev frame x known v
  | .property target key => putProperty ev target key v frame.strict

/-- Reads a property by a computed key. Of a value without properties none is read, and the key is
not looked at. -/
def getIndexed (ev : Evaluator) (v k : Value) : Eval Value := do
  match v, k with
  | .undefined, _ => raise .type "cannot read property of undefined"
  | .null, _ => raise .type "cannot read property of null"
  | .object r, .number ⟨x, true⟩ =>
    if x < 0.0 then getProperty ev v (← toKey ev k) else getElement ev (.object r) x.toUInt64.toNat
  | _, _ => getProperty ev v (← toKey ev k)

def assignRule (ev : Evaluator) (frame : Frame) (op : AssignOp) (target value : Expr) : Eval Value := do
  let place ← placeOf ev frame target
  match op with
  | .plain =>
    let v ← ev.run (.eval value frame)
    writePlace ev frame v place
    return v
  | .combine op =>
    let old ← readPlace ev frame place
    let v ← binaryRule ev op old (← ev.run (.eval value frame))
    writePlace ev frame v place
    return v
  | .choose op =>
    let old ← readPlace ev frame place
    if settles op old then return old
    else
      let v ← ev.run (.eval value frame)
      writePlace ev frame v place
      return v

def updateRule (ev : Evaluator) (frame : Frame) (increase before : Bool) (target : Expr) : Eval Value := do
  let place ← placeOf ev frame target
  let old ← toNumber ev (← readPlace ev frame place)
  let one := Number.ofNat 1
  let new := if increase then old.add one else old.sub one
  writePlace ev frame (.number new) place
  return .number (if before then new else old)

def removeRule (ev : Evaluator) (frame : Frame) (target k : Expr) : Eval Value := do
  let v ← ev.run (.eval target frame)
  let key ← toKey ev (← ev.run (.eval k frame))
  needObject v
  match v with
  | .object r =>
    if ← deleteProperty r key then return .bool true
    else if frame.strict then raise .type "could not delete property"
    else return .bool false
  | _ => return .bool true

/-! ## Expressions -/

def evalAll (ev : Evaluator) (frame : Frame) : List Expr → Eval (List Value)
  | [] => return []
  | e :: es => do
    let v ← ev.run (.eval e frame)
    return v :: (← evalAll ev frame es)

/-- The elements of an array literal. -/
def evalItems (ev : Evaluator) (frame : Frame) : List (Option Expr) → Eval (List (Option Value))
  | [] => return []
  | none :: es => return none :: (← evalItems ev frame es)
  | some e :: es => do
    let v ← ev.run (.eval e frame)
    return some v :: (← evalItems ev frame es)

/-- The value of an entry of an object literal; its functions are methods of the object. -/
def entryValue (ev : Evaluator) (frame : Frame) (r : Ref) : Expr → Eval Value
  | .func f => makeFunction f frame.scope (if f.info.kind == .method then some r else none)
  | e => ev.run (.eval e frame)

/-- Sets the entries of an object literal in order. -/
def evalFields (ev : Evaluator) (frame : Frame) (r : Ref) : List (FieldKind × Expr × Expr) → Eval Unit
  | [] => return
  | (kind, k, e) :: rest => do
    let key ← toKey ev (← ev.run (.eval k frame))
    defineEntry r key kind (← entryValue ev frame r (e.named (kind.functionName key.label))) true
    evalFields ev frame r rest

/-- The function that an expression calls, and its receiver. -/
def calleeOf (ev : Evaluator) (frame : Frame) : Expr → Eval (Value × Value)
  | .member e key spot => do
    let target ← ev.run (.eval e frame)
    reachIfMissing target spot
    return (← getProperty ev target key, target)
  | .index e k spot => do
    let target ← ev.run (.eval e frame)
    let key ← ev.run (.eval k frame)
    reachIfMissing target spot
    return (← getIndexed ev target key, target)
  | .superMember k => do
    return (← ev.run (.eval (.superMember k) frame), ← thisOf frame.scope)
  | e => return (← ev.run (.eval e frame), .undefined)

/-- Calls an expression; the target of a property access is the receiver. -/
def callRule (ev : Evaluator) (frame : Frame) (callee : Expr) (args : List Expr) (spot : Spot) :
    Eval Value := do
  let (f, this) ← calleeOf ev frame callee
  let args ← evalAll ev frame args
  reach spot
  ev.run (.call f this args)

/-- Makes the object of a derived class through the class it is derived from. -/
def superCallRule (ev : Evaluator) (frame : Frame) (args : List Expr) (spot : Spot) : Eval Value := do
  match ← slot? calleeName frame.scope, ← slot? targetName frame.scope with
  | some (_, ⟨some f, _⟩), some (scope, ⟨some target, _⟩) =>
    let parent ← parentOf f
    let args ← evalAll ev frame args
    reach spot
    let v ← ev.run (.construct parent args target)
    setSlot scope thisName ⟨some v, true⟩
    return v
  | _, _ => raise .form "super() is only valid in a derived class constructor"

/-- Reads a property above the object that the function under way is a method of. -/
def superMemberRule (ev : Evaluator) (frame : Frame) (k : Expr) : Eval Value := do
  let this ← thisOf frame.scope
  let key ← toKey ev (← ev.run (.eval k frame))
  match ← slot? homeName frame.scope with
  | some (_, ⟨some (.object home), _⟩) =>
    match ← peek home Object.proto with
    | some above => readContent ev this (← inspect fun h => h.find? above key)
    | none => return .undefined
  | _ => return .undefined

def unaryValue (ev : Evaluator) (frame : Frame) (op : UnaryOp) (e : Expr) : Eval Value := do
  let v ← (do
    match op, e with
    | .typeOf, .name x spot =>
      match ← inspect fun h => h.binding x frame.scope with
      | .unknown => return .undefined
      | _ => readName ev frame x spot
    | _, _ => ev.run (.eval e frame))
  match op with
  | .typeOf => return .ofString (← inspect fun h => typeName h v)
  | .not => return .bool (!isTruthy v)
  | .void => return .undefined
  | .neg => return .number (← toNumber ev v).neg
  | .plus => return .number (← toNumber ev v)
  | .complement => return .number (.ofBits (4294967295 - (← toNumber ev v).lowBits))

def evalRule (ev : Evaluator) (e : Expr) (frame : Frame) : Eval Value := do
  match e with
  | .number x => return .number x
  | .text us => return .text (Str.ofUnits us)
  | .name x spot => readName ev frame x spot
  | .this => thisOf frame.scope
  | .null => return .null
  | .bool b => return .bool b
  | .array items => newHolyArray (← evalItems ev frame items)
  | .object fields =>
    charge Object.header
    let r ← alloc ⟨some objectProto, .plain, []⟩
    evalFields ev frame r fields
    return .object r
  | .func f => makeFunction f frame.scope none
  | .cls c => makeClass ev frame c
  | .member target key spot =>
    let v ← ev.run (.eval target frame)
    reachIfMissing v spot
    getProperty ev v key
  | .index target key spot =>
    let v ← ev.run (.eval target frame)
    let k ← ev.run (.eval key frame)
    reachIfMissing v spot
    getIndexed ev v k
  | .superMember k => superMemberRule ev frame k
  | .call callee args spot => callRule ev frame callee args spot
  | .construct callee args spot =>
    let f ← ev.run (.eval callee frame)
    let args ← evalAll ev frame args
    reach spot
    ev.run (.construct f args f)
  | .superCall args spot => superCallRule ev frame args spot
  | .unary op e => unaryValue ev frame op e
  | .delete (.member target key _) =>
    let units := key.toStr.units
    removeRule ev frame target (.text units)
  | .delete (.index target key _) => removeRule ev frame target key
  | .delete e =>
    let _ ← ev.run (.eval e frame)
    return .bool true
  | .update increase before target => updateRule ev frame increase before target
  | .binary op a b =>
    let x ← ev.run (.eval a frame)
    binaryRule ev op x (← ev.run (.eval b frame))
  | .logical op a b =>
    let x ← ev.run (.eval a frame)
    if settles op x then return x else ev.run (.eval b frame)
  | .cond test yes no =>
    if isTruthy (← ev.run (.eval test frame)) then ev.run (.eval yes frame)
    else ev.run (.eval no frame)
  | .assign op target value => assignRule ev frame op target value
  | .seq a b =>
    let _ ← ev.run (.eval a frame)
    ev.run (.eval b frame)
  | .await e =>
    let _ ← ev.run (.eval e frame)
    abrupt .suspended

/-! ## Statements -/

/-- Runs a block, in a scope of its own if it declares names. -/
def blockRule (ev : Evaluator) (frame : Frame) : Block → Eval Completion
  | .mk [] [] body => ev.run (.execAll body frame)
  | .mk names funcs body =>
    inScope frame.scope (blockSlots names) fun scope => do
      hoistFunctions scope funcs
      ev.run (.execAll body { frame with scope })

/-- Gives a name of a block its first value. -/
def giveValue (frame : Frame) (x : String) (v : Value) : Eval Unit := do
  match ← slot? x frame.scope with
  | some (scope, slot) => setSlot scope x { slot with value := some v }
  | none => return

/-- Gives variables their first values. -/
def bindAll (ev : Evaluator) (frame : Frame) (isVar : Bool) : List (String × Option Expr) → Eval Unit
  | [] => return
  | (x, e) :: rest => do
    match isVar, e with
    | true, none => pure ()
    | true, some e =>
      let known ← checkAssigned frame x default
      assignName ev frame x known (← ev.run (.eval e frame))
    | false, none => giveValue frame x .undefined
    | false, some e => giveValue frame x (← ev.run (.eval e frame))
    bindAll ev frame isVar rest

/-- Starts a new round of a loop. The round gets its own copies of the loop's names if the last one
made an object, which may hold on to them. -/
def freshRound (frame : Frame) (objects : Nat) : Eval Frame := do
  if (← inspect fun h => h.objects.size) == objects then return frame
  else
    let (parent, slots) ← inspect fun h =>
      let scope := h.scopes.getD frame.scope default
      (scope.parent.getD globalScope, scope.slots)
    let copy ← newScope parent slots
    settle copy
    return { frame with scope := copy }

/-- Whether a jump with a label is meant for a loop with another. -/
def meant (jump label : Option String) : Bool := jump.isNone || jump == label

/-- What the outcome of a loop's body means for the loop: whether it goes on, or how it ends. -/
def afterBody (label : Option String) : Completion → Step Completion Unit
  | .normal => .again ()
  | .brk l => .finish (if meant l label then .normal else .brk l)
  | .cont l => if meant l label then .again () else .finish (.cont l)
  | .ret v => .finish (.ret v)

/-- Whether the test of a loop, if it has one, holds. -/
def testHolds (ev : Evaluator) (frame : Frame) : Option Expr → Eval Bool
  | some e => return isTruthy (← ev.run (.eval e frame))
  | none => return true

/-- Evaluates what a loop does between two rounds. -/
def runStep (ev : Evaluator) (frame : Frame) : Option Expr → Eval Unit
  | some e => do
    let _ ← ev.run (.eval e frame)
  | none => return

/-- Runs a loop that tests before each round. -/
def loopRule (ev : Evaluator) (label : Option String) (test : Option Expr) (body : Stmt)
    (step : Option Expr) (perRound : Bool) (frame : Frame) : Eval Completion :=
  repeatFrom frame fun frame => do
    let objects ← inspect fun h => h.objects.size
    if ← testHolds ev frame test then
      match afterBody label (← ev.run (.exec body frame)) with
      | .finish c => return .finish c
      | .again _ =>
        let frame ← (do if perRound then freshRound frame objects else return frame)
        runStep ev frame step
        return .again frame
    else return .finish .normal

def setCompletion (frame : Frame) (v : Value) : Eval Unit :=
  if frame.topLevel then modify fun h => { h with completion := v } else return

/-- Runs the handler of an exception, with the exception under its name. -/
def catchRule (ev : Evaluator) (frame : Frame) (param : Option String) (handler : Block) (v : Value) :
    Eval Completion := do
  match param with
  | none => blockRule ev frame handler
  | some x =>
    inScope frame.scope [(x, .ofValue v)] fun scope => blockRule ev { frame with scope } handler

/-- What is left to do of a statement whose outcome is known. -/
def outcome : Except Abrupt Completion → Eval Completion
  | .ok c => return c
  | .error e => abrupt e

/-- Runs what has to be done in any case; unless it ends early itself, the value of the script is
what it was before. -/
def finallyRule (ev : Evaluator) (frame : Frame) (block : Block) (before : Except Abrupt Completion) :
    Eval Completion := do
  let value ← inspect fun h => h.completion
  setCompletion frame .undefined
  match ← blockRule ev frame block with
  | .normal =>
    setCompletion frame value
    outcome before
  | c => return c

def tryRuleExec (ev : Evaluator) (frame : Frame) (body : Block) (param : Option String)
    (handler final : Option Block) : Eval Completion := do
  let first ← attempt (blockRule ev frame body)
  let second ← (do
    match first, handler with
    | .error (.thrown v), some h => attempt (catchRule ev frame param h v)
    | r, _ => return r)
  match second, final with
  | .error .suspended, _ => abrupt .suspended
  | r, none => outcome r
  | r, some block => finallyRule ev frame block r

/-- Runs a loop that tests after each round. -/
def doRule (ev : Evaluator) (label : Option String) (body : Stmt) (test : Expr) (frame : Frame) :
    Eval Completion :=
  repeatFrom () fun _ => do
    setCompletion frame .undefined
    match afterBody label (← ev.run (.exec body frame)) with
    | .finish c => return .finish c
    | .again _ =>
      if isTruthy (← ev.run (.eval test frame)) then return .again () else return .finish .normal

/-- Runs a statement that may carry a label. -/
def labelledRule (ev : Evaluator) (label : Option String) (s : Stmt) (frame : Frame) : Eval Completion := do
  match s with
  | .whileDo test body =>
    setCompletion frame .undefined
    loopRule ev label (some test) body none false frame
  | .doWhile body test => doRule ev label body test frame
  | .forLoop names start test step body =>
    setCompletion frame .undefined
    let loop (frame : Frame) (perRound : Bool) : Eval Completion := do
      let _ ← ev.run (.exec start { frame with topLevel := false })
      loopRule ev label test body step perRound frame
    if names.isEmpty then loop frame false
    else inScope frame.scope (blockSlots names) fun scope => loop { frame with scope } true
  | s => ev.run (.exec s frame)

def execRule (ev : Evaluator) (s : Stmt) (frame : Frame) : Eval Completion := do
  match s with
  | .empty => return .normal
  | .expr e =>
    let v ← ev.run (.eval e frame)
    setCompletion frame v
    return .normal
  | .declareVar bs => bindAll ev frame true bs; return .normal
  | .declareLet bs => bindAll ev frame false bs; return .normal
  | .declareClass x c =>
    giveValue frame x (← makeClass ev frame c)
    return .normal
  | .ifElse test yes no =>
    setCompletion frame .undefined
    if isTruthy (← ev.run (.eval test frame)) then ev.run (.exec yes frame)
    else
      match no with
      | some s => ev.run (.exec s frame)
      | none => return .normal
  | .whileDo _ _ | .doWhile _ _ | .forLoop _ _ _ _ _ => labelledRule ev none s frame
  | .block b => blockRule ev frame b
  | .labelled x s =>
    match ← labelledRule ev (some x) s frame with
    | .brk (some l) => if l == x then return .normal else return .brk (some l)
    | c => return c
  | .ret none => return .ret .undefined
  | .ret (some e) => return .ret (← ev.run (.eval e frame))
  | .throw e => throw (← ev.run (.eval e frame))
  | .tryCatch body param handler final =>
    setCompletion frame .undefined
    tryRuleExec ev frame body param handler final
  | .brk label => return .brk label
  | .cont label => return .cont label

def execAllRule (ev : Evaluator) (ss : List Stmt) (frame : Frame) : Eval Completion := do
  match ss with
  | [] => return .normal
  | s :: rest =>
    match ← ev.run (.exec s frame) with
    | .normal => ev.run (.execAll rest frame)
    | c => return c

/-! ## Calls -/

/-- What can be called. -/
inductive Callable where
  | closure (r : Ref) (c : Closure)
  | native (r : Ref) (f : Native)

def callable? (h : Heap) : Value → Option Callable
  | .object r =>
    match (h.objects.getD r default).kind with
    | .closure c => some (.closure r c)
    | .native f => some (.native r f)
    | _ => none
  | _ => none

/-- The call of a function of the engine. -/
def nativeActivation (r : Ref) : Activation := ⟨some r, none, default, globalScope⟩

/-- Calls a value with a receiver. -/
def applyRule (ev : Evaluator) (f this : Value) (args : List Value) : Eval Value := do
  match ← inspect fun h => callable? h f with
  | some (.closure r c) =>
    inCall (c.activation r) (do
      if c.role != .none then raise .type "class constructors must be invoked with 'new'"
      else runFunction ev c ⟨f, some this, .undefined⟩ args)
  | some (.native r g) => inCall (nativeActivation r) (nativeRule ev g this args)
  | none => raise .type "not a function"

/-- Makes an object of the class `target` with a constructor. -/
def constructRule (ev : Evaluator) (f : Value) (args : List Value) (target : Value) : Eval Value := do
  match ← inspect fun h => callable? h f with
  | some (.closure r c) =>
    if !c.constructs then raise .type "not a constructor"
    else inCall (c.activation r) (constructClosure ev f c args target)
  | some (.native r g) =>
    if !g.constructs then raise .type "not a constructor"
    else inCall (nativeActivation r) (do
      let proto ← prototypeOf ev target g.proto
      constructorRule ev g args (some proto))
  | none => raise .type "not a constructor"

/-! ## Tying the knot -/

/-- The rule of each task. -/
def taskRule (ev : Evaluator) : {α : Type} → Task α → Eval α
  | _, .eval e frame => evalRule ev e frame
  | _, .exec s frame => execRule ev s frame
  | _, .execAll ss frame => execAllRule ev ss frame
  | _, .call f this args => applyRule ev f this args
  | _, .construct f args target => constructRule ev f args target
  | _, .json key v around => jsonRule ev key v around

/-- Carries out a task with at most `steps` tasks nested in each other. -/
def evaluate : Nat → {α : Type} → Task α → Eval α
  | 0, _, _ => stall
  | steps + 1, _, task => taskRule ⟨fun t => evaluate steps t⟩ task

end DecBridge.Script
