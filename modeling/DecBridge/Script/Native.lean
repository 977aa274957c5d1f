import DecBridge.Script.Array
import DecBridge.Script.Function
import DecBridge.Script.Grammar

/-!
# The functions that the engine provides

Among them the callbacks, by which a script reaches the outside: a host command, two loaders and the
console. A callback that is given the wrong kind of argument throws without asking for anything. A
panic outside is kept until an exception leaves the engine, and the script sees something thrown in
its place.
-/

namespace DecBridge.Script

open Eval

/-! ## Callbacks -/

/-- Hands a script text to the outside, which takes only scalar values. -/
def outsideText (s : Str) : Eval String :=
  match s.toText with
  | .ok t => return t
  | .error offset =>
    raise .type ("Conversion from string failed: invalid utf-8 sequence of 1 bytes from index "
      ++ toString offset)

/-- The text argument that a callback requires. -/
def textArgument (function : String) (args : List Value) : Eval String :=
  match args.head? with
  | some (.text s) => outsideText s
  | _ => raise .type (function ++ ": expected a string argument")

/-- The value of an answer. -/
def answered : Answer → Eval Value
  | .text s => return .ofString s
  | .nothing => return .undefined
  | .refused kind message => raise kind message
  | .panicked _ => throw .panic

/-- An evaluation on behalf of the outside: an exception in it is a panic again while one is kept. -/
def crossing {α : Type} (x : Eval α) : Eval α := do
  match ← attempt x with
  | .ok a => return a
  | .error e => if ← inspect fun h => h.kept.isSome then throw .panic else abrupt e

/-- The arguments of a console method as texts for the outside. -/
def consoleParts (ev : Evaluator) : List Value → Eval (List String)
  | [] => return []
  | v :: rest => do
    let part ← outsideText (← crossing (toText ev v))
    return part :: (← consoleParts ev rest)

/-- A line of the console: the parts with single spaces between them. -/
def consoleLine (parts : List String) : String := " ".intercalate parts ++ "\n"

def callbackRule (ev : Evaluator) (f : Native) (args : List Value) : Eval Value := do
  match f with
  | .command => answered (← ask (.command (← textArgument hostCommandName args)))
  | .load => answered (← ask (.load (← textArgument loadName args)))
  | .require => answered (← ask (.require (← textArgument requireName args)))
  | _ => answered (← ask (.print (consoleLine (← consoleParts ev args))))

/-! ## Names -/

def Native.name : Native → String
  | .command => hostCommandName
  | .load => loadName
  | .require => requireName
  | .console method => method
  | .stringify => "stringify"
  | .error kind => kind.name
  | .text => "String"
  | .number => "Number"
  | .bool => "Boolean"
  | .symbol => "Symbol"
  | .function => "Function"
  | .array => "Array"
  | .object => "Object"
  | .defineProperty => "defineProperty"
  | .objectToString | .functionToString | .errorToString | .arrayToString | .numberToString
  | .boolToString | .symbolToString => "toString"
  | .objectValueOf | .numberValueOf | .boolValueOf | .symbolValueOf => "valueOf"
  | .textSelf method => method
  | .join => "join"
  | .push => "push"
  | .map => "map"
  | .forEach => "forEach"
  | .concat => "concat"
  | .fill => "fill"
  | .trim => "trim"
  | .repeated => "repeat"
  | .nothing => ""

/-- How many parameters a function of the engine says it has. -/
def Native.params : Native → Nat
  | .stringify | .defineProperty => 3
  | .error _ | .text | .number | .bool | .function | .array | .object | .join | .push | .map
  | .forEach | .concat | .fill | .repeated | .numberToString => 1
  | _ => 0

/-! ## Texts of values -/

/-- What kind of thing a value is by itself. -/
def ownTag (h : Heap) : Value → String
  | .undefined => "Undefined"
  | .null => "Null"
  | .text _ => "String"
  | .number _ => "Number"
  | .bool _ => "Boolean"
  | .symbol _ _ | .panic => "Object"
  | .object r =>
    match (h.objects.getD r default).kind with
    | .array _ _ => "Array"
    | .arguments => "Arguments"
    | .closure _ | .native _ => "Function"
    | .error => "Error"
    | .boxed (.text _) => "String"
    | .boxed (.number _) => "Number"
    | .boxed (.bool _) => "Boolean"
    | _ => "Object"

/-- The text of an object that has no better one: what it says it is, or what it is by itself. -/
def objectText (ev : Evaluator) (v : Value) : Eval Str := do
  let tagged ← (do if isMissing v then return .undefined else getProperty ev v tagKey)
  let tag ← (do
    match tagged with
    | .text s => return s
    | _ => return Str.ofString (← inspect fun h => ownTag h v))
  return Str.ofString "[object " ++ tag ++ Str.ofString "]"

/-- The text of a function, if the object is one. -/
def functionText? (o : Object) : Option String :=
  match o.kind with
  | .closure c => some c.func.info.source
  | .native f => some ("function " ++ f.name ++ "() \x7b\n    [native code]\n\x7d")
  | _ => none

/-- The text of an error: its name, and its message after a colon if there is one. -/
def errorText (ev : Evaluator) (v : Value) : Eval Str := do
  let part (key standard : String) : Eval Str := do
    match ← getNamed ev v key with
    | .undefined => return Str.ofString standard
    | x => toText ev x
  let name ← part "name" "Error"
  let message ← part "message" ""
  if message.size == 0 then return name
  else if name.size == 0 then return message
  else return name ++ Str.ofString ": " ++ message

/-- The primitive value that a value is or stands for. -/
def unboxed (v : Value) : Eval Value := do
  match v with
  | .object r => peek r fun o =>
    match o.kind with
    | .boxed x => x
    | _ => .undefined
  | v => return v

/-- The text of an array: its elements joined, if it can join them. -/
def arrayText (ev : Evaluator) (this : Value) : Eval Value := do
  needObject this
  let f ← getNamed ev this "join"
  if ← inspect fun h => isCallable h f then ev.run (.call f this [])
  else return .text (← objectText ev this)

/-- Repeats a text. -/
def repeatRule (ev : Evaluator) (s : Str) (count : Value) : Eval Value := do
  let x := (← toNumber ev count).value
  let n := truncated x
  if n < 0 || n > 2147483647 || x.isInf then raise .range "invalid repeat count"
  else if s.size * n.toNat > longestText then raise .range "invalid string length"
  else
    charge (s.size * n.toNat)
    return .text (s.replicate n.toNat)

/-- The text that a method of texts works on. -/
def thisText (ev : Evaluator) (this : Value) : Eval Str :=
  if isMissing this then raise .type "null or undefined are forbidden" else toText ev this

def textRule (ev : Evaluator) (f : Native) (this : Value) (args : List Value) : Eval Value := do
  match f with
  | .objectToString => return .text (← objectText ev this)
  | .objectValueOf =>
    needObject this
    return this
  | .functionToString =>
    let found ← (do
      match this with
      | .object r => peek r functionText?
      | _ => return none)
    match found with
    | some s => return .ofString s
    | none => raise .type "not a function"
  | .errorToString =>
    match this with
    | .object _ => return .text (← errorText ev this)
    | _ => raise .type "not an object"
  | .arrayToString => arrayText ev this
  | .trim => return .text (← thisText ev this).trim
  | .repeated => repeatRule ev (← thisText ev this) (args.headD .undefined)
  | f =>
    match f, ← unboxed this with
    | .textSelf _, .text s => return .text s
    | .textSelf _, _ => raise .type "not a string"
    | .numberToString, .number x => return .ofString (numberText x)
    | .numberValueOf, .number x => return .number x
    | .numberToString, _ | .numberValueOf, _ => raise .type "not a number"
    | .boolToString, .bool b => return .text (← primitiveText (.bool b))
    | .boolValueOf, .bool b => return .bool b
    | .boolToString, _ | .boolValueOf, _ => raise .type "not a boolean"
    | .symbolToString, .symbol _ label => return .ofString ("Symbol(" ++ label ++ ")")
    | .symbolValueOf, .symbol id label => return .symbol id label
    | .symbolToString, _ | .symbolValueOf, _ => raise .type "not a symbol"
    | _, _ => return .undefined

/-! ## Constructors -/

/-- A new symbol with a label. -/
def newSymbol (label : String) : Eval Value := update fun h =>
  (.symbol h.symbols label, { h with symbols := h.symbols + 1 })

/-- The name of a function that was made out of texts, in traces. -/
def textFile : String := "<input>"

/-- Throws a syntax error, whose trace starts at the place of the fault. Nesting that is too deep
counts as a call that is. -/
def raiseFault {α : Type} (file : String) (fault : Fault) : Eval α := do
  if fault.nesting then raise .range tooDeep
  let message := Str.ofString (buffered messageRoom fault.message)
  let calls ← inspect (trace 0)
  throw (← newError ErrorKind.form.proto (some message)
    ("    at " ++ shownPlace file fault.spot ++ "\n" ++ calls))

/-- The texts of values in order. -/
def toTexts (ev : Evaluator) : List Value → Eval (List String)
  | [] => return []
  | v :: rest => do
    let s ← toText ev v
    return s.toLossy :: (← toTexts ev rest)

/-- Makes a function out of the texts of its parameters and of its body. -/
def makeFromText (ev : Evaluator) (args : List Value) : Eval Value := do
  let texts ← toTexts ev args
  let source := "(function anonymous(" ++ ",".intercalate texts.dropLast ++ "\n) \x7b\n"
    ++ texts.getLastD "" ++ "\n\x7d)"
  match Program.read source textFile false with
  | .error fault => raiseFault textFile fault
  | .ok program =>
    match program.body with
    | .mk _ _ [.expr e] => ev.run (.eval e ⟨globalScope, false, false⟩)
    | _ => raise .form "invalid function"

/-- A primitive value as an object. -/
def boxed (v : Value) (proto : Ref) : Eval Value := do
  charge Object.header
  return .object (← alloc ⟨some proto, .boxed v, []⟩)

/-- An array of a length, or with elements. -/
def arrayOf : List Value → Eval Value
  | [.number x] => do
    let n ← arrayLength x.value
    charge Object.header
    return .object (← alloc ⟨some arrayProto, .array n #[], []⟩)
  | args => newArray args

/-- An object for a value. -/
def objectOf : Value → Eval Value
  | .undefined | .null => do
    charge Object.header
    return .object (← alloc ⟨some objectProto, .plain, []⟩)
  | .object r => return .object r
  | .panic => throw .panic
  | v => boxed v (primitiveProto v)

/-- Calls a constructor that the engine provides; `proto` is the prototype of the new object, if one
is asked for. -/
def constructorRule (ev : Evaluator) (f : Native) (args : List Value) (proto : Option Ref) : Eval Value := do
  match f with
  | .error kind =>
    let message ← (do
      match args.head? with
      | none | some .undefined => return none
      | some v => return some (← toText ev v))
    newError (proto.getD kind.proto) message (← inspect (trace 1))
  | .text =>
    let s ← (do
      match args.head?, proto with
      | none, _ => return Str.empty
      | some (.symbol _ label), none => return Str.ofString ("Symbol(" ++ label ++ ")")
      | some v, _ => toText ev v)
    match proto with
    | some r => boxed (.text s) r
    | none => return .text s
  | .number =>
    let x ← (do
      match args.head? with
      | none => return Number.ofNat 0
      | some v => toNumber ev v)
    match proto with
    | some r => boxed (.number x) r
    | none => return .number x
  | .bool =>
    let b := isTruthy (args.headD .undefined)
    match proto with
    | some r => boxed (.bool b) r
    | none => return .bool b
  | .symbol =>
    match proto, args.head? with
    | some _, _ => raise .type "not a constructor"
    | none, none | none, some .undefined => newSymbol ""
    | none, some v => newSymbol (← toText ev v).toLossy
  | .function => makeFromText ev args
  | .array => arrayOf args
  | _ => objectOf (args.headD .undefined)

/-- The prototype of what a constructor makes. -/
def Native.proto : Native → Ref
  | .error kind => kind.proto
  | .text => textProto
  | .number => numberProto
  | .bool => boolProto
  | .symbol => symbolProto
  | .function => functionProto
  | .array => arrayProto
  | _ => objectProto

/-! ## Defining properties -/

/-- An entry of a description, if it has one. -/
def entry? (ev : Evaluator) (description : Value) (x : String) : Eval (Option Value) := do
  match ← inspect fun h => h.lookup? description (.name x) with
  | none => return none
  | some p => return some (← readContent ev description (some p))

/-- Refuses a reader or writer of a property that cannot be called. -/
def checkAccess (word : String) : Option Value → Eval Unit
  | none | some .undefined => return
  | some f => do
    if !(← inspect fun h => isCallable h f) then raise .type (word ++ " must be a function")

/-- What an object says about a property. -/
def descriptorOf (ev : Evaluator) (description : Value) : Eval Descriptor := do
  match description with
  | .object _ =>
    let enumerable ← entry? ev description "enumerable"
    let configurable ← entry? ev description "configurable"
    let value ← entry? ev description "value"
    let writable ← entry? ev description "writable"
    let get ← entry? ev description "get"
    checkAccess "Getter" get
    let set ← entry? ev description "set"
    checkAccess "Setter" set
    let d : Descriptor :=
      { value, get, set, writable := writable.map isTruthy
        enumerable := enumerable.map isTruthy, configurable := configurable.map isTruthy }
    if d.isAccessor && d.isData then
      raise .type "cannot have setter/getter and value or writable"
    return d
  | _ => raise .type "not an object"

def definePropertyRule (ev : Evaluator) (args : List Value) : Eval Value := do
  match args.headD .undefined with
  | .object r =>
    let key ← toKey ev ((args[1]?).getD .undefined)
    defineProperty r key (← descriptorOf ev ((args[2]?).getD .undefined))
    return .object r
  | _ => raise .type "not an object"

/-- Calls a function that the engine provides. -/
def nativeRule (ev : Evaluator) (f : Native) (this : Value) (args : List Value) : Eval Value :=
  match f with
  | .command | .load | .require | .console _ => callbackRule ev f args
  | .stringify => do
    match ← ev.run (.json (.name "") (args.headD .undefined) []) with
    | some s => return .text s
    | none => return .undefined
  | .error _ | .text | .number | .bool | .symbol | .function | .array | .object =>
    constructorRule ev f args none
  | .defineProperty => definePropertyRule ev args
  | .join => joinRule ev this args
  | .push => pushRule ev this args
  | .map => eachRule ev true this args
  | .forEach => eachRule ev false this args
  | .concat => concatRule ev this args
  | .fill => fillRule ev this args
  | .nothing => return .undefined
  | f => textRule ev f this args

end DecBridge.Script
