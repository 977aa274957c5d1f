import DecBridge.Script.Ast
import DecBridge.Script.Run

/-!
# Values and objects

The values that scripts compute with, and the objects and scopes that values refer to.
-/

namespace DecBridge.Script

/-- An object, by its place in the heap. -/
abbrev Ref := Nat

inductive Value where
  | undefined
  | null
  | bool (b : Bool)
  | number (x : Number)
  | text (s : Str)
  | symbol (id : Nat) (label : String)
  | object (r : Ref)
  /-- What a script catches of a panic. It cannot be looked into: whatever needs its contents throws
  it again. -/
  | panic
  deriving Inhabited

/-- A text as a value. -/
def Value.ofString (s : String) : Value := .text (Str.ofString s)

/-- A natural number as a value. -/
def Value.ofNat (n : Nat) : Value := .number (.ofNat n)

/-- The functions that the engine provides. -/
inductive Native where
  | command | load | require
  | console (method : String)
  | stringify
  | error (kind : ErrorKind)
  | text | number | bool | symbol | function | array | object
  | defineProperty
  | objectToString | objectValueOf | functionToString | errorToString
  | arrayToString | join | push | map | forEach | concat | fill
  | textSelf (method : String)
  | numberToString | numberValueOf | boolToString | boolValueOf | symbolToString | symbolValueOf
  | trim | repeated
  /-- What is found where every function inherits from. -/
  | nothing
  deriving DecidableEq, Inhabited

/-- The class that a constructor makes objects of. -/
inductive ClassRole where
  | none
  | base
  | derived
  deriving DecidableEq, Inhabited

/-- A function of the script with the scope it was made in. -/
structure Closure where
  func : Func
  scope : Nat
  role : ClassRole
  /-- Whether it stands for a constructor that its class does not write down. -/
  implicit : Bool
  /-- The object that it is a method of. -/
  home : Option Ref

/-- What an object is besides its properties. An array holds its first elements in `items`, where
some may be missing; the others are properties. -/
inductive Kind where
  | plain
  | array (length : Nat) (items : Array (Option Value))
  | arguments
  | closure (c : Closure)
  | native (f : Native)
  | error
  | boxed (v : Value)
  | promise

/-- A property: a value, or functions that read and write it. -/
inductive Content where
  | value (v : Value) (writable : Bool)
  | accessor (get set : Value)
  deriving Inhabited

structure Property where
  content : Content
  enumerable : Bool
  configurable : Bool
  deriving Inhabited

namespace Property

/-- A property as an assignment makes it. -/
def plain (v : Value) : Property := ⟨.value v true, true, true⟩

/-- A property that can be replaced but is not listed. -/
def hidden (v : Value) : Property := ⟨.value v true, false, true⟩

/-- A property that is not listed and can only be replaced by a new definition. -/
def label (v : Value) : Property := ⟨.value v false, false, true⟩

/-- A property that never changes. -/
def fixed (v : Value) : Property := ⟨.value v false, false, false⟩

end Property

structure Object where
  proto : Option Ref
  kind : Kind
  props : List (Key × Property)

instance : Inhabited Object := ⟨⟨none, .plain, []⟩⟩

/-- A variable; without a value it must not be used yet. -/
structure Slot where
  value : Option Value
  constant : Bool
  deriving Inhabited

/-- The slot of a variable that has a value. -/
def Slot.ofValue (v : Value) : Slot := ⟨some v, false⟩

structure Scope where
  parent : Option Nat
  slots : List (String × Slot)
  deriving Inhabited

/-- A call that is under way. -/
structure Activation where
  /-- The function that was called; none for a script. -/
  callee : Option Ref
  /-- The script that the code stands in; none for a function of the engine. -/
  file : Option String
  /-- The place that the code has come to. -/
  spot : Spot
  /-- The innermost scope of the code. -/
  scope : Nat
  deriving Inhabited

/-- How much a script may use. -/
structure Budget where
  /-- Bytes that the objects of the scripts may take. -/
  heap : Option Nat
  /-- Calls that may be nested. -/
  calls : Nat
  /-- Whether the stack is too small for any evaluation. -/
  noRoom : Bool
  /-- Whether there is no room for the callbacks. -/
  noSurface : Bool
  deriving Inhabited

/-- Where the things of an engine lie in memory. -/
structure Layout where
  object : Ref → Nat
  symbol : Nat → Nat
  deriving Inhabited

/-- Everything that scripts can change. -/
structure Heap where
  objects : Array Object
  scopes : Array Scope
  /-- The value of the expression statement that ran last. -/
  completion : Value
  symbols : Nat
  used : Nat
  budget : Budget
  layout : Layout
  /-- The calls under way, innermost first. -/
  calls : List Activation := []
  /-- How many calls are under way. -/
  depth : Nat := 0
  /-- A panic of a callback that waits for the next exception to leave the engine. -/
  kept : Option Payload := none
  deriving Inhabited

/-! ## The objects that always exist -/

def globalRef : Ref := 0

def objectProto : Ref := 1

def functionProto : Ref := 2

def arrayProto : Ref := 3

def textProto : Ref := 4

def numberProto : Ref := 5

def boolProto : Ref := 6

def symbolProto : Ref := 7

def promiseProto : Ref := 8

def ErrorKind.proto : ErrorKind → Ref
  | .general => 9
  | .type => 10
  | .range => 11
  | .form => 12
  | .reference => 13
  | .internal => 14

/-- How many objects exist before any function does. -/
def bareCount : Nat := 15

/-- Every scope ends in this one, which holds the names that scripts declare outside functions. -/
def globalScope : Nat := 0

/-- The key under which an object says what it is. -/
def tagKey : Key := .symbol 0 "Symbol.toStringTag"

end DecBridge.Script
