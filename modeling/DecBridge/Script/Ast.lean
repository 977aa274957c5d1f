import DecBridge.Script.Key
import DecBridge.Script.Token

/-!
# Scripts as trees

Expressions, statements, functions and classes. Every function, block and script carries the names
that it declares, so that they exist before its first statement runs. What can fail or call carries
the place that a trace of calls shows for it.
-/

namespace DecBridge.Script

inductive UnaryOp where
  | neg | plus | not | complement | typeOf | void
  deriving DecidableEq, Inhabited

inductive BinaryOp where
  | add | sub | mul | div | rem | pow
  | shiftLeft | shiftRight | shiftRightZero | bitAnd | bitOr | bitXor
  | less | greater | lessEq | greaterEq
  | same | notSame | equal | notEqual
  | instanceOf | isIn
  deriving DecidableEq, Inhabited

inductive LogicalOp where
  | and | or | coalesce
  deriving DecidableEq, Inhabited

/-- What an assignment does with the old value: nothing, an operation with it, or a choice by it. -/
inductive AssignOp where
  | plain
  | combine (op : BinaryOp)
  | choose (op : LogicalOp)
  deriving DecidableEq, Inhabited

/-- How a function may be called and what it sees. -/
inductive FuncKind where
  | plain
  | arrow
  | method
  deriving DecidableEq, Inhabited

/-- The facts of a function that are known when it is read. -/
structure FuncInfo where
  name : String
  params : List String
  kind : FuncKind
  isAsync : Bool
  strict : Bool
  /-- Whether the body can refer to the function by its name. -/
  bindsSelf : Bool
  /-- Whether the body refers to its arguments as a whole. -/
  usesArguments : Bool
  source : String
  /-- The name of the script in traces. -/
  file : String
  deriving Inhabited

/-- A name that belongs to a block. -/
structure BlockName where
  name : String
  constant : Bool
  deriving Inhabited

/-- What an entry of an object or a class defines. -/
inductive FieldKind where
  | value
  | getter
  | setter
  deriving DecidableEq, Inhabited

/-- The name of the function of an entry that goes by a label. -/
def FieldKind.functionName (kind : FieldKind) (label : String) : String :=
  match kind with
  | .value => label
  | .getter => "get " ++ label
  | .setter => "set " ++ label

mutual

inductive Expr where
  | number (x : Number)
  | text (units : List Unit16)
  | name (x : String) (spot : Spot)
  | this
  | null
  | bool (b : Bool)
  | array (items : List (Option Expr))
  | object (fields : List (FieldKind × Expr × Expr))
  | func (f : Func)
  | cls (c : Class)
  | member (target : Expr) (key : Key) (spot : Spot)
  | index (target key : Expr) (spot : Spot)
  | superMember (key : Expr)
  | call (callee : Expr) (args : List Expr) (spot : Spot)
  | construct (callee : Expr) (args : List Expr) (spot : Spot)
  | superCall (args : List Expr) (spot : Spot)
  | unary (op : UnaryOp) (e : Expr)
  | delete (e : Expr)
  | update (increase before : Bool) (target : Expr)
  | binary (op : BinaryOp) (left right : Expr)
  | logical (op : LogicalOp) (left right : Expr)
  | cond (test yes no : Expr)
  | assign (op : AssignOp) (target value : Expr)
  | seq (first second : Expr)
  | await (e : Expr)

inductive Stmt where
  | empty
  | expr (e : Expr)
  | declareVar (bindings : List (String × Option Expr))
  | declareLet (bindings : List (String × Option Expr))
  | declareClass (name : String) (c : Class)
  | ifElse (test : Expr) (yes : Stmt) (no : Option Stmt)
  | whileDo (test : Expr) (body : Stmt)
  | doWhile (body : Stmt) (test : Expr)
  | forLoop (names : List BlockName) (start : Stmt) (test step : Option Expr) (body : Stmt)
  | block (b : Block)
  | labelled (label : String) (s : Stmt)
  | ret (e : Option Expr)
  | throw (e : Expr)
  | tryCatch (body : Block) (param : Option String) (handler : Option Block) (final : Option Block)
  | brk (label : Option String)
  | cont (label : Option String)

inductive Block where
  | mk (names : List BlockName) (funcs : List (String × Func)) (body : List Stmt)

/-- A function: what is known of it, the names of its variables, and its body. -/
inductive Func where
  | mk (info : FuncInfo) (vars : List String) (body : Block)

/-- A class; each method says whether it belongs to the class itself. -/
inductive Class where
  | mk (name source : String) (parent : Option Expr) (init : Option Func)
      (methods : List (Bool × FieldKind × Expr × Func))

end

instance : Inhabited Expr := ⟨.null⟩

instance : Inhabited Stmt := ⟨.empty⟩

def Func.info : Func → FuncInfo
  | .mk info _ _ => info

/-- How a script declares a name of the global scope. -/
inductive GlobalForm where
  | lexical
  | variable
  | function
  deriving DecidableEq, Inhabited

/-- A whole script: the global names that it declares in the order of the text, and its statements
with the names of its outermost block. -/
structure Program where
  globals : List (String × GlobalForm)
  body : Block

/-- The same function under a name, if it has none. -/
def Func.named (x : String) : Func → Func
  | .mk info vars body => .mk (if info.name.isEmpty then { info with name := x } else info) vars body

/-- The same expression under a name, if it is a function or class without one. -/
def Expr.named (x : String) : Expr → Expr
  | .func f => .func (f.named x)
  | .cls (.mk own source parent init methods) =>
    .cls (.mk (if own.isEmpty then x else own) source parent init methods)
  | e => e

end DecBridge.Script
