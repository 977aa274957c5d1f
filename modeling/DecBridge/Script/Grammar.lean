import DecBridge.Script.Reader

/-!
# The grammar of scripts

One rule per goal. A rule looks at the current token and asks for smaller goals; the first thing
that does not fit ends the reading with the message of a syntax error.
-/

namespace DecBridge.Script

open Read

/-! ## Operators -/

/-- Binary operators by binding strength. -/
def binaryOperators : List (String × Nat × BinaryOp) :=
  [("|", 4, .bitOr), ("^", 5, .bitXor), ("&", 6, .bitAnd),
   ("==", 7, .equal), ("!=", 7, .notEqual), ("===", 7, .same), ("!==", 7, .notSame),
   ("<", 8, .less), (">", 8, .greater), ("<=", 8, .lessEq), (">=", 8, .greaterEq),
   ("<<", 9, .shiftLeft), (">>", 9, .shiftRight), (">>>", 9, .shiftRightZero),
   ("+", 10, .add), ("-", 10, .sub), ("*", 11, .mul), ("/", 11, .div), ("%", 11, .rem)]

/-- The weakest operator that is not logical. -/
def firstBinary : Nat := 4

/-- The weakest operator of all but the one that replaces missing values. -/
def firstOperator : Nat := 2

/-- An operator. -/
inductive Operator where
  | binary (op : BinaryOp)
  | logical (op : LogicalOp)

/-- The operator that a token is, with its strength. -/
def operator? (t : Token) : Option (Nat × Operator) :=
  match t.lexeme with
  | .mark "||" => some (2, .logical .or)
  | .mark "&&" => some (3, .logical .and)
  | .mark m => (binaryOperators.lookup m).map fun (level, op) => (level, .binary op)
  | .name "instanceof" => some (8, .binary .instanceOf)
  | .name "in" => some (8, .binary .isIn)
  | _ => none

def Operator.apply (left right : Expr) : Operator → Expr
  | .binary op => .binary op left right
  | .logical op => .logical op left right

def Operator.isLogical : Operator → Bool
  | .logical _ => true
  | .binary _ => false

def assignmentOperators : List (String × AssignOp) :=
  [("=", .plain), ("+=", .combine .add), ("-=", .combine .sub), ("*=", .combine .mul),
   ("/=", .combine .div), ("%=", .combine .rem), ("**=", .combine .pow),
   ("<<=", .combine .shiftLeft), (">>=", .combine .shiftRight), (">>>=", .combine .shiftRightZero),
   ("&=", .combine .bitAnd), ("|=", .combine .bitOr), ("^=", .combine .bitXor),
   ("&&=", .choose .and), ("||=", .choose .or), ("??=", .choose .coalesce)]

/-- The assignment that a token stands for. -/
def assignment? (t : Token) : Option AssignOp :=
  match t.lexeme with
  | .mark m => assignmentOperators.lookup m
  | _ => none

def unaryOperators : List (String × UnaryOp) :=
  [("-", .neg), ("+", .plus), ("!", .not), ("~", .complement), ("typeof", .typeOf), ("void", .void)]

/-- Refuses what cannot be assigned to. -/
def checkTarget (message : String) : Expr → Read Unit
  | .name x _ => do
    if (← context).strict && isProtected x then fail "invalid lvalue in strict mode"
  | .member _ _ _ | .index _ _ _ => return
  | _ => fail message

/-! ## Functions -/

/-- The token after the bracket that closes the one at the front. -/
def afterClosing : Nat → List Token → Token
  | _, [] => endToken
  | depth, t :: rest =>
    if isMark t "(" || isMark t "[" || isMark t "\x7b" then afterClosing (depth + 1) rest
    else if isMark t ")" || isMark t "]" || isMark t "\x7d" then
      match depth with
      | 0 => endToken
      | 1 => rest.headD endToken
      | d + 2 => afterClosing (d + 1) rest
    else afterClosing depth rest

/-- Whether a token is an arrow in the line of the token before it. -/
def isArrow (t : Token) : Bool := isMark t "=>" && !t.afterNewline

/-- Whether an arrow function starts at these tokens. -/
def startsArrow (ahead : List Token) : Read Bool := do
  match ahead with
  | [] => return false
  | t :: rest =>
    if isMark t "(" then return isArrow (afterClosing 0 ahead)
    else return (← plainName? t).isSome && isArrow (rest.headD endToken)

/-- How a function is written down. -/
structure FuncForm where
  kind : FuncKind
  isAsync : Bool
  bindsSelf : Bool := false
  superMember : Bool := false
  superCall : Bool := false

def FuncForm.method : FuncForm := { kind := .method, isAsync := false, superMember := true }

/-- The kind of code that the body of a function is. -/
def FuncForm.context (form : FuncForm) (outer : Context) : Context :=
  let isArrow := form.kind == .arrow
  { outer with
    inFunction := true
    inAsync := form.isAsync
    targets := []
    usesArguments := false
    superMember := form.superMember || (isArrow && outer.superMember)
    superCall := form.superCall || (isArrow && outer.superCall) }

/-- Whether a token can start a statement after a text that stands alone in the line before. -/
def startsAfresh (t : Token) : Bool :=
  match t.lexeme with
  | .number _ | .text _ | .name _ => t.afterNewline
  | .mark m => t.afterNewline && (m == "++" || m == "--")
  | _ => false

/-- Whether code that starts with these tokens declares itself strict: by one of the texts that
stand alone at its front. -/
def declaresStrict : List Token → Bool
  | t :: next :: rest =>
    match t.lexeme with
    | .text _ =>
      let isStrict := t.text == "'use strict'" || t.text == "\"use strict\""
      if isMark next ";" then isStrict || declaresStrict rest
      else if isMark next "\x7d" || isDone next then isStrict
      else if startsAfresh next then isStrict || declaresStrict (next :: rest)
      else false
    | _ => false
  | _ => false
termination_by ts => ts.length

/-- Makes the code strict if it declares itself so. -/
def directives : Read Unit := do
  if declaresStrict (← get).ahead then
    modify fun r => { r with context := { r.context with strict := true } }

/-- Whether a name occurs twice. -/
def repeats : List String → Bool
  | [] => false
  | x :: xs => xs.contains x || repeats xs

/-- Refuses names of a function and of its parameters that its kind of code does not allow. -/
def checkFunctionNames (name : String) (params : List String) (kind : FuncKind) : Read Unit := do
  let strict := (← context).strict
  if strict && isProtected name then fail "invalid function name in strict code"
  if strict && params.any isProtected then fail "invalid argument name in strict code"
  if (strict || kind != .plain) && repeats params then
    fail "duplicate argument names not allowed in this context"

/-- Reads a function body in braces. -/
def functionBody (rules : Rules) (name : String) (params : List String) (kind : FuncKind) :
    Read Block := do
  expectMark "\x7b"
  directives
  checkFunctionNames name params kind
  let (declared, body) ← inBlock { outermost := true, params } (rules.read (.statements []))
  expectMark "\x7d"
  return .mk declared.names declared.funcs body

/-- Reads a function in code of its own; `parts` reads its parameters and its body. -/
def functionIn (start : Nat) (name : String) (form : FuncForm) (parts : Read (List String × Block)) :
    Read Func := do
  let outer ← get
  set { outer with context := form.context outer.context, vars := [] }
  let (params, body) ← nested 600 parts
  let inner ← get
  let source ← sourceFrom start
  let mentions := inner.context.usesArguments && form.kind == .arrow
  set { inner with
    vars := outer.vars
    context := { outer.context with usesArguments := outer.context.usesArguments || mentions } }
  let info : FuncInfo :=
    { name, params, kind := form.kind, isAsync := form.isAsync, strict := inner.context.strict
      bindsSelf := form.bindsSelf, usesArguments := inner.context.usesArguments, source
      file := outer.context.file }
  return .mk info inner.vars.reverse body

/-- Reads parameters and body of a function. -/
def functionRest (rules : Rules) (start : Nat) (name : String) (form : FuncForm) : Read Func :=
  functionIn start name form do
    expectMark "("
    let params ← rules.read (.params [])
    expectMark ")"
    return (params, ← functionBody rules name params form.kind)

/-- Reads an arrow function. -/
def arrowFunction (rules : Rules) (start : Nat) (isAsync : Bool) : Read Expr := do
  let f ← functionIn start "" { kind := .arrow, isAsync } do
    let params ← (do
      match ← plainName? (← current) with
      | some x =>
        advance
        return [x]
      | none =>
        expectMark "("
        let params ← rules.read (.params [])
        expectMark ")"
        return params)
    expectMark "=>"
    if ← atMark "\x7b" then return (params, ← functionBody rules "" params .arrow)
    else
      checkFunctionNames "" params .arrow
      return (params, .mk [] [] [.ret (some (← rules.read .assignment))])
  return .func f

/-- Reads a function expression from its first word on. -/
def functionExpression (rules : Rules) (start : Nat) (isAsync : Bool) : Read Expr := do
  advance
  match ← plainName? (← current) with
  | some x =>
    advance
    return .func (← functionRest rules start x { kind := .plain, isAsync, bindsSelf := true })
  | none => return .func (← functionRest rules start "" { kind := .plain, isAsync })

/-! ## Entries of objects and classes -/

/-- What stands before the colon or the parameters of an entry. -/
structure EntryHead where
  kind : FieldKind
  isAsync : Bool
  key : Expr
  /-- The name that a function gets as the value of the entry. -/
  label : String
  /-- Whether the key is a word that can stand for a variable. -/
  plain : Bool

/-- The text of a number as a key. -/
def numberLabel (x : Number) : String := Decimal.write
  { least := -5, greatest := 21, pointZero := false, plus := true, signedZero := false
    infinity := "Infinity" } x.value

/-- The key of an entry: a word, a text, a number, or an expression in brackets. -/
def entryKey (rules : Rules) (kind : FieldKind) (isAsync : Bool) : Read EntryHead := do
  let t ← current
  match t.lexeme with
  | .name x =>
    let plain := (← plainName? t).isSome && kind == .value && !isAsync
    advance
    return ⟨kind, isAsync, .text (x.toList.flatMap unitsOfChar), x, plain⟩
  | .text us =>
    advance
    return ⟨kind, isAsync, .text us, (Str.ofUnits us).toLossy, false⟩
  | .number x =>
    advance
    return ⟨kind, isAsync, .number x, numberLabel x, false⟩
  | .mark "[" =>
    advance
    let e ← rules.read .expression
    expectMark "]"
    return ⟨kind, isAsync, e, "", false⟩
  | _ => fail "invalid property name"

/-- Whether a token ends the key of an entry. -/
def endsKey (t : Token) : Bool := [":", ",", "\x7d", "(", "="].any (isMark t)

/-- The head of an entry, with the words that may stand before its key. -/
def entryHead (rules : Rules) : Read EntryHead := do
  let t ← current
  let next ← following
  if (isWord t "get" || isWord t "set") && !endsKey next then
    advance
    entryKey rules (if isWord t "get" then .getter else .setter) false
  else if isWord t "async" && !next.afterNewline && !endsKey next then
    advance
    entryKey rules .value true
  else entryKey rules .value false

/-- Refuses accessors with the wrong number of parameters. -/
def checkAccessor (kind : FieldKind) (f : Func) : Read Unit := do
  let wrong := match kind with
    | .value => false
    | .getter => f.info.params.length != 0
    | .setter => f.info.params.length != 1
  if wrong then fail "invalid number of arguments for getter or setter"

/-- The name of the function of an entry; with a computed key it is not known yet. -/
def EntryHead.functionName (e : EntryHead) : String :=
  if e.label.isEmpty then "" else e.kind.functionName e.label

/-- Reads the function of an entry. -/
def entryFunction (rules : Rules) (start : Nat) (e : EntryHead) (form : FuncForm) : Read Func := do
  let f ← functionRest rules start e.functionName { form with isAsync := e.isAsync }
  checkAccessor e.kind f
  return f

def fieldsRule (rules : Rules) (before : List (FieldKind × Expr × Expr)) :
    Read (List (FieldKind × Expr × Expr)) := do
  if ← atMark "\x7d" then return before.reverse
  let t ← current
  let e ← entryHead rules
  let value ← (do
    if ← atMark "(" then return .func (← entryFunction rules t.start e .method)
    else if e.kind != .value || e.isAsync then
      expectMark "("
      return .null
    else if e.plain && !(← atMark ":") then
      if e.label == "arguments" then
        modify fun r => { r with context := { r.context with usesArguments := true } }
      return .name e.label t.spot
    else
      expectMark ":"
      return (← rules.read .assignment).named e.label)
  let entry := (e.kind, e.key, value)
  if ← tryMark "," then rules.read (.fields (entry :: before)) else return (entry :: before).reverse

def methodsRule (rules : Rules) (derived : Bool) (init : Option Func)
    (before : List (Bool × FieldKind × Expr × Func)) :
    Read (Option Func × List (Bool × FieldKind × Expr × Func)) := do
  if ← atMark "\x7d" then return (init, before.reverse)
  if ← tryMark ";" then rules.read (.methods derived init before)
  else
    let next ← following
    let isStatic := (← atWord "static") && !([";", "\x7d", "(", "="].any (isMark next))
    if isStatic then advance
    let t ← current
    let e ← entryHead rules
    let isInit := !isStatic && e.label == "constructor"
    if (isInit && (e.kind != .value || e.isAsync)) || (isStatic && e.label == "prototype") then
      fail "invalid method name"
    if isInit && init.isSome then fail "property constructor appears more than once"
    let f ← entryFunction rules t.start e { FuncForm.method with superCall := isInit && derived }
    if isInit then rules.read (.methods derived (some f) before)
    else rules.read (.methods derived init ((isStatic, e.kind, e.key, f) :: before))

/-- Reads a class after its name, in strict code. -/
def classRest (rules : Rules) (start : Nat) (x : String) : Read Class := do
  let parent ← (do
    if ← atWord "extends" then
      advance
      return some (← rules.read (.reference true))
    else return none)
  expectMark "\x7b"
  let (init, methods) ← rules.read (.methods parent.isSome none [])
  expectMark "\x7d"
  return .mk x (← sourceFrom start) parent init methods

/-- Reads a class from its first word on, and its name if it has one. -/
def classWhole (rules : Rules) (needsName : Bool) : Read (String × Class) := do
  let start := (← current).start
  let strict := (← context).strict
  modify fun r => { r with context := { r.context with strict := true } }
  advance
  let x ← (do
    match ← plainName? (← current) with
    | some x =>
      advance
      return x
    | none => if needsName then fail "class statement requires a name" else return "")
  let c ← classRest rules start x
  modify fun r => { r with context := { r.context with strict } }
  return (x, c)

/-! ## Expressions -/

/-- Takes a name that stands for a variable. -/
def variableName (x : String) (spot : Spot) : Read Expr := do
  mark spot
  advance
  if x == "arguments" then
    modify fun r => { r with context := { r.context with usesArguments := true } }
  return .name x spot

/-- Reads what follows the word for the class above. -/
def superRule (rules : Rules) : Read Expr := do
  advance
  let c ← context
  if ← atMark "(" then
    if !c.superCall then fail "super() is only valid in a derived class constructor"
    advance
    let args ← rules.read (.arguments [])
    return .superCall args (← get).spot
  else if (← atMark ".") || (← atMark "[") then
    if !c.superMember then fail "'super' is only valid in a method"
    if ← tryMark "[" then
      let key ← rules.read .expression
      expectMark "]"
      return .superMember key
    else
      advance
      match (← current).lexeme with
      | .name x =>
        advance
        return .superMember (.text (x.toList.flatMap unitsOfChar))
      | _ => fail "expecting field name"
  else fail "invalid use of 'super'"

/-- An expression that starts with no operator. -/
def primary (rules : Rules) : Read Expr := do
  let t ← current
  match t.lexeme with
  | .number x => advance; return .number x
  | .text us => advance; return .text us
  | .mark "(" =>
    advance
    let e ← rules.read .expression
    expectMark ")"
    return e
  | .mark "[" =>
    advance
    let items ← rules.read (.items [])
    expectMark "]"
    return .array items
  | .mark "\x7b" =>
    advance
    let fields ← rules.read (.fields [])
    expectMark "\x7d"
    return .object fields
  | .name "this" => advance; return .this
  | .name "null" => advance; return .null
  | .name "true" => advance; return .bool true
  | .name "false" => advance; return .bool false
  | .name "function" => functionExpression rules t.start false
  | .name "class" => return .cls (← classWhole rules false).2
  | .name "super" => superRule rules
  | .name "new" =>
    advance
    let callee ← rules.read (.reference false)
    if ← tryMark "(" then
      let args ← rules.read (.arguments [])
      return .construct callee args (← get).spot
    else return .construct callee [] (← get).spot
  | _ =>
    match ← plainName? t with
    | some x =>
      let next ← following
      if x == "async" && isWord next "function" && !next.afterNewline then
        advance
        functionExpression rules t.start true
      else variableName x t.spot
    | none => unexpected

/-- Accesses and calls after an expression; without `calls`, a parenthesis is left alone. -/
def suffixRule (rules : Rules) (calls : Bool) (e : Expr) : Read Expr := do
  if ← tryMark "." then
    let t ← current
    match t.lexeme with
    | .name x =>
      mark t.spot
      advance
      rules.read (.suffixes calls (.member e (.name x) t.spot))
    | _ => fail "expecting field name"
  else if ← tryMark "[" then
    let key ← rules.read .expression
    expectMark "]"
    rules.read (.suffixes calls (.index e key (← get).spot))
  else if calls && (← atMark "(") then
    advance
    let args ← rules.read (.arguments [])
    rules.read (.suffixes calls (.call e args (← get).spot))
  else return e

/-- An operand with its accesses and calls, and a change by one behind it. -/
def postfixRule (rules : Rules) : Read Expr := do
  let e ← rules.read (.reference true)
  let t ← current
  if (isMark t "++" || isMark t "--") && !t.afterNewline then
    checkTarget "invalid increment/decrement operand" e
    advance
    return .update (isMark t "++") false e
  else return e

/-- Reads a power behind an operand. -/
def powerRule (rules : Rules) (powers : PowerRule) (e : Expr) : Read Expr := do
  if powers != .none && (← atMark "**") then
    if powers == .refused then
      fail "unparenthesized unary expression can't appear on the left-hand side of '**'"
    advance
    return .binary .pow e (← rules.read (.unary .allowed))
  else return e

/-- Reads what is to be deleted. -/
def deleteRule (rules : Rules) : Read Expr := do
  advance
  let e ← rules.read (.unary .refused)
  match e with
  | .name _ _ => if (← context).strict then fail "cannot delete a direct reference in strict mode"
  | _ => pure ()
  return .delete e

def unaryRule (rules : Rules) (powers : PowerRule) : Read Expr := do
  let t ← current
  let found := match t.lexeme with
    | .mark m => unaryOperators.lookup m
    | .name x => unaryOperators.lookup x
    | _ => none
  match found with
  | some op =>
    advance
    return .unary op (← rules.read (.unary .refused))
  | none =>
    if isMark t "++" || isMark t "--" then
      advance
      let e ← rules.read (.unary .none)
      checkTarget "invalid increment/decrement operand" e
      powerRule rules powers (.update (isMark t "++") true e)
    else if isWord t "delete" then deleteRule rules
    else if isWord t "await" && (← context).inAsync then
      advance
      return .await (← rules.read (.unary .refused))
    else powerRule rules powers (← postfixRule rules)

def operatorsRule (rules : Rules) (level : Nat) (left : Expr) : Read Expr := do
  match operator? (← current) with
  | some (strength, op) =>
    if strength < level then return left
    else
      advance
      let right ← rules.read (.operand (strength + 1))
      if op.isLogical && (← atMark "??") then fail "cannot mix ?? with && or ||"
      rules.read (.operators level (op.apply left right))
  | none => return left

/-- Reads the replacements for a missing value. -/
def coalescedRule (rules : Rules) (left : Expr) : Read Expr := do
  if ← tryMark "??" then
    let right ← rules.read (.operand firstBinary)
    rules.read (.coalesced (.logical .coalesce left right))
  else return left

/-- An expression without assignments at its top, and a choice behind it. -/
def conditional (rules : Rules) : Read Expr := do
  let left ← rules.read (.operand firstOperator)
  let test ← rules.read (.coalesced left)
  if ← tryMark "?" then
    let yes ← rules.read .assignment
    expectMark ":"
    return .cond test yes (← rules.read .assignment)
  else return test

def assignmentRule (rules : Rules) : Read Expr := do
  let t ← current
  let ahead := (← get).ahead
  let next ← following
  if ← startsArrow ahead then arrowFunction rules t.start false
  else if isWord t "async" && !next.afterNewline && (← startsArrow ahead.tail) then
    advance
    arrowFunction rules t.start true
  else
    let left ← conditional rules
    match assignment? (← current) with
    | none => return left
    | some op =>
      advance
      checkTarget "invalid assignment left-hand side" left
      let right ← rules.read .assignment
      match left, op, t.lexeme with
      | .name _ _, .combine _, _ => return .assign op left right
      | .name x _, _, .name _ => return .assign op left (right.named x)
      | _, _, _ => return .assign op left right

def expressionRule (rules : Rules) : Read Expr := do
  let e ← rules.read .assignment
  if ← tryMark "," then return .seq e (← rules.read .expression)
  else return e

/-- Arguments up to and with the closing parenthesis. -/
def argumentsRule (rules : Rules) (before : List Expr) : Read (List Expr) := do
  if ← tryMark ")" then return before.reverse
  let e ← rules.read .assignment
  if ← tryMark ")" then return (e :: before).reverse
  expectMark ","
  rules.read (.arguments (e :: before))

/-- Elements up to the closing bracket; nothing between two commas is a hole. -/
def itemsRule (rules : Rules) (before : List (Option Expr)) : Read (List (Option Expr)) := do
  if ← atMark "]" then return before.reverse
  if ← tryMark "," then rules.read (.items (none :: before))
  else
    let e ← rules.read .assignment
    if ← tryMark "," then rules.read (.items (some e :: before))
    else return (some e :: before).reverse

/-! ## Declarations -/

def bindingsRule (rules : Rules) (constant isVar : Bool) (before : List (String × Option Expr)) :
    Read (List (String × Option Expr)) := do
  match ← plainName? (← current) with
  | none => fail "variable name expected"
  | some x =>
    if x == "let" && !isVar then fail "'let' is not a valid lexical identifier"
    advance
    if isVar then declareVar x
    else
      checkName x
      declareName x constant false
    let value ← (do
      if ← tryMark "=" then return some ((← rules.read .assignment).named x)
      else if constant then fail "missing initializer for const variable"
      else return none)
    let bound := (x, value) :: before
    if ← tryMark "," then rules.read (.bindings constant isVar bound) else return bound.reverse

def paramsRule (rules : Rules) (before : List String) : Read (List String) := do
  if ← atMark ")" then return before.reverse
  match ← plainName? (← current) with
  | none => fail "missing formal parameter"
  | some x =>
    advance
    if ← atMark ")" then return (x :: before).reverse
    expectMark ","
    rules.read (.params (x :: before))

/-- A function declaration from its first word on. In the outermost block of a function it declares
a variable once it is read; in any other block it declares a name of that block before. -/
def functionDeclaration (rules : Rules) (start : Nat) (isAsync : Bool) : Read Stmt := do
  advance
  match ← plainName? (← current) with
  | none => fail "function name expected"
  | some x =>
    advance
    let outermost ← atOutermost
    if !outermost then declareName x false true
    let f ← functionRest rules start x { kind := .plain, isAsync }
    if outermost then
      if (← context).inFunction then addVariable x else addGlobal x .function
    addFunction x f
    return .empty

/-! ## Statements -/

/-- A block in braces. -/
def braces (rules : Rules) (fresh : Declared) : Read Block := do
  expectMark "\x7b"
  let (declared, body) ← inBlock fresh (rules.read (.statements []))
  expectMark "\x7d"
  return .mk declared.names declared.funcs body

/-- A condition in parentheses. -/
def condition (rules : Rules) : Read Expr := do
  expectMark "("
  let e ← rules.read .expression
  expectMark ")"
  return e

/-- Whether a semicolon stands directly inside the parenthesis at the front. -/
def hasSemicolon : Nat → List Token → Bool
  | _, [] => false
  | depth, t :: rest =>
    if isMark t "(" || isMark t "[" || isMark t "\x7b" then hasSemicolon (depth + 1) rest
    else if isMark t ")" || isMark t "]" || isMark t "\x7d" then depth > 1 && hasSemicolon (depth - 1) rest
    else (depth == 1 && isMark t ";") || hasSemicolon depth rest

/-- The head of a loop over a collection, which no script has. -/
def collectionLoop {α : Type} (rules : Rules) : Read α := do
  if (← atWord "var") || (← atWord "let") || (← atWord "const") then
    let constant ← atWord "const"
    let isVar ← atWord "var"
    advance
    match ← plainName? (← current) with
    | none => fail "variable name expected"
    | some x =>
      advance
      if isVar then declareVar x
      else
        checkName x
        declareName x constant false
  else
    let e ← rules.read (.reference true)
    checkTarget "invalid for in/of left hand-side" e
  if ← tryMark "=" then let _ ← rules.read .assignment
  fail "expected 'of' or 'in' in for control expression"

/-- The first part of the head of a loop. -/
def loopStart (rules : Rules) : Read Stmt := do
  if ← atMark ";" then return .empty
  else if ← atWord "var" then
    advance
    return .declareVar (← rules.read (.bindings false true []))
  else if (← atWord "let") || (← atWord "const") then
    let constant ← atWord "const"
    advance
    return .declareLet (← rules.read (.bindings constant false []))
  else return .expr (← rules.read .expression)

def forRule (rules : Rules) (label : Option String) : Read Stmt := do
  advance
  let counted := hasSemicolon 0 (← get).ahead
  expectMark "("
  let (declared, start, test, step, body) ← inBlock {} (do
    if !counted then collectionLoop rules
    let start ← loopStart rules
    expectMark ";"
    let test ← (do if ← atMark ";" then return none else return some (← rules.read .expression))
    expectMark ";"
    let step ← (do if ← atMark ")" then return none else return some (← rules.read .expression))
    expectMark ")"
    let body ← inTarget ⟨true, label⟩ (rules.read (.statement true))
    return (start, test, step, body))
  return .forLoop declared.names start test step body

/-- The handler of a statement that catches: the name of what it caught, and its block. -/
def handlerRule (rules : Rules) : Read (Option String × Block) := do
  advance
  if ← atMark "\x7b" then return (none, ← braces rules {})
  else
    expectMark "("
    match ← plainName? (← current) with
    | none => fail "identifier expected"
    | some x =>
      advance
      checkName x
      expectMark ")"
      return (some x, ← braces rules { caught := some x })

def tryRule (rules : Rules) : Read Stmt := do
  advance
  let body ← braces rules {}
  let handler ← (do if ← atWord "catch" then return some (← handlerRule rules) else return none)
  if handler.isNone && !(← atWord "finally") then fail "expecting catch or finally"
  let final ← (do
    if ← atWord "finally" then
      advance
      return some (← braces rules {})
    else return none)
  return .tryCatch body (handler.bind Prod.fst) (handler.map Prod.snd) final

/-- A statement that is neither a declaration nor a control statement. -/
def plainStatement (rules : Rules) : Read Stmt := do
  mark (← current).spot
  let e ← rules.read .expression
  expectEnd
  return .expr e

/-- Declared names that need a block of their own. -/
def declarationRule (rules : Rules) (alone constant : Bool) : Read Stmt := do
  if alone then fail "lexical declarations can't appear in single-statement context"
  advance
  let bs ← rules.read (.bindings constant false [])
  expectEnd
  return .declareLet bs

def returnRule (rules : Rules) : Read Stmt := do
  if !(← context).inFunction then fail "return not in a function"
  advance
  let t ← current
  if isMark t ";" || isMark t "\x7d" || t.afterNewline then
    expectEnd
    return .ret none
  else
    let e ← rules.read .expression
    expectEnd
    return .ret (some e)

/-- The target of a jump among those around it. -/
def hasTarget (isContinue : Bool) (label : Option String) (targets : List Target) : Bool :=
  targets.any fun t =>
    match label with
    | none => t.isLoop
    | some _ => t.label == label && (t.isLoop || !isContinue)

def jumpRule (isContinue : Bool) : Read Stmt := do
  advance
  let t ← current
  let label ← (do if t.afterNewline then return none else plainName? t)
  if !hasTarget isContinue label (← context).targets then
    fail (match label with
      | some _ => "break/continue label not found"
      | none => if isContinue then "continue must be inside loop" else "break must be inside loop or switch")
  if label.isSome then advance
  expectEnd
  return if isContinue then .cont label else .brk label

/-- The label at the front, if there is one. -/
def label? : Read (Option String) := do
  if isMark (← following) ":" then plainName? (← current) else return none

def isLoopWord (t : Token) : Bool := isWord t "for" || isWord t "do" || isWord t "while"

/-- A loop under a label. -/
def loopRule? (rules : Rules) (label : Option String) : Read (Option Stmt) := do
  let t ← current
  if isWord t "while" then
    advance
    let test ← condition rules
    return some (.whileDo test (← inTarget ⟨true, label⟩ (rules.read (.statement true))))
  else if isWord t "do" then
    advance
    let body ← inTarget ⟨true, label⟩ (rules.read (.statement true))
    expectWord "while"
    let test ← condition rules
    let _ ← tryMark ";"
    return some (.doWhile body test)
  else if isWord t "for" then return some (← forRule rules label)
  else return none

def ifRule (rules : Rules) : Read Stmt := do
  advance
  let test ← condition rules
  let yes ← rules.read (.statement true)
  if ← atWord "else" then
    advance
    return .ifElse test yes (some (← rules.read (.statement true)))
  else return .ifElse test yes none

/-- A statement without a label. -/
def unlabelled (rules : Rules) (alone : Bool) : Read Stmt := do
  let t ← current
  match t.lexeme with
  | .mark "\x7b" => return .block (← braces rules {})
  | .mark ";" => advance; return .empty
  | .name "var" =>
    advance
    let bs ← rules.read (.bindings false true [])
    expectEnd
    return .declareVar bs
  | .name "let" => declarationRule rules alone false
  | .name "const" => declarationRule rules alone true
  | .name "function" =>
    if alone then fail "function declarations can't appear in single-statement context"
    functionDeclaration rules t.start false
  | .name "class" =>
    if alone then fail "class declarations can't appear in single-statement context"
    let (x, c) ← classWhole rules true
    declareName x false false
    return .declareClass x c
  | .name "if" => ifRule rules
  | .name "return" => returnRule rules
  | .name "throw" =>
    advance
    if (← current).afterNewline then fail "line terminator not allowed after throw"
    let e ← rules.read .expression
    expectEnd
    return .throw e
  | .name "try" => tryRule rules
  | .name "break" => jumpRule false
  | .name "continue" => jumpRule true
  | .name "debugger" => advance; expectEnd; return .empty
  | .name "with" =>
    if (← context).strict then fail "invalid keyword: with" else plainStatement rules
  | .name "enum" | .name "export" | .name "extends" => fail ("unsupported keyword: " ++ t.text)
  | .name "async" =>
    let next ← following
    if isWord next "function" && !next.afterNewline then
      if alone then fail "function declarations can't appear in single-statement context"
      advance
      functionDeclaration rules t.start true
    else plainStatement rules
  | _ => plainStatement rules

def statementRule (rules : Rules) (alone : Bool) : Read Stmt := do
  match ← label? with
  | some x =>
    if (← context).targets.any fun t => t.label == some x then fail "duplicate label name"
    advance
    expectMark ":"
    if isLoopWord (← current) then
      match ← loopRule? rules (some x) with
      | some s => return .labelled x s
      | none => unexpected
    else return .labelled x (← inTarget ⟨false, some x⟩ (rules.read (.statement true)))
  | none =>
    match ← loopRule? rules none with
    | some s => return s
    | none => unlabelled rules alone

def statementsRule (rules : Rules) (before : List Stmt) : Read (List Stmt) := do
  let t ← current
  let isScript := (← get).blocks.length == 1
  if (if isScript then isDone t else isMark t "\x7d") then return before.reverse
  let s ← rules.read (.statement false)
  rules.read (.statements (s :: before))

/-! ## Tying the knot -/

/-- The rule of each goal. -/
def rule (rules : Rules) : {α : Type} → Goal α → Read α
  | _, .assignment => nested 1500 (assignmentRule rules)
  | _, .expression => expressionRule rules
  | _, .unary powers => nested 200 (unaryRule rules powers)
  | _, .operand level => do
    let left ← rules.read (.unary .allowed)
    rules.read (.operators level left)
  | _, .operators level left => operatorsRule rules level left
  | _, .coalesced left => coalescedRule rules left
  | _, .reference calls => do
    let e ← primary rules
    suffixRule rules calls e
  | _, .suffixes calls e => suffixRule rules calls e
  | _, .arguments before => argumentsRule rules before
  | _, .items before => itemsRule rules before
  | _, .fields before => fieldsRule rules before
  | _, .bindings constant isVar before => bindingsRule rules constant isVar before
  | _, .params before => paramsRule rules before
  | _, .methods derived init before => methodsRule rules derived init before
  | _, .statement alone => nested 400 (statementRule rules alone)
  | _, .statements before => statementsRule rules before

/-- Reads a goal with at most `fuel` rules nested in each other. -/
def readGoal : Nat → {α : Type} → Goal α → Read α
  | 0, _, _ => fail "stack overflow"
  | fuel + 1, _, goal => rule ⟨fun g => readGoal fuel g⟩ goal

/-- The state of the reader at the first token. -/
def Reader.start (source : List Char) (context : Context) : Reader :=
  { ahead := tokens source, lastStop := 0, source := source.toArray, context
    blocks := [{ outermost := true }], vars := [], globals := [], spot := ⟨1, 0⟩ }

/-- Reads all statements of a script. -/
def wholeScript (fuel : Nat) : Read (List Stmt) := do
  let t ← current
  match tokenFault? (← context).strict t with
  | some message => fail message
  | none =>
    directives
    readGoal fuel (.statements [])

/-- Reads a whole script, or says what is wrong with it. -/
def Program.read (source file : String) (strict : Bool) : Except Fault Program :=
  let reader := Reader.start source.toList { file, strict }
  match (wholeScript (8 * reader.ahead.length + 64)).run reader with
  | .error fault => .error fault
  | .ok (body, r) =>
    let declared := r.blocks.headD {}
    .ok ⟨r.globals.reverse, .mk declared.names declared.funcs body⟩

end DecBridge.Script
