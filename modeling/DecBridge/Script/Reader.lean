import DecBridge.Script.Ast

/-!
# Reading a script: state and names

The state of the reader: the tokens ahead, what kind of code it stands in, and the names declared so
far in each enclosing block. A declaration that clashes with an earlier one is refused where it
stands.

Reading is open recursion over `Goal`: each rule of the grammar asks for smaller goals through a
`Rules` record, and the fuel that ties the knot is spent once per goal.
-/

namespace DecBridge.Script

/-- The names declared so far in a block. -/
structure Declared where
  /-- Whether the block is the outermost one of a function or of the script. -/
  outermost : Bool := false
  /-- The parameters, for the outermost block of a function. -/
  params : List String := []
  /-- The name under which the block finds what was caught. -/
  caught : Option String := none
  names : List BlockName := []
  funcs : List (String × Func) := []
  /-- The variables of the function that were first declared in this block or inside it. -/
  inside : List String := []
  deriving Inhabited

/-- What a jump can leave: a loop, or a statement that only its label names. -/
structure Target where
  isLoop : Bool
  label : Option String

/-- The kind of code that the reader stands in. -/
structure Context where
  /-- The name of the script in traces. -/
  file : String
  inFunction : Bool := false
  inAsync : Bool := false
  strict : Bool
  superMember : Bool := false
  superCall : Bool := false
  /-- The loops and labels around, innermost first. -/
  targets : List Target := []
  /-- Whether the code refers to the arguments of its function as a whole. -/
  usesArguments : Bool := false

/-- The state of the reader; the first token is the current one. -/
structure Reader where
  ahead : List Token
  lastStop : Nat
  source : Array Char
  context : Context
  blocks : List Declared
  /-- The variables of the enclosing function. -/
  vars : List String
  /-- The global names declared so far, last first. -/
  globals : List (String × GlobalForm)
  /-- The place of the name that was read last. -/
  spot : Spot
  /-- How deep the goals being read are nested, by their weights. -/
  depth : Nat := 0

/-- What is wrong with a script, and where. -/
structure Fault where
  message : String
  spot : Spot
  /-- Whether nothing is wrong but how deep the script is nested. -/
  nesting : Bool := false
  deriving Inhabited

/-- A reading action. -/
abbrev Read := StateT Reader (Except Fault)

/-- Whether a power may follow an operand: no, yes, or not without parentheses. -/
inductive PowerRule where
  | none
  | allowed
  | refused
  deriving DecidableEq

/-- What can be read; lists carry what was read of them before, last first. -/
inductive Goal : Type → Type where
  | assignment : Goal Expr
  | expression : Goal Expr
  | unary (powers : PowerRule) : Goal Expr
  | operand (level : Nat) : Goal Expr
  | operators (level : Nat) (left : Expr) : Goal Expr
  | coalesced (left : Expr) : Goal Expr
  | reference (calls : Bool) : Goal Expr
  | suffixes (calls : Bool) (e : Expr) : Goal Expr
  | arguments (before : List Expr) : Goal (List Expr)
  | items (before : List (Option Expr)) : Goal (List (Option Expr))
  | fields (before : List (FieldKind × Expr × Expr)) : Goal (List (FieldKind × Expr × Expr))
  | bindings (constant isVar : Bool) (before : List (String × Option Expr)) :
      Goal (List (String × Option Expr))
  | params (before : List String) : Goal (List String)
  | methods (derived : Bool) (init : Option Func) (before : List (Bool × FieldKind × Expr × Func)) :
      Goal (Option Func × List (Bool × FieldKind × Expr × Func))
  | statement (alone : Bool) : Goal Stmt
  | statements (before : List Stmt) : Goal (List Stmt)

/-- The rules for all goals, as one rule sees them. -/
structure Rules where
  read : {α : Type} → Goal α → Read α

namespace Read

def endToken : Token := ⟨.done, "", 0, 0, ⟨1, 0⟩, false, none⟩

/-- Fails at a place. -/
def failAt {α : Type} (spot : Spot) (message : String) : Read α := fun _ => .error ⟨message, spot, false⟩

/-- The current token. -/
def current : Read Token := do return (← get).ahead.headD endToken

/-- Fails at the current token. -/
def fail {α : Type} (message : String) : Read α := do failAt (← current).spot message

/-- The token after the current one. -/
def following : Read Token := do return (← get).ahead.tail.headD endToken

/-- What is wrong with a token as such. -/
def tokenFault? (strict : Bool) (t : Token) : Option String :=
  match (if strict then t.strictFault else none), t.lexeme with
  | some message, _ => some message
  | none, .bad message => some message
  | none, _ => none

/-- Moves to the next token, which must be a good one. -/
def advance : Read Unit := do
  let r ← get
  let stop := (r.ahead.headD endToken).stop
  match r.ahead.tail with
  | [] => set { r with lastStop := stop }
  | t :: rest =>
    match tokenFault? r.context.strict t with
    | some message => failAt t.spot message
    | none => set { r with ahead := t :: rest, lastStop := stop }

def isMark (t : Token) (m : String) : Bool :=
  match t.lexeme with
  | .mark x => x == m
  | _ => false

def isWord (t : Token) (w : String) : Bool :=
  match t.lexeme with
  | .name x => x == w
  | _ => false

def isDone (t : Token) : Bool :=
  match t.lexeme with
  | .done => true
  | _ => false

def atMark (m : String) : Read Bool := do return isMark (← current) m

def atWord (w : String) : Read Bool := do return isWord (← current) w

/-- Takes the mark if it is there. -/
def tryMark (m : String) : Read Bool := do
  if ← atMark m then
    advance
    return true
  else return false

/-! ## Reserved words -/

def reservedWords : List String :=
  ["break", "case", "catch", "class", "const", "continue", "debugger", "default", "delete", "do",
   "else", "enum", "export", "extends", "false", "finally", "for", "function", "if", "import", "in",
   "instanceof", "new", "null", "return", "super", "switch", "this", "throw", "true", "try", "typeof",
   "var", "void", "while", "with"]

/-- Words that are reserved in strict code only. -/
def strictWords : List String :=
  ["implements", "interface", "let", "package", "private", "protected", "public", "static", "yield"]

def isReserved (c : Context) (x : String) : Bool :=
  reservedWords.contains x || (c.strict && strictWords.contains x) || (c.inAsync && x == "await")

/-- A name that is not a reserved word. -/
def plainName? (t : Token) : Read (Option String) := do
  match t.lexeme with
  | .name x => return if isReserved (← get).context x then none else some x
  | _ => return none

/-! ## What is not there -/

/-- The message for a token that stands where another one must. -/
def misplaced (c : Context) (t : Token) : String :=
  match t.lexeme with
  | .done => "Unexpected end of input"
  | .number _ => "Unexpected number"
  | .text _ => "Unexpected string"
  | .name x =>
    if isReserved c x then "Unexpected token '" ++ x ++ "'"
    else "Unexpected identifier '" ++ shownName x ++ "'"
  | _ => "Unexpected token '" ++ t.text ++ "'"

/-- Takes the mark, which must be there. -/
def expectMark (m : String) : Read Unit := do
  if !(← tryMark m) then fail (misplaced (← get).context (← current))

/-- Takes the word, which must be there. -/
def expectWord (w : String) : Read Unit := do
  if ← atWord w then advance else fail (misplaced (← get).context (← current))

/-- Ends a statement: by a semicolon, a closing brace, a new line or the end of the script. -/
def expectEnd : Read Unit := do
  if ← tryMark ";" then return
  let t ← current
  if !(isDone t || isMark t "\x7d" || t.afterNewline) then fail "expecting ';'"

def unexpected {α : Type} : Read α := do
  fail ("unexpected token in expression: '" ++ (← current).text ++ "'")

/-- The source from a token up to the last one taken. -/
def sourceFrom (start : Nat) : Read String := do
  let r ← get
  return String.ofList (r.source.extract start r.lastStop).toList

/-- Remembers a place as the last one that traces can show. -/
def mark (spot : Spot) : Read Unit := modify fun r => { r with spot }

/-! ## Code inside code -/

/-- How deep goals can be nested, by their weights. -/
def depthLimit : Nat := 1048576

/-- Reads a goal of some weight inside the others. -/
def nested {α : Type} (weight : Nat) (x : Read α) : Read α := do
  let outer := (← get).depth
  if outer + weight > depthLimit then
    let spot := (← current).spot
    throw ⟨"", spot, true⟩
  modify fun r => { r with depth := outer + weight }
  let a ← x
  modify fun r => { r with depth := outer }
  return a

def context : Read Context := do return (← get).context

/-- Reads a statement that a jump can leave. -/
def inTarget {α : Type} (target : Target) (x : Read α) : Read α := do
  let outer := (← get).context.targets
  modify fun r => { r with context := { r.context with targets := target :: outer } }
  let a ← x
  modify fun r => { r with context := { r.context with targets := outer } }
  return a

/-! ## Declaring names -/

/-- The blocks from the innermost one up to the outermost one of the function. -/
def untilOutermost : List Declared → List Declared
  | [] => []
  | b :: bs => if b.outermost then [b] else b :: untilOutermost bs

def modifyInnermost (f : Declared → Declared) : Read Unit :=
  modify fun r => { r with blocks := match r.blocks with
    | [] => []
    | b :: bs => f b :: bs }

/-- Changes all blocks from the innermost one up to the outermost one of the function. -/
def modifyEnclosing (f : Declared → Declared) : List Declared → List Declared
  | [] => []
  | b :: bs => if b.outermost then f b :: bs else f b :: modifyEnclosing f bs

/-- Names that strict code cannot declare. -/
def isProtected (x : String) : Bool := x == "arguments" || x == "eval"

def clashWithName : String := "invalid redefinition of lexical identifier"

/-- Refuses a name that strict code cannot declare. -/
def checkName (x : String) : Read Unit := do
  if (← context).strict && isProtected x then fail "invalid variable name in strict mode"

/-- Notes that a variable is declared in the innermost block. -/
def noteVariable (x : String) : Read Unit :=
  modify fun r =>
    { r with blocks := modifyEnclosing (fun b => { b with inside := x :: b.inside }) r.blocks }

/-- Adds a global name; its first declaration decides where it belongs. -/
def addGlobal (x : String) (form : GlobalForm) : Read Unit := do
  if !((← get).globals.any fun g => g.1 == x) then noteVariable x
  modify fun r => { r with globals := (x, form) :: r.globals }

/-- Adds a variable of the enclosing function, or of the script. -/
def addVariable (x : String) : Read Unit := do
  let r ← get
  let enclosing := untilOutermost r.blocks
  if enclosing.any fun b => b.names.any fun n => n.name == x then fail clashWithName
  if !r.context.inFunction then addGlobal x .variable
  else if !(r.vars.contains x || enclosing.any fun b => b.params.contains x) then
    noteVariable x
    modify fun r => { r with vars := x :: r.vars }

/-- Declares a variable. -/
def declareVar (x : String) : Read Unit := do
  checkName x
  addVariable x

/-- Declares a name of the innermost block. -/
def declareName (x : String) (constant isFunction : Bool) : Read Unit := do
  let r ← get
  match r.blocks with
  | [] => return
  | b :: _ =>
    let again := b.names.any fun n => n.name == x
    let merges := isFunction && !r.context.strict && b.funcs.any fun f => f.1 == x
    if (again && !merges) || b.caught == some x then fail clashWithName
    if !isFunction && b.params.contains x then fail "invalid redefinition of parameter name"
    if b.inside.contains x then
      fail (if r.context.inFunction then "invalid redefinition of a variable"
            else "invalid redefinition of global identifier")
    if b.outermost && !r.context.inFunction then
      if x == "undefined" then fail "'undefined' already declared"
      modify fun r => { r with globals := (x, .lexical) :: r.globals }
    if !again then modifyInnermost fun b => { b with names := b.names ++ [⟨x, constant⟩] }

/-- Adds the function that a declaration in the innermost block makes. -/
def addFunction (x : String) (f : Func) : Read Unit :=
  modifyInnermost fun b => { b with funcs := b.funcs ++ [(x, f)] }

/-- Whether the innermost block is the outermost one of its function. -/
def atOutermost : Read Bool := do return ((← get).blocks.head?.map Declared.outermost).getD false

/-- Reads inside a new block and yields the names declared there with what was read. -/
def inBlock {α : Type} (fresh : Declared) (inner : Read α) : Read (Declared × α) := do
  modify fun r => { r with blocks := fresh :: r.blocks }
  let a ← inner
  let r ← get
  match r.blocks with
  | [] => return (fresh, a)
  | b :: bs =>
    set { r with blocks := bs }
    return (b, a)

end Read

end DecBridge.Script
