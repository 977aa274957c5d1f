import DecBridge.Engine
import DecBridge.Text.Quoted
import DecBridge.Script.Evaluate

/-!
# The interpreter

An engine whose scripts are evaluated over a heap. How much room its parts take and where they lie in
memory is given from outside (`Sizes`, `Layout`), since nothing but error messages and the words for
thrown values depend on it.

`interpreter` puts the operations together, with the proofs that each of them keeps a panic of the
outside. Evaluations do by their type, so these are about the rest: a new heap keeps none, and nothing
is forgotten when the callbacks are installed.
-/

namespace DecBridge.Script

open Eval

open DecBridge.Engine (Failure)

/-! ## Limits -/

/-- How many bytes the parts of an engine take. -/
structure Sizes where
  /-- An engine before anything is installed. -/
  context : Nat
  /-- An engine once the callbacks are installed. -/
  surface : Nat
  /-- The stack of a nested call. -/
  call : Nat
  /-- The stack that calls may take when nothing else limits them. -/
  stack : Nat

/-- A ceiling that is set; zero means none. -/
def ceiling : Option Nat → Option Nat
  | some 0 | none => none
  | some n => some n

/-- Whether the memory ceiling leaves room for so many bytes. -/
def allows (limits : Limits) (bytes : Nat) : Bool :=
  match ceiling limits.memory with
  | some n => bytes ≤ n
  | none => true

/-- What scripts may use within the limits. -/
def Sizes.budget (sizes : Sizes) (limits : Limits) : Budget :=
  { heap := (ceiling limits.memory).map (· - sizes.surface)
    calls := match ceiling limits.stack with
      | some n => min sizes.stack n / sizes.call
      | none => sizes.stack / sizes.call
    noRoom := match ceiling limits.stack with
      | some n => n < 4 * sizes.call
      | none => false
    noSurface := !allows limits sizes.surface }

/-! ## The heap of a new engine -/

/-- Defines a property of an object that exists already. -/
def withProperty (h : Heap) (owner : Ref) (key : Key) (p : Property) : Heap :=
  { h with objects := h.objects.modify owner fun o => o.define key p }

/-- Adds a function object and sets it as a property of an object; `proto` is the prototype of what
it constructs. -/
def addNative (h : Heap) (owner : Ref) (f : Native) (proto : Option Ref) (enumerable : Bool) : Heap :=
  let r := h.objects.size
  let own := functionProps f.name f.params ++ match proto with
    | some p => [(prototypeKey, Property.fixed (.object p))]
    | none => []
  let h := { h with objects := h.objects.push ⟨some functionProto, .native f, own⟩ }
  let h := withProperty h owner (.name f.name) ⟨.value (.object r) true, enumerable, true⟩
  match proto with
  | some p => withProperty h p constructorKey (.hidden (.object r))
  | none => h

def errorKinds : List ErrorKind := [.general, .type, .range, .form, .reference, .internal]

/-- Prototypes and the global object, before any function exists. -/
def bareObjects : Array Object :=
  let inheriting (kind : Kind) : Object := ⟨some objectProto, kind, []⟩
  let error (kind : ErrorKind) : Object :=
    { proto := some (if kind == .general then objectProto else ErrorKind.general.proto)
      kind := .plain
      props := [(.name "name", .hidden (.ofString kind.name)), (.name "message", .hidden (.ofString ""))] }
  #[inheriting .plain, ⟨none, .plain, []⟩, inheriting (.native .nothing), inheriting (.array 0 #[]),
    inheriting (.boxed (.text Str.empty)), inheriting (.boxed (.ofNat 0)),
    inheriting (.boxed (.bool false)), inheriting .plain, inheriting .plain]
    ++ (errorKinds.map error).toArray

/-- The methods of the prototypes. -/
def standardMethods : List (Ref × Native) :=
  [(objectProto, .objectToString), (objectProto, .objectValueOf), (functionProto, .functionToString),
   (ErrorKind.general.proto, .errorToString), (arrayProto, .arrayToString), (arrayProto, .join),
   (arrayProto, .push), (arrayProto, .map), (arrayProto, .forEach), (arrayProto, .concat),
   (arrayProto, .fill), (textProto, .textSelf "toString"), (textProto, .textSelf "valueOf"),
   (textProto, .trim), (textProto, .repeated), (numberProto, .numberToString),
   (numberProto, .numberValueOf), (boolProto, .boolToString), (boolProto, .boolValueOf),
   (symbolProto, .symbolToString), (symbolProto, .symbolValueOf)]

/-- The constructors that the global object has. -/
def standardConstructors : List Native :=
  [.object, .function, .array, .text, .number, .bool, .symbol] ++ errorKinds.map Native.error

/-- The global values that never change. -/
def fixedGlobals : List (String × Value) :=
  [("undefined", .undefined), ("NaN", .number (.ofFloat notANumber)),
   ("Infinity", .number (.ofFloat (1.0 / 0.0)))]

/-- What objects say they are. -/
def standardTags : List (Ref × String) :=
  [(globalRef, "global"), (symbolProto, "Symbol"), (promiseProto, "Promise")]

/-- Adds an empty object to the global object under a name. -/
def addGlobalObject (h : Heap) (x : String) (enumerable : Bool) : Ref × Heap :=
  let r := h.objects.size
  let h := { h with objects := h.objects.push ⟨some objectProto, .plain, []⟩ }
  (r, withProperty h globalRef (.name x) ⟨.value (.object r) true, enumerable, true⟩)

/-- Adds functions as properties of objects. -/
def addNatives (h : Heap) (fs : List (Ref × Native)) (enumerable : Bool) : Heap :=
  fs.foldl (fun h (owner, f) => addNative h owner f none enumerable) h

/-- Adds the global values that never change. -/
def withFixedGlobals (h : Heap) : Heap :=
  fixedGlobals.foldl (fun h (x, v) => withProperty h globalRef (.name x) (.fixed v)) h

/-- Lets objects say what they are. -/
def withTags (h : Heap) : Heap :=
  standardTags.foldl (fun h (r, tag) => withProperty h r tagKey (.label (.ofString tag))) h

/-- Adds the constructors, and the function that one of them has of its own. -/
def withConstructors (h : Heap) : Heap :=
  let h := standardConstructors.foldl (fun h f => addNative h globalRef f (some f.proto) false) h
  match h.find? globalRef (.name Native.object.name) with
  | some ⟨.value (.object r) _, _, _⟩ => addNative h r .defineProperty none false
  | _ => h

/-- Adds the object that writes JSON. -/
def withJson (h : Heap) : Heap :=
  let (json, h) := addGlobalObject h "JSON" false
  let h := withProperty h json tagKey (.label (.ofString "JSON"))
  addNative h json .stringify none false

/-- The heap of an engine before the callbacks are installed. -/
def newHeap (budget : Budget) (layout : Layout) : Heap :=
  let h : Heap :=
    { objects := bareObjects
      scopes := #[⟨none, [(thisName, ⟨some (.object globalRef), true⟩)]⟩]
      completion := .undefined, symbols := 1, used := 0, budget, layout }
  let h := withProperty h globalRef (.name "globalThis") (.hidden (.object globalRef))
  let h := withTags (withFixedGlobals h)
  withJson (withConstructors (addNatives h standardMethods false))

/-- Adds the object that prints. -/
def withConsole (h : Heap) : Heap :=
  let (console, h) := addGlobalObject h consoleName true
  addNatives h (consoleMethods.map fun m => (console, .console m)) true

/-- The callbacks that are global functions. -/
def globalCallbacks : List (Ref × Native) :=
  [(globalRef, .command), (globalRef, .load), (globalRef, .require)]

/-- The heap once the callbacks are installed. -/
def withCallbacks (h : Heap) : Heap := withConsole (addNatives h globalCallbacks true)

/-! ## Running -/

/-- How many tasks may nest before a run counts as stalled. -/
def stepLimit : Nat := 100000000

def evaluator : Evaluator := ⟨fun t => evaluate stepLimit t⟩

/-- The error of a declaration that the global scope does not allow: what is declared as a name of
a block or is fixed cannot be declared again, and a function cannot take the place of a property that
is fixed. -/
def declarationFault? (h : Heap) (x : String) (form : GlobalForm) : Option (ErrorKind × String) :=
  let again := some (ErrorKind.form, "redeclaration of '" ++ shownName x ++ "'")
  let taken := ((h.scopes.getD globalScope default).slots.lookup x).isSome
  match form, (h.objects.getD globalRef default).own? (.name x) with
  | .lexical, some p => if !p.configurable || taken then again else none
  | .function, some ⟨content, enumerable, configurable⟩ =>
    let replaceable := match content with
      | .value _ writable => writable && enumerable
      | .accessor _ _ => false
    if !configurable && !replaceable then
      some (.type, "cannot define variable '" ++ shownName x ++ "'")
    else if taken then again
    else none
  | _, _ => if taken then again else none

/-- Checks declarations in the order of the text. -/
def checkDeclarations : List (String × GlobalForm) → Eval Unit
  | [] => return
  | (x, form) :: rest => do
    match ← inspect fun h => declarationFault? h x form with
    | some (kind, message) => raise kind message
    | none => checkDeclarations rest

/-- Declares a variable as a property of the global object; it keeps a value that it has. -/
def declareGlobal (x : String) : Eval Unit :=
  modifyObject globalRef fun o =>
    if (o.own? (.name x)).isSome then o
    else { o with props := o.props ++ [(.name x, ⟨.value .undefined true, true, false⟩)] }

/-- Declares the variables of a script. -/
def declareVariables : List (String × GlobalForm) → Eval Unit
  | [] => return
  | (x, .variable) :: rest => do
    declareGlobal x
    declareVariables rest
  | _ :: rest => declareVariables rest

/-- Makes the functions that a script declares. -/
def declareFunctions : List (String × Func) → Eval Unit
  | [] => return
  | (x, f) :: rest => do
    let v ← makeFunction f globalScope none
    let fixed ← peek globalRef fun o => ((o.own? (.name x)).map fun p => !p.configurable).getD false
    defineProperty globalRef (.name x)
      (if fixed then { value := some v }
       else { value := some v, writable := some true, enumerable := some true, configurable := some false })
    declareFunctions rest

/-- Declares everything that a script declares, or nothing if a name is taken. -/
def declareAll (program : Program) : Eval Unit := do
  match program.body with
  | .mk names funcs _ =>
    checkDeclarations program.globals
    declareVariables program.globals
    declareFunctions funcs
    modify fun h => { h with scopes := h.scopes.modify globalScope fun s =>
      { s with slots := s.slots ++ blockSlots names } }

/-- A script under way. -/
def scriptActivation : Activation := ⟨none, some scriptFile, default, globalScope⟩

/-- Runs a script in the global scope and yields the value of its last expression statement. -/
def runScript (source : String) : Eval Value := do
  if ← inspect fun h => h.budget.noRoom then raise .range tooDeep
  match Program.read source scriptFile true with
  | .error fault => raiseFault scriptFile fault
  | .ok program =>
    inCall scriptActivation (do
      modify fun h => { h with completion := .undefined }
      declareAll program
      match program.body with
      | .mk _ _ body =>
        let _ ← evaluator.run (.execAll body ⟨globalScope, true, true⟩)
        inspect fun h => h.completion)

/-! ## Exceptions in words -/

/-- Numbers that are shown with their type: positional from a ten-thousandth up to 16 digits. -/
def shownNumber : Decimal.Spelling :=
  { least := -3, greatest := 16, pointZero := true, plus := false, signedZero := true
    infinity := "inf" }

/-- A place in memory. -/
def address (n : Nat) : String := "(0x" ++ String.ofList (Nat.toDigits 16 n) ++ ")"

/-- A value with its type. -/
def shownValue (h : Heap) : Value → String
  | .undefined => "Undefined\"undefined\""
  | .null => "Null\"null\""
  | .bool b => "Bool(" ++ (if b then "true" else "false") ++ ")"
  | .number x =>
    if x.whole then "Int(" ++ numberText x ++ ")"
    else "Float(" ++ Decimal.write shownNumber x.value ++ ")"
  | .text s =>
    match s.toText with
    | .ok t => "String(Ok(" ++ Text.quoted t ++ "))"
    | .error offset =>
      "String(Err(Utf8(Utf8Error \x7b valid_up_to: " ++ toString offset
        ++ ", error_len: Some(1) \x7d)))"
  | .symbol id _ => "Symbol" ++ address (h.layout.symbol id)
  | .panic => "Exception"
  | .object r =>
    let role := match (h.objects.getD r default).kind with
      | .array _ _ => "Array"
      | .closure c => if c.constructs then "Constructor" else "Function"
      | .native f => if f.constructs then "Constructor" else "Function"
      | .promise => "Promise"
      | .error => "Exception"
      | _ => "Object"
    role ++ address (h.layout.object r)

def isError (h : Heap) : Value → Bool
  | .object r =>
    match (h.objects.getD r default).kind with
    | .error => true
    | _ => false
  | _ => false

/-- What is said of a value that was thrown and is no error. -/
def thrownWords (h : Heap) (v : Value) : String :=
  "Exception generated by quickjs: " ++ shownValue h v ++ "\n"

/-- A part of an error as a text, if it is neither null nor undefined and converts to one. -/
def errorPart (v : Value) (key : String) : Eval (Option String) := do
  match ← getNamed evaluator v key with
  | .undefined | .null => return none
  | x => return (← toText evaluator x).toText.toOption

/-! ## The operations of an engine -/

/-- What an operation of the interpreter yields. -/
abbrev Outcome (α : Type) : Type := Engine.Outcome Heap Value α

/-- Runs an evaluation; one that is suspended for good leaves a value in its place. -/
def operation {α : Type} (x : Eval α) (fallback : α) (h : Heap) : Outcome α :=
  (x.run h).bind fun
    | (.ok a, h) => .done (.ok a, h)
    | (.error .suspended, h) => .done (.ok fallback, h)
    | (.error (.thrown v), h) => .done (.error (.thrown v), h)

/-- The byte offset of the first NUL of a text. -/
def nulOffset? (s : String) : Option Nat :=
  let before := s.toList.takeWhile (· != '\x00')
  if before.length == s.toList.length then none else some (Text.byteLength before)

/-- Why a text with a NUL at this offset is refused. -/
def nulMessage (n : Nat) : String :=
  "String contained internal null bytes: nul byte found in provided data at position: " ++ toString n

/-- Runs an action on a script text that holds no NUL. -/
def withSource {α : Type} (source : String) (x : Eval α) (fallback : α) (h : Heap) : Outcome α :=
  match nulOffset? source with
  | some n => .done (.error (.refused (nulMessage n)), h)
  | none => operation x fallback h

/-- Calls a function with one argument for its effects. -/
def callOnce (f v : Value) : Eval Unit := do
  let _ ← evaluator.run (.call f .undefined [v])
  return

/-! ## Panics are kept -/

theorem foldl_kept {β : Type} {f : Heap → β → Heap} (hf : ∀ h b, (f h b).kept = h.kept)
    (bs : List β) (h : Heap) : (bs.foldl f h).kept = h.kept := by
  induction bs generalizing h with
  | nil => rfl
  | cons b bs ih => exact (ih (f h b)).trans (hf h b)

theorem addNative_kept (h : Heap) (owner : Ref) (f : Native) (proto : Option Ref)
    (enumerable : Bool) : (addNative h owner f proto enumerable).kept = h.kept := by
  cases proto <;> rfl

theorem addNatives_kept (h : Heap) (fs : List (Ref × Native)) (enumerable : Bool) :
    (addNatives h fs enumerable).kept = h.kept :=
  foldl_kept (fun h _ => addNative_kept h _ _ _ _) fs h

theorem withConstructors_kept (h : Heap) : (withConstructors h).kept = h.kept := by
  have hconstructors := foldl_kept (f := fun h f => addNative h globalRef f (some f.proto) false)
    (fun h f => addNative_kept h _ _ _ _) standardConstructors h
  unfold withConstructors
  dsimp only
  split
  · exact (addNative_kept _ _ _ _ _).trans hconstructors
  · exact hconstructors

theorem newHeap_kept (budget : Budget) (layout : Layout) : (newHeap budget layout).kept = none := by
  have hjson : ∀ h, (withJson h).kept = h.kept := fun _ => addNative_kept _ _ _ _ _
  have htags : ∀ h, (withTags h).kept = h.kept := foldl_kept (fun _ _ => rfl) standardTags
  have hfixed : ∀ h, (withFixedGlobals h).kept = h.kept :=
    foldl_kept (fun _ _ => rfl) fixedGlobals
  rw [newHeap, hjson, withConstructors_kept, addNatives_kept, htags, hfixed]
  rfl

theorem withConsole_kept (h : Heap) : (withConsole h).kept = h.kept :=
  addNatives_kept _ _ _

theorem withCallbacks_kept (h : Heap) : (withCallbacks h).kept = h.kept := by
  rw [withCallbacks, withConsole_kept, addNatives_kept]

theorem operation_keeps {α : Type} (x : Eval α) (fallback : α) (h : Heap) :
    (operation x fallback h).Keeps Heap.kept h.kept := by
  refine (x.keeps h).bind ?_
  rintro ((v | _) | a) h
  · rfl
  · rfl
  · rfl

theorem withSource_keeps {α : Type} (source : String) (x : Eval α) (fallback : α) (h : Heap) :
    (withSource source x fallback h).Keeps Heap.kept h.kept := by
  unfold withSource
  split
  · rfl
  · exact operation_keeps x fallback h

/-! ## The engine -/

/-- Why the callbacks cannot be installed. -/
def noSurface : String := "Exception generated by QuickJS"

/-- Creates an engine, if the limits leave room for one. -/
def create (sizes : Sizes) (layout : Layout) (limits : Limits) : Except String Heap :=
  if allows limits sizes.context then .ok (newHeap (sizes.budget limits) layout)
  else .error Engine.noRoom

/-- Installs the callbacks, if there is room for them. -/
def install (h : Heap) : Except String Heap :=
  if h.budget.noSurface then .error noSurface else .ok (withCallbacks h)

/-- The interpreter as an engine; `layout` says where the things of each engine lie. -/
def interpreter (sizes : Sizes) (layout : Nat → Layout) : Engine where
  State := Heap
  Value := Value
  kept := Heap.kept
  create limits n := create sizes (layout n) limits
  install := install
  evaluate source := withSource source (do let _ ← runScript source; return) ()
  lookup x := operation (getNamed evaluator (.object globalRef) x) .undefined
  isFunction := isCallable
  array texts := operation (newArray (texts.map Value.ofString)) .undefined
  call f v := operation (callOnce f v) ()
  isError := isError
  read v key := operation (errorPart v key) none
  shown := thrownWords
  create_kept hcreate := by
    unfold create at hcreate
    split at hcreate
    · rw [← Except.ok.inj hcreate, newHeap_kept]
    · cases hcreate
  install_kept hinstall := by
    unfold install at hinstall
    split at hinstall
    · cases hinstall
    · rw [← Except.ok.inj hinstall, withCallbacks_kept]
  evaluate_keeps source := withSource_keeps source _ _
  lookup_keeps _ := operation_keeps _ _
  array_keeps _ := operation_keeps _ _
  call_keeps _ _ := operation_keeps _ _
  read_keeps _ _ := operation_keeps _ _

end DecBridge.Script
