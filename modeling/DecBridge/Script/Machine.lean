import DecBridge.Script.Reach

/-!
# Evaluations

Scripts are evaluated into runs by actions over the heap, which end with a value, an exception, or a
suspension that is never resumed. It is part of what an evaluation is that the heap keeps the panic
that was answered last (`Run.Keeps`).
-/

namespace DecBridge.Script

/-- Why an evaluation ended without a value. -/
inductive Abrupt where
  | thrown (v : Value)
  | suspended

/-- An evaluation step over the heap. -/
structure Eval (α : Type) : Type where
  run : Heap → Run (Except Abrupt α × Heap)
  keeps : ∀ h, (run h).Keeps Heap.kept h.kept

namespace Eval

@[always_inline, inline]
protected def pure {α : Type} (a : α) : Eval α := ⟨fun h => .done (.ok a, h), fun _ => rfl⟩

@[always_inline, inline]
protected def bind {α β : Type} (x : Eval α) (f : α → Eval β) : Eval β where
  run h := (x.run h).bind fun
    | (.ok a, h) => (f a).run h
    | (.error e, h) => .done (.error e, h)
  keeps h := (x.keeps h).bind fun
    | .ok a, h => (f a).keeps h
    | .error _, _ => rfl

@[always_inline]
instance : Monad Eval where
  pure := Eval.pure
  bind := Eval.bind

def stall {α : Type} : Eval α := ⟨fun _ => .stalled, fun _ => trivial⟩

/-- Asks the outside for something; a panic in answer to it is kept. -/
def ask (request : Request) : Eval Answer where
  run h := .ask request fun a => .done (.ok a, { h with kept := a.keeping h.kept })
  keeps _ _ := rfl

def abrupt {α : Type} (e : Abrupt) : Eval α := ⟨fun h => .done (.error e, h), fun _ => rfl⟩

def throw {α : Type} (v : Value) : Eval α := abrupt (.thrown v)

/-- The outcome of an evaluation, as a value. -/
@[inline]
def attempt {α : Type} (x : Eval α) : Eval (Except Abrupt α) where
  run h := (x.run h).bind fun (r, h) => .done (.ok r, h)
  keeps h := by
    refine (x.keeps h).bind ?_
    exact fun _ _ => rfl

/-- Looks at the heap. -/
@[inline]
def inspect {α : Type} (f : Heap → α) : Eval α where
  run h :=
    let a := f h
    .done (.ok a, h)
  keeps _ := rfl

/-- Changes the heap and yields something of it. -/
@[inline]
def update {α : Type} (f : Heap → α × Heap)
    (hf : ∀ h, (f h).2.kept = h.kept := by intro h; rfl) : Eval α where
  run h :=
    let (a, h) := f h
    .done (.ok a, h)
  keeps := hf

@[inline]
def modify (f : Heap → Heap) (hf : ∀ h, (f h).kept = h.kept := by intro h; rfl) : Eval Unit where
  run h := .done (.ok (), f h)
  keeps := hf

/-! ## Repetition -/

/-- What a round of a repetition leads to. -/
inductive Step (α σ : Type) where
  | finish (a : α)
  | again (s : σ)

/-- Repeats a round until it finishes, each time with the state that the last one left, for at most
so many rounds. -/
@[nospecialize]
def iterate {α σ : Type} (round : σ → Eval (Step α σ)) : Nat → σ → Heap → Run (Except Abrupt α × Heap)
  | 0, _, _ => .stalled
  | n + 1, s, h =>
    match (round s).run h with
    | .done (.ok (.finish a), h) => .done (.ok a, h)
    | .done (.ok (.again s), h) => iterate round n s h
    | .done (.error e, h) => .done (.error e, h)
    | .stalled => .stalled
    | .ask request resume => .ask request fun answer => (resume answer).andThen fun
      | (.ok (.finish a), h) => .done (.ok a, h)
      | (.ok (.again s), h) => iterate round n s h
      | (.error e, h) => .done (.error e, h)

/-- A repetition is its first round followed by the others. -/
theorem iterate_succ {α σ : Type} (round : σ → Eval (Step α σ)) (n : Nat) (s : σ) (h : Heap) :
    iterate round (n + 1) s h = ((round s).run h).andThen fun
      | (.ok (.finish a), h) => .done (.ok a, h)
      | (.ok (.again s), h) => iterate round n s h
      | (.error e, h) => .done (.error e, h) := by
  rw [iterate]
  rcases (round s).run h with ⟨⟨_ | ⟨_ | _⟩, _⟩⟩ | _ | _ <;> rfl

theorem iterate_keeps {α σ : Type} (round : σ → Eval (Step α σ)) (n : Nat) (s : σ) (h : Heap) :
    (iterate round n s h).Keeps Heap.kept h.kept := by
  induction n generalizing s h with
  | zero => trivial
  | succ n ih =>
      rw [iterate_succ]
      refine ((round s).keeps h).andThen ?_
      rintro (_ | _ | s) h
      · rfl
      · rfl
      · exact ih s h

/-- How often a round may be repeated before a run counts as stalled. -/
def roundLimit : Nat := 1000000000000

/-- Repeats a round until it finishes. -/
@[inline]
def repeatFrom {α σ : Type} (s : σ) (round : σ → Eval (Step α σ)) : Eval α :=
  ⟨iterate round roundLimit s, iterate_keeps round roundLimit s⟩

/-- Carries out a step for each index from `i` on, `n` of them, and passes a value along. -/
@[nospecialize]
def foldRange {α : Type} (step : Nat → α → Eval α) : Nat → Nat → α → Heap → Run (Except Abrupt α × Heap)
  | 0, _, a, h => .done (.ok a, h)
  | n + 1, i, a, h =>
    match (step i a).run h with
    | .done (.ok a, h) => foldRange step n (i + 1) a h
    | .done (.error e, h) => .done (.error e, h)
    | .stalled => .stalled
    | .ask request resume => .ask request fun answer => (resume answer).andThen fun
      | (.ok a, h) => foldRange step n (i + 1) a h
      | (.error e, h) => .done (.error e, h)

/-- The first index comes first. -/
theorem foldRange_succ {α : Type} (step : Nat → α → Eval α) (n i : Nat) (a : α) (h : Heap) :
    foldRange step (n + 1) i a h = ((step i a).run h).andThen fun
      | (.ok a, h) => foldRange step n (i + 1) a h
      | (.error e, h) => .done (.error e, h) := by
  rw [foldRange]
  rcases (step i a).run h with ⟨⟨_ | _, _⟩⟩ | _ | _ <;> rfl

theorem foldRange_keeps {α : Type} (step : Nat → α → Eval α) (n i : Nat) (a : α) (h : Heap) :
    (foldRange step n i a h).Keeps Heap.kept h.kept := by
  induction n generalizing i a h with
  | zero => rfl
  | succ n ih =>
      rw [foldRange_succ]
      refine ((step i a).keeps h).andThen ?_
      rintro (_ | a) h
      · rfl
      · exact ih (i + 1) a h

/-- Carries out a step for each of the first `n` indices and passes a value along. -/
@[inline]
def foldIndices {α : Type} (n : Nat) (a : α) (step : Nat → α → Eval α) : Eval α :=
  ⟨foldRange step n 0 a, foldRange_keeps step n 0 a⟩

/-! ## Objects -/

/-- Adds an object to the heap. -/
def alloc (o : Object) : Eval Ref := update fun h =>
  (h.objects.size, { h with objects := h.objects.push o })

/-- Looks at an object. -/
@[inline]
def peek {α : Type} (r : Ref) (f : Object → α) : Eval α := inspect fun h => f (h.objects.getD r default)

def modifyObject (r : Ref) (f : Object → Object) : Eval Unit :=
  modify fun h => { h with objects := h.objects.modify r f }

/-! ## Errors -/

/-- How many calls a trace shows. -/
def traceLimit : Nat := 10

/-- The name that a trace shows for a call. -/
def shownCallee (h : Heap) : Option Ref → String
  | none => "<eval>"
  | some r =>
    match (h.objects.getD r default).props.lookup (.name "name") with
    | some ⟨.value (.text s) _, _, _⟩ => if s.size == 0 then "<anonymous>" else s.toLossy
    | _ => "<anonymous>"

/-- A place in a script. -/
def shownPlace (file : String) (spot : Spot) : String :=
  file ++ ":" ++ toString spot.line ++ ":" ++ toString (max 1 spot.column)

/-- The line of a trace for a call. -/
def traceLine (h : Heap) (a : Activation) : String :=
  let place := match a.file with
    | some file => shownPlace file a.spot
    | none => "native"
  "    at " ++ shownCallee h a.callee ++ " (" ++ place ++ ")\n"

/-- The calls under way, one line each, without the `skipped` innermost ones. -/
def trace (skipped : Nat) (h : Heap) : String :=
  String.join (((h.calls.drop skipped).take traceLimit).map (traceLine h))

/-- Makes an error object; without a message it has none of its own. -/
def newError (proto : Ref) (message : Option Str) (origin : String) : Eval Value := do
  let own := match message with
    | some m => [(Key.name "message", Property.hidden (.text m))]
    | none => []
  let stack := [(Key.name "stack", Property.hidden (.ofString origin))]
  modify fun h => { h with used := h.used + Object.header + 2 * Object.propertyBytes }
  return .object (← alloc ⟨some proto, .error, own ++ stack⟩)

/-- Bytes of a message that an error of the engine has room for. -/
def messageRoom : Nat := 255

/-- Throws an error of a kind. -/
def raise {α : Type} (kind : ErrorKind) (message : String) : Eval α := do
  let origin ← inspect (trace 0)
  throw (← newError kind.proto (some (Str.ofString (buffered messageRoom message))) origin)

/-! ## Room -/

/-- Whether taking `bytes` more stays within the budget. -/
def fits (h : Heap) (bytes : Nat) : Bool :=
  match h.budget.heap with
  | none => true
  | some limit => h.used + bytes ≤ limit

/-- Takes `bytes` of the budget. If they do not fit, what no script can get at any more is given
back first. -/
def charge (bytes : Nat) : Eval Unit where
  run h :=
    if fits h bytes then .done (.ok (), { h with used := h.used + bytes })
    else
      let live := h.liveBytes
      let h := { h with used := min h.used live }
      if fits h bytes then .done (.ok (), { h with used := h.used + bytes })
      else (raise .internal "out of memory").run h
  keeps h := by
    dsimp only
    split
    · rfl
    · split
      · rfl
      · exact (raise .internal "out of memory").keeps { h with used := min h.used h.liveBytes }

/-! ## Scopes -/

/-- Adds a scope. -/
def newScope (parent : Nat) (slots : List (String × Slot)) : Eval Nat := do
  charge Scope.header
  update fun h => (h.scopes.size, { h with scopes := h.scopes.push ⟨some parent, slots⟩ })

/-- The innermost scope from `start` outwards that holds a name, with its slot. -/
def findSlot (scopes : Array Scope) (x : String) : Nat → Nat → Option (Nat × Slot)
  | 0, _ => none
  | fuel + 1, start =>
    let scope := scopes.getD start default
    match scope.slots.lookup x with
    | some slot => some (start, slot)
    | none =>
      match scope.parent with
      | some parent => findSlot scopes x fuel parent
      | none => none

def slot? (x : String) (start : Nat) : Eval (Option (Nat × Slot)) :=
  inspect fun h => findSlot h.scopes x (h.scopes.size + 1) start

def putSlot (slots : List (String × Slot)) (x : String) (s : Slot) : List (String × Slot) :=
  match slots with
  | [] => [(x, s)]
  | (k, t) :: rest => if k == x then (k, s) :: rest else (k, t) :: putSlot rest x s

def setSlot (scope : Nat) (x : String) (s : Slot) : Eval Unit :=
  modify fun h =>
    { h with scopes := h.scopes.modify scope fun sc => ⟨sc.parent, putSlot sc.slots x s⟩ }

/-! ## Calls under way -/

/-- Changes the innermost call under way. -/
def modifyCall (f : Activation → Activation) : Eval Unit :=
  modify fun h => { h with calls := match h.calls with
    | [] => []
    | a :: rest => f a :: rest }

/-- Notes the place that the code has come to. -/
def reach (spot : Spot) : Eval Unit := modifyCall fun a => { a with spot }

/-- Notes the innermost scope of the code. -/
def settle (scope : Nat) : Eval Unit := modifyCall fun a => { a with scope }

/-- The heap after a stretch of evaluation before which there were so many objects and scopes. If it
made no object, nothing refers to the scopes that it made. -/
def giveBack (objects scopes : Nat) (h : Heap) : Heap :=
  if h.objects.size == objects then
    let given := Scope.header * (h.scopes.size - scopes)
    { h with used := h.used - given, scopes := h.scopes.shrink scopes }
  else h

theorem giveBack_kept (objects scopes : Nat) (h : Heap) : (giveBack objects scopes h).kept = h.kept := by
  unfold giveBack
  split <;> rfl

/-- Evaluates in a new scope inside another one. -/
def inScope {α : Type} (parent : Nat) (slots : List (String × Slot)) (x : Nat → Eval α) : Eval α where
  run h :=
    let objects := h.objects.size
    let scopes := h.scopes.size
    let inner : Eval α := do
      let scope ← newScope parent slots
      settle scope
      x scope
    (inner.run h).bind fun (r, h) =>
      ((settle parent).run h).bind fun (_, h) => .done (r, giveBack objects scopes h)
  keeps h := by
    refine (Eval.keeps _ h).bind fun _ h => ((settle parent).keeps h).bind ?_
    exact fun _ => giveBack_kept _ _

/-- Message of a call beyond the permitted depth. -/
def tooDeep : String := "Maximum call stack size exceeded"

/-- Carries out a call; one beyond the permitted depth throws before anything of it runs. -/
def inCall {α : Type} (a : Activation) (x : Eval α) : Eval α where
  run h :=
    if h.depth ≥ h.budget.calls then (raise .range tooDeep).run h
    else
      let objects := h.objects.size
      let scopes := h.scopes.size
      (x.run { h with calls := a :: h.calls, depth := h.depth + 1 }).bind fun (r, h) =>
        .done (r, giveBack objects scopes { h with calls := h.calls.tail, depth := h.depth - 1 })
  keeps h := by
    dsimp only
    split
    · exact (raise .range tooDeep).keeps h
    · refine (x.keeps { h with calls := a :: h.calls, depth := h.depth + 1 }).bind ?_
      exact fun _ _ => giveBack_kept _ _ _

end Eval

/-! ## Tasks -/

/-- Where a piece of script runs. -/
structure Frame where
  scope : Nat
  strict : Bool
  /-- Whether expression statements set the value of the script. -/
  topLevel : Bool

/-- How a statement ends. -/
inductive Completion where
  | normal
  | brk (label : Option String)
  | cont (label : Option String)
  | ret (v : Value)

/-- What evaluation is asked for. -/
inductive Task : Type → Type where
  | eval (e : Expr) (frame : Frame) : Task Value
  | exec (s : Stmt) (frame : Frame) : Task Completion
  | execAll (ss : List Stmt) (frame : Frame) : Task Completion
  | call (f this : Value) (args : List Value) : Task Value
  | construct (f : Value) (args : List Value) (target : Value) : Task Value
  | json (key : Key) (v : Value) (around : List Ref) : Task (Option Str)

/-- The evaluator, as one of its own rules sees it. -/
structure Evaluator where
  run : {α : Type} → Task α → Eval α

end DecBridge.Script
