import DecBridge.Script.Run

/-!
# Engines

What a session needs of a script engine. Every operation that may run a script is a `Run`, so whatever
a script does shows as requests of that run. An operation ends with a value, with an exception, or
with an error of the engine itself.

Of what an engine does in between only the laws are known: it keeps a panic of the outside aside, and
nothing that a script does makes it forget the panic.
-/

namespace DecBridge

open Script (Run)

/-- Ceilings on what an engine may use, in bytes. -/
structure Limits where
  memory : Option Nat
  stack : Option Nat
  deriving DecidableEq, Inhabited

namespace Engine

/-- What an operation of an engine ends with if not with a value. -/
inductive Failure (V : Type) : Type where
  /-- An exception with this value. -/
  | thrown (v : V)
  /-- The engine had no memory left. -/
  | noMemory
  /-- Another error of the engine, which no script has thrown. -/
  | refused (message : String)

/-- What an operation of an engine yields, with the engine's state afterwards. -/
abbrev Outcome (S V α : Type) : Type := Run (Except (Failure V) α × S)

end Engine

structure Engine where
  State : Type
  Value : Type
  /-- The panic that is kept aside. -/
  kept : State → Option Payload
  /-- Creates an engine, of which there were so many before: what depends on the place in memory, on
  the time or on chance differs from each to the next. -/
  create : Limits → Nat → Except String State
  /-- Installs the callbacks. -/
  install : State → Except String State
  /-- Runs a script in the global scope. -/
  evaluate : String → State → Engine.Outcome State Value Unit
  /-- Looks up a property of the global object. -/
  lookup : String → State → Engine.Outcome State Value Value
  isFunction : State → Value → Bool
  /-- Makes an array of texts. -/
  array : List String → State → Engine.Outcome State Value Value
  /-- Calls a function with one argument. -/
  call : Value → Value → State → Engine.Outcome State Value Unit
  isError : State → Value → Bool
  /-- Reads a part of an error as a text; there is none if the part is undefined, for example. -/
  read : Value → String → State → Engine.Outcome State Value (Option String)
  /-- What is said of a value that was thrown and is no error. -/
  shown : State → Value → String
  create_kept : ∀ {limits n s}, create limits n = .ok s → kept s = none
  install_kept : ∀ {s s'}, install s = .ok s' → kept s' = kept s
  evaluate_keeps : ∀ source s, (evaluate source s).Keeps kept (kept s)
  lookup_keeps : ∀ x s, (lookup x s).Keeps kept (kept s)
  array_keeps : ∀ texts s, (array texts s).Keeps kept (kept s)
  call_keeps : ∀ f v s, (call f v s).Keeps kept (kept s)
  read_keeps : ∀ v key s, (read v key s).Keeps kept (kept s)

namespace Engine

variable (E : Engine)

/-- Calls a function with one argument, an array of texts. -/
def callWith (f : E.Value) (texts : List String) (s : E.State) : Outcome E.State E.Value Unit :=
  (E.array texts s).bind fun
    | (.ok v, s) => E.call f v s
    | (.error e, s) => .done (.error e, s)

theorem callWith_keeps (f : E.Value) (texts : List String) (s : E.State) :
    (E.callWith f texts s).Keeps E.kept (E.kept s) := by
  refine (E.array_keeps texts s).bind ?_
  rintro (e | v) s
  · rfl
  · exact E.call_keeps f v s

/-- What is said if there was no memory left. -/
def noRoom : String := "Allocation failed while creating object"

/-- An error in words, from those of its parts that could be read. -/
def errorWords (message stack : Option String) : String :=
  "Error:" ++ (message.map (" " ++ ·)).getD "" ++ (stack.map ("\n" ++ ·)).getD ""

end Engine

end DecBridge
