import DecBridge.Host.Error
import DecBridge.Log.Event
import DecBridge.Panic

/-!
# Hosts

A host answers calls, keeping a state `σ` of its own. What it does with one call is a finite tree: it
answers, panics, never answers, reports something to the log, or, while it is being called, makes a
request `ρ` of the program that called it and goes on with the answer `α`.

Several hosts, told apart by `η`, may share the state. A host that makes a request also says how all
of them behave while that request is served, so every chain of calls within calls is finite, and
whatever is defined on hosts is defined by recursion on these trees.
-/

namespace DecBridge.Host

/-- A call of a host. -/
inductive Call where
  | cmd (command : String)
  | print (text : String)
  deriving DecidableEq, Inhabited, Repr

/-- What a host does with a call. -/
inductive Reaction (η σ ρ α : Type) : Type where
  | reply (answer : Except HostError String) (s : σ)
  | panic (payload : Payload) (s : σ)
  | hang (s : σ)
  | note (event : Log.Event) (next : Reaction η σ ρ α)
  | request (r : ρ) (s : σ) (inside : η → Call → σ → Reaction η σ ρ α)
      (resume : α → σ → Reaction η σ ρ α)

/-- Reports events and goes on. -/
def Reaction.notes {η σ ρ α : Type} (events : List Log.Event) (next : Reaction η σ ρ α) :
    Reaction η σ ρ α :=
  events.foldr Reaction.note next

/-- What a host does, with something in its state that it does not look at. -/
def Reaction.carry {η σ ρ α L : Type} : Reaction η σ ρ α → L → Reaction η (σ × L) ρ α
  | .reply answer s, a => .reply answer (s, a)
  | .panic payload s, a => .panic payload (s, a)
  | .hang s, a => .hang (s, a)
  | .note event next, a => .note event (next.carry a)
  | .request r s inside resume, a =>
    .request r (s, a) (fun h c t => (inside h c t.1).carry t.2)
      fun x t => (resume x t.1).carry t.2

/-- A part of a larger state, as something to read and to replace. -/
structure Part (σ τ : Type) where
  get : σ → τ
  put : τ → σ → σ

/-- A part of states that carry something along. -/
def Part.carry {σ τ L : Type} (part : Part σ τ) : Part (σ × L) τ where
  get s := part.get s.1
  put t s := (part.put t s.1, s.2)

/-- How each host behaves. -/
abbrev Roster (η σ ρ α : Type) : Type := η → Call → σ → Reaction η σ ρ α

end DecBridge.Host
