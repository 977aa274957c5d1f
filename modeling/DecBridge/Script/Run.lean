import DecBridge.Panic

/-!
# Runs of scripts

What a running script asks of the outside, and a run as the finite tree of such requests: it is over,
it has used up its steps, or it asks for something and goes on with the answer.

`Run.andThen` only extends a tree at its leaves, so a fact that holds of every request of a run can be
proved along the tree without looking into the evaluation. One such fact is `Run.Keeps`: a panic is
kept from the answer that brought it on, whatever the script does about the exception that it sees
instead.
-/

namespace DecBridge.Script

/-! ## Requests -/

/-- Name of the function that issues a host command. -/
def hostCommandName : String := "r2cmd"

/-- Name of the function that loads a file. -/
def loadName : String := "___internal_load"

/-- Name of the function that loads a module. -/
def requireName : String := "___internal_require"

/-- Name of the console object. -/
def consoleName : String := "console"

/-- Methods of the console object. -/
def consoleMethods : List String := ["log", "info", "warn", "error", "debug", "trace"]

/-- The class of an error object. -/
inductive ErrorKind where
  | general | type | range | form | reference | internal
  deriving DecidableEq, Inhabited, Repr

def ErrorKind.name : ErrorKind → String
  | .general => "Error"
  | .type => "TypeError"
  | .range => "RangeError"
  | .form => "SyntaxError"
  | .reference => "ReferenceError"
  | .internal => "InternalError"

/-- What a script asks of the outside. -/
inductive Request where
  | command (text : String)
  | load (name : String)
  | require (name : String)
  | print (line : String)
  deriving DecidableEq, Inhabited, Repr

/-- What the outside answers: a text, nothing, an error that the script may catch, or a panic. -/
inductive Answer where
  | text (s : String)
  | nothing
  | refused (kind : ErrorKind) (message : String)
  | panicked (payload : Payload)
  deriving Inhabited

/-- The panic that waits after an answer, if `kept` did before it. -/
def Answer.keeping (kept : Option Payload) : Answer → Option Payload
  | .panicked payload => some payload
  | _ => kept

/-! ## Runs -/

/-- A run that yields an `α` unless it stalls. -/
inductive Run (α : Type) : Type where
  | done (a : α)
  | stalled
  | ask (request : Request) (resume : Answer → Run α)

namespace Run

variable {α β S : Type}

/-- A run followed by another one that depends on what it yields. -/
def andThen : Run α → (α → Run β) → Run β
  | .done a, f => f a
  | .stalled, _ => .stalled
  | .ask request resume, f => .ask request fun answer => (resume answer).andThen f

/-- The same, unfolded once so that a run which is over goes on in place. -/
@[inline]
def bind (x : Run α) (f : α → Run β) : Run β :=
  match x with
  | .done a => f a
  | .stalled => .stalled
  | .ask request resume => .ask request fun answer => (resume answer).andThen f

theorem bind_eq_andThen (x : Run α) (f : α → Run β) : x.bind f = x.andThen f := by
  cases x <;> rfl

/-- Whether the state in the end keeps the panic that was answered last, and `last` if none was;
`kept` says what a state keeps. -/
def Keeps (kept : S → Option Payload) (last : Option Payload) : Run (α × S) → Prop
  | .done (_, s) => kept s = last
  | .stalled => True
  | .ask _ resume => ∀ answer : Answer, (resume answer).Keeps kept (answer.keeping last)

theorem Keeps.andThen {kept : S → Option Payload} {x : Run (α × S)} {f : α × S → Run (β × S)}
    {last : Option Payload} (hx : x.Keeps kept last)
    (hf : ∀ a s, (f (a, s)).Keeps kept (kept s)) : (x.andThen f).Keeps kept last := by
  induction x generalizing last with
  | done r =>
      obtain ⟨a, s⟩ := r
      obtain rfl : kept s = last := hx
      exact hf a s
  | stalled => trivial
  | ask request resume ih => exact fun answer => ih answer (hx answer)

theorem Keeps.bind {kept : S → Option Payload} {x : Run (α × S)} {f : α × S → Run (β × S)}
    {last : Option Payload} (hx : x.Keeps kept last)
    (hf : ∀ a s, (f (a, s)).Keeps kept (kept s)) : (x.bind f).Keeps kept last := by
  rw [bind_eq_andThen]
  exact hx.andThen hf

end Run

end DecBridge.Script
