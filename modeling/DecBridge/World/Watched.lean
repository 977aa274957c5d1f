import DecBridge.World

/-!
# Watched actions

An action that lists what happens while it is carried out, as moments `μ` of whatever kind the reader
is interested in. Watching never changes an action: `Watched.act` forgets the list, and it goes through
everything that watched actions are built from.

A port can be watched too: `Port.noting` keeps a list of the calls that are made through it, beside the
state of the hosts.
-/

namespace DecBridge

open Host (Call)

variable {μ η σ α β : Type}

/-! ## Exits without a value -/

/-- An exit that has no value to go on with. -/
def Exit.broken (b : Exit Empty) : Exit α := b.map nofun

theorem Exit.done_or_broken (e : Exit α) :
    (∃ a, e = .done a) ∨ ∃ b : Exit Empty, e = b.broken := by
  cases e with
  | done a => exact .inl ⟨a, rfl⟩
  | panicked q => exact .inr ⟨.panicked q, rfl⟩
  | terminated => exact .inr ⟨.terminated, rfl⟩
  | killed => exact .inr ⟨.killed, rfl⟩
  | stalled => exact .inr ⟨.stalled, rfl⟩

/-! ## Watching -/

/-- An action that lists what happens. -/
def Watched (μ η σ α : Type) : Type :=
  World η σ → (Exit α × World η σ) × List μ

namespace Watched

/-- An action with the moments it has in a world. -/
def of (x : Act η σ α) (ms : World η σ → List μ) : Watched μ η σ α :=
  fun w => (x w, ms w)

/-- An action without moments. -/
def plain (x : Act η σ α) : Watched μ η σ α := of x fun _ => []

def bind (x : Watched μ η σ α) (f : α → Watched μ η σ β) : Watched μ η σ β := fun w =>
  match x w with
  | ((.done a, w'), ms) => ((f a w').1, ms ++ (f a w').2)
  | ((.panicked q, w'), ms) => ((.panicked q, w'), ms)
  | ((.terminated, w'), ms) => ((.terminated, w'), ms)
  | ((.killed, w'), ms) => ((.killed, w'), ms)
  | ((.stalled, w'), ms) => ((.stalled, w'), ms)

/-- An action that depends on the state of the hosts. -/
def here (f : σ → Watched μ η σ α) : Watched μ η σ α := fun w => f w.host w

instance : Monad (Watched μ η σ) where
  pure a := plain (Pure.pure a)
  bind := bind

/-- Goes on with the value of an action that may end with an error. -/
def proceed {ε : Type} (x : Watched μ η σ (Except ε α)) (f : α → Watched μ η σ (Except ε β)) :
    Watched μ η σ (Except ε β) :=
  x >>= fun
    | .ok a => f a
    | .error e => Pure.pure (.error e)

/-- The action itself. -/
def act (x : Watched μ η σ α) : Act η σ α := fun w => (x w).1

/-- What is done around an action as a whole has no moments of its own. -/
def around (g : Act η σ α → Act η σ β) (x : Watched μ η σ α) : Watched μ η σ β :=
  fun w => (g x.act w, (x w).2)

/-- Runs an action and then changes the world, as `Act.afterwards` does, which has moments of its
own. -/
def afterwards (x : Watched μ η σ α) (f : World η σ → World η σ) (ms : World η σ → List μ) :
    Watched μ η σ α := fun w =>
  match x w with
  | ((.killed, w'), l) => ((.killed, w'), l)
  | ((e, w'), l) => ((e, f w'), l ++ ms w')

@[simp]
theorem act_afterwards (x : Watched μ η σ α) (f : World η σ → World η σ)
    (ms : World η σ → List μ) : (x.afterwards f ms).act = x.act.afterwards f := by
  funext w
  unfold act afterwards Act.afterwards
  dsimp only
  rcases x w with ⟨⟨_ | _ | _ | _ | _, w'⟩, l⟩ <;> rfl

@[simp]
theorem act_around (g : Act η σ α → Act η σ β) (x : Watched μ η σ α) :
    (x.around g).act = g x.act := rfl

@[simp]
theorem act_of (x : Act η σ α) (ms : World η σ → List μ) :
    (of x ms).act = x := rfl

@[simp]
theorem act_plain (x : Act η σ α) : (plain x : Watched μ η σ α).act = x := rfl

@[simp]
theorem act_pure (a : α) : (Pure.pure a : Watched μ η σ α).act = Pure.pure a := rfl

@[simp]
theorem act_bind (x : Watched μ η σ α) (f : α → Watched μ η σ β) :
    (x >>= f).act = x.act >>= fun a => (f a).act := by
  funext w
  show (Watched.bind x f w).1 = Act.bind x.act _ w
  unfold Watched.bind Act.bind act
  rcases x w with ⟨⟨_ | _ | _ | _ | _, w'⟩, ms⟩ <;> rfl

@[simp]
theorem act_proceed {ε : Type} (x : Watched μ η σ (Except ε α))
    (f : α → Watched μ η σ (Except ε β)) :
    (x.proceed f).act = x.act.proceed fun a => (f a).act := by
  unfold proceed Act.proceed
  rw [act_bind]
  show Act.bind _ _ = Act.bind _ _
  congr 1
  funext r
  cases r <;> rfl

section Bind

variable {x : Watched μ η σ α} (f : α → Watched μ η σ β) {w : World η σ}

theorem bind_of_done {a : α} (h : (x w).1.1 = .done a) :
    (x >>= f) w = ((f a (x w).1.2).1, (x w).2 ++ (f a (x w).1.2).2) := by
  show Watched.bind x f w = _
  unfold Watched.bind
  rcases hx : x w with ⟨⟨e, w'⟩, ms⟩
  rw [hx] at h
  cases h
  rfl

theorem bind_of_broken {b : Exit Empty} (h : (x w).1.1 = b.broken) :
    (x >>= f) w = ((b.broken, (x w).1.2), (x w).2) := by
  show Watched.bind x f w = _
  unfold Watched.bind
  rcases hx : x w with ⟨⟨e, w'⟩, ms⟩
  rw [hx] at h
  obtain rfl : e = b.broken := h
  rcases b with ⟨⟨⟩⟩ | _ | _ | _ | _ <;> rfl

end Bind

end Watched

/-! ## Watching ports -/

/-- A port that lists the calls that are made through it. -/
def Port.noting (p : Port η σ) : Port η (σ × List Call) := fun h c w =>
  let r := p h c { w with host := w.host.1 }
  (r.1, { r.2 with host := (r.2.host, w.host.2 ++ [c]) })

end DecBridge
