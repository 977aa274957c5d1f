import DecBridge.Link.History
import DecBridge.World.Watched

/-!
# The course of a history

What happens at a link, step by step: who attaches, who is refused, which guard is given up, and which
host a call reaches. `LinkOp.watch` is an operation with the steps that it makes the link take, those
inside the calls of hosts included.
-/

namespace DecBridge

open Host (Call HostError Reaction Roster)

open Watched (plain of here)

variable {η σ α : Type}

/-- Something that happened at a link. -/
inductive LinkEvent (η : Type) where
  | attached (guard : Nat) (host : η)
  | refused (host : η)
  | released (guard : Nat)
  /-- A guard was given up that had been given up before. -/
  | ignored (guard : Nat)
  /-- A host was called. -/
  | reached (host : η) (c : Call)
  /-- A call found no host. -/
  | missed (c : Call)

/-- An event, and the link after it. -/
structure LinkStep (η : Type) where
  event : LinkEvent η
  link : Link η

/-- An action with the steps that it makes the link take. -/
abbrev Book (η σ α : Type) : Type := Watched (LinkStep η) η σ α

/-- Calls a host, listing the steps of the link. -/
abbrev BookPort (η σ : Type) : Type :=
  η → Call → Book η σ (Except HostError String)

/-! ## Operations with their steps -/

namespace Link

/-- The step of an attempt to attach a host. -/
def attachSteps (host : η) (w : World η σ) : List (LinkStep η) :=
  match attach host w with
  | (.done (.ok guard), w') => [⟨.attached guard host, w'.link⟩]
  | (_, w') => [⟨.refused host, w'.link⟩]

/-- The step of giving up a guard. -/
def releaseSteps (guard : Nat) (w : World η σ) : List (LinkStep η) :=
  [⟨if w.link.live.contains guard then .released guard else .ignored guard,
    (release guard w).link⟩]

def watchCall (p : BookPort η σ) (c : Call) :
    Book η σ (Except HostError String) := fun w =>
  match w.link.slot with
  | none => ((.done (.error .noActiveHost), w), [⟨.missed c, w.link⟩])
  | some h => p h c w

def watchPrint (p : BookPort η σ) (text : String) :
    Book η σ (Except HostError Unit) := fun w =>
  match w.link.slot with
  | none => ((.done (.error .noActiveHost), w), [⟨.missed (.print text), w.link⟩])
  | some h => (p h (.print text)).around
      (fun x w => ((x w).1.map fun _ => .ok (), (x w).2)) w

end Link

namespace LinkOp

def watchUnwinding (p : BookPort η σ) (host : η) :
    Book η σ (Except HostError Unit) := do
  match ← of (Link.attach host) (Link.attachSteps host) with
  | .error e => return .error e
  | .ok guard =>
    let x : Book η σ (Except HostError Unit) := do
      let _ ← Link.watchPrint p beforeUnwind
      plain (Act.exit (.panicked .other))
    x.afterwards (Link.release guard) (Link.releaseSteps guard)

def watch (p : BookPort η σ) : LinkOp η → Book η σ LinkResult
  | .attach host => do
    match ← of (Link.attach host) (Link.attachSteps host) with
    | .ok guard => return .attached guard
    | .error e => return .refused e
  | .drop guard =>
    of (fun w => (.done (.dropped (w.link.live.contains guard)),
      Link.release guard w)) (Link.releaseSteps guard)
  | .cmd command => do return .answered (← Link.watchCall p (.cmd command))
  | .print text => do return .printed (← Link.watchPrint p text)
  | .unwind host => do
    match ← (watchUnwinding p host).around Act.catching with
    | .error _ => return .unwound true
    | .ok _ => return .unwound false

end LinkOp

/-- A call of a host, which is the first of its steps. -/
def Link.calling (h : η) (c : Call) (x : Book η σ α) : Book η σ α := fun w =>
  ((x w).1, ⟨.reached h c, w.link⟩ :: (x w).2)

/-- What a host does with a call, the operations that it carries out on the
link meanwhile included. -/
def Host.Reaction.watch : Reaction η σ (LinkOp η) LinkResult →
    Book η σ (Except HostError String)
  | .reply answer s => plain fun w => (.done answer, { w with host := s })
  | .panic payload s => plain fun w => (.panicked payload, { w with host := s })
  | .hang s => plain fun w => (.stalled, { w with host := s })
  | .note event next => plain (Act.note event) >>= fun _ => next.watch
  | .request op s inside resume =>
    plain (Act.modify fun w => { w with host := s }) >>= fun _ =>
      op.watch (fun h c => Link.calling h c (here fun s => (inside h c s).watch))
        >>= fun a => here fun s => (resume a s).watch

def LinkOp.bookPort (roster : Roster η σ (LinkOp η) LinkResult) : BookPort η σ :=
  fun h c => Link.calling h c (here fun s => (roster h c s).watch)

/-- The steps of the link in a history. -/
def LinkOp.historySteps (p : BookPort η σ) :
    List (LinkOp η) → World η σ → List (LinkStep η)
  | [], _ => []
  | op :: rest, w => (op.watch p w).2 ++ historySteps p rest (op.watch p w).1.2

end DecBridge
