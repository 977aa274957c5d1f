import DecBridge.World

/-!
# Histories of a link

The operations that are open to the holders of a link, as data, so that whole histories can be spoken
of. Every holder of a link sees the same link, so an operation does not say through which
of its copies it goes.
-/

namespace DecBridge

open Host (HostError)

inductive LinkOp (η : Type) where
  | attach (host : η)
  | drop (guard : Nat)
  | cmd (command : String)
  | print (text : String)
  /-- Attaches a host, prints through it and panics; the guard is given up by the unwinding. -/
  | unwind (host : η)
  deriving Inhabited

inductive LinkResult where
  | attached (guard : Nat)
  | refused (e : HostError)
  | dropped (wasLive : Bool)
  | answered (r : Except HostError String)
  | printed (r : Except HostError Unit)
  | unwound (wasAttached : Bool)

namespace LinkOp

variable {η σ : Type}

/-- What is printed before an unwinding. -/
def beforeUnwind : String := "before unwind"

/-- Attaches a host, prints, and panics. -/
def unwinding (p : Port η σ) (host : η) : Act η σ (Except HostError Unit) := do
  match ← Link.attach host with
  | .error e => return .error e
  | .ok guard =>
    let x : Act η σ (Except HostError Unit) := do
      let _ ← Link.print p beforeUnwind
      Act.exit (.panicked .other)
    x.afterwards (Link.release guard)

def perform (p : Port η σ) : LinkOp η → Act η σ LinkResult
  | .attach host => do
    match ← Link.attach host with
    | .ok guard => return .attached guard
    | .error e => return .refused e
  | .drop guard => fun w => (.done (.dropped (w.link.live.contains guard)), Link.release guard w)
  | .cmd command => do return .answered (← Link.cmd p command)
  | .print text => do return .printed (← Link.print p text)
  | .unwind host => do
    match ← (unwinding p host).catching with
    | .error _ => return .unwound true
    | .ok _ => return .unwound false

/-- The port of hosts that use the link while they are called. -/
def port (roster : Host.Roster η σ (LinkOp η) LinkResult) : Port η σ :=
  DecBridge.port perform roster

/-- Carries out operations one after the other, whatever comes of each. -/
def history (p : Port η σ) (ops : List (LinkOp η)) (w : World η σ) : World η σ :=
  ops.foldl (fun w op => (op.perform p w).2) w

end LinkOp

end DecBridge
