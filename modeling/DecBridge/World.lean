import DecBridge.Host.Reaction
import DecBridge.Trap

/-!
# The world of an invocation

What an invocation can change: the state of the hosts, the link that names the host in charge, the
trap, the log, and how many engines there were. An action changes the world and ends with a value, with
a panic that unwinds, with the end of the program, which either unwinds too or is immediate, or not at
all.

`Reaction.perform` carries out what a host does with a call; a request that the host makes meanwhile
is served in the world as it then is.
-/

namespace DecBridge

open Host (HostError Call Reaction)

/-! ## The link -/

/-- Names the host that callbacks reach. Whoever attached a host holds a guard, and the host is
detached when the guard is given up. -/
structure Link (η : Type) where
  slot : Option η := none
  /-- Guards that were not given up. -/
  live : List Nat := []
  /-- Number of guards ever handed out. -/
  issued : Nat := 0

/-! ## Worlds and actions -/

/-- The script engines of the program so far. -/
structure Engines where
  /-- How many there were. -/
  created : Nat := 0
  /-- How many of them were given up without being taken down; what these hold stays held. -/
  abandoned : Nat := 0
  deriving DecidableEq, Inhabited, Repr

structure World (η σ : Type) where
  host : σ
  link : Link η
  trap : Trap
  log : Array Log.Event
  engines : Engines := {}

/-- How an action ends. -/
inductive Exit (α : Type) : Type where
  | done (a : α)
  | panicked (payload : Payload)
  /-- The program ends, and what is under way is unwound first. -/
  | terminated
  /-- The program ended, and nothing that was under way goes on. -/
  | killed
  | stalled
  deriving DecidableEq, Inhabited, Repr

/-- Changes the value of an exit that has one. -/
def Exit.map {α β : Type} (f : α → β) : Exit α → Exit β
  | .done a => .done (f a)
  | .panicked p => .panicked p
  | .terminated => .terminated
  | .killed => .killed
  | .stalled => .stalled

def Act (η σ α : Type) : Type := World η σ → Exit α × World η σ

namespace Act

variable {η σ α β : Type}

def pure (a : α) : Act η σ α := fun w => (.done a, w)

def bind (x : Act η σ α) (f : α → Act η σ β) : Act η σ β := fun w =>
  match x w with
  | (.done a, w) => f a w
  | (.panicked p, w) => (.panicked p, w)
  | (.terminated, w) => (.terminated, w)
  | (.killed, w) => (.killed, w)
  | (.stalled, w) => (.stalled, w)

instance : Monad (Act η σ) where
  pure := pure
  bind := bind

/-- Goes on with the value of an action that may end with an error. -/
def proceed {ε : Type} (x : Act η σ (Except ε α)) (f : α → Act η σ (Except ε β)) :
    Act η σ (Except ε β) :=
  bind x fun
    | .ok a => f a
    | .error e => pure (.error e)

/-- Ends with an exit, changing nothing. -/
def exit (e : Exit α) : Act η σ α := fun w => (e, w)

def modify (f : World η σ → World η σ) : Act η σ Unit := fun w => (.done (), f w)

/-- Reports to the log. -/
def note (e : Log.Event) : Act η σ Unit := modify fun w => { w with log := w.log.push e }

def notes (es : List Log.Event) : Act η σ Unit := modify fun w => { w with log := w.log ++ es.toArray }

/-- Runs an action and stops a panic that unwinds out of it. -/
def catching (x : Act η σ α) : Act η σ (Except Payload α) := fun w =>
  match x w with
  | (.done a, w) => (.done (.ok a), w)
  | (.panicked p, w) => (.done (.error p), w)
  | (.terminated, w) => (.terminated, w)
  | (.killed, w) => (.killed, w)
  | (.stalled, w) => (.stalled, w)

/-- Runs an action and then changes the world, however it ended, unless nothing goes on any more. -/
def afterwards (x : Act η σ α) (f : World η σ → World η σ) : Act η σ α := fun w =>
  match x w with
  | (.killed, w) => (.killed, w)
  | (e, w) => (e, f w)

end Act

/-- Trips the trap: the fault is reported, and then the policy decides whether the program goes on. -/
def Trap.trip {η σ : Type} (message : Option String) : Act η σ Unit := fun w =>
  let (trap, events) := w.trap.report message
  let after := { w with trap, log := w.log ++ events.toArray }
  if !trap.terminates then (.done (), after)
  else if trap.unwinds then (.terminated, after)
  else (.killed, after)

/-! ## Attaching and releasing -/

namespace Link

def logTarget : String := "pdw_host::link"

def attachedEvent : Log.Event := ⟨.debug, logTarget, "host attached", []⟩

def detachedEvent : Log.Event := ⟨.debug, logTarget, "host detached", []⟩

variable {η σ : Type}

/-- Puts a host in charge and hands out a guard, unless some host is in charge already. -/
def attach (h : η) : Act η σ (Except HostError Nat) := fun w =>
  if w.link.slot.isSome then (.done (.error .alreadyAttached), w)
  else
    let guard := w.link.issued
    let link := { slot := some h, live := guard :: w.link.live, issued := guard + 1 }
    (.done (.ok guard), { w with link, log := w.log.push attachedEvent })

/-- Gives up a guard, which detaches its host; a guard that was given up before has no effect. -/
def release (guard : Nat) (w : World η σ) : World η σ :=
  if w.link.live.contains guard then
    let link := { w.link with slot := none, live := w.link.live.erase guard }
    { w with link, log := w.log.push detachedEvent }
  else w

/-- Whether some host is in charge. -/
def isAttached (l : Link η) : Bool := l.slot.isSome

/-- The link as a record. -/
def shown (l : Link η) : String :=
  "HostLink \x7b attached: " ++ (if l.isAttached then "true" else "false") ++ " \x7d"

end Link

/-! ## Calling hosts -/

/-- Calls a host. -/
abbrev Port (η σ : Type) : Type := η → Call → Act η σ (Except HostError String)

/-- Carries out what a host does with a call; `serve` serves a request that it makes meanwhile,
calling hosts through the port it is given. -/
def Host.Reaction.perform {η σ ρ α : Type} (serve : Port η σ → ρ → Act η σ α) :
    Reaction η σ ρ α → Act η σ (Except HostError String)
  | .reply answer s => fun w => (.done answer, { w with host := s })
  | .panic payload s => fun w => (.panicked payload, { w with host := s })
  | .hang s => fun w => (.stalled, { w with host := s })
  | .note event next => fun w => next.perform serve { w with log := w.log.push event }
  | .request r s inside resume => fun w =>
    match serve (fun h c w => (inside h c w.host).perform serve w) r { w with host := s } with
    | (.done a, w) => (resume a w.host).perform serve w
    | (.panicked p, w) => (.panicked p, w)
    | (.terminated, w) => (.terminated, w)
    | (.killed, w) => (.killed, w)
    | (.stalled, w) => (.stalled, w)

/-- The port of a roster of hosts. -/
def port {η σ ρ α : Type} (serve : Port η σ → ρ → Act η σ α) (roster : Host.Roster η σ ρ α) : Port η σ :=
  fun h c w => (roster h c w.host).perform serve w

namespace Link

variable {η σ : Type}

/-- Calls the host in charge. -/
def call (p : Port η σ) (c : Call) : Act η σ (Except HostError String) := fun w =>
  match w.link.slot with
  | none => (.done (.error .noActiveHost), w)
  | some h => p h c w

/-- Issues a command to the host in charge. -/
def cmd (p : Port η σ) (command : String) : Act η σ (Except HostError String) :=
  call p (.cmd command)

/-- Prints through the host in charge. -/
def print (p : Port η σ) (text : String) : Act η σ (Except HostError Unit) := fun w =>
  match w.link.slot with
  | none => (.done (.error .noActiveHost), w)
  | some h =>
    let (e, w) := p h (.print text) w
    (e.map fun _ => .ok (), w)

end Link

end DecBridge
