import DecBridge.Dispatch.Reentry
import DecBridge.Proofs.Session.Coupled
import DecBridge.Proofs.World.Attached

/-!
# Sessions and dispatchers in a busy world

What the functions of a session and of a dispatcher do while some host is in
charge. Everything that goes through callbacks is alike for alike ports
(`drive_alike`), so a session in progress neither touches the link nor trips
the trap before it is over.

In an attached world nobody can tell a dispatcher from one that starts no session
(`dispatch_alike`), which is how a session is kept from running inside another
one.
-/

namespace DecBridge

open DecBridge.Bundle (Locator)

open Host (Call HostError)

open Act (Alike)

open Script (Request)

variable {η σ : Type} {p q : Port η σ}

namespace Session

theorem serveSafely_alike (hp : Port.Alike p q) (l : Locator) (r : Request) :
    Alike (serveSafely p l r) (serveSafely q l r) :=
  .of_coupled fun hl => serveSafely_coupled (hp.coupled hl) l r

theorem print_alike (hp : Port.Alike p q) (text : String) :
    Alike (print p text) (print q text) :=
  .of_coupled fun hl => print_coupled (hp.coupled hl) text

theorem handBack_steady {α : Type} (E : Engine) (r : Crossed E α) :
    Act.Steady (handBack E r : Act η σ (Crossed E α)) :=
  .of_coupled fun _ => handBack_coupled E r

theorem drive_alike (E : Engine) (hp : Port.Alike p q) (l : Locator) (o : SessionOptions)
    (args : List String) (s : E.State) : Alike (drive E p l o args s) (drive E q l o args s) :=
  .of_coupled fun hl => drive_coupled E (hp.coupled hl) l o args s

/-- No session starts in an attached world, whatever is asked of it. -/
theorem run_of_attached (E : Engine) {w : World η σ} (hw : w.link.isAttached = true)
    (l : Locator) (o : SessionOptions) (host : η) (args : List String) :
    run E p l o host args w = (.done (.error (.host .alreadyAttached)), w) := by
  show Act.bind (Link.attach host) _ w = _
  unfold Act.bind
  rw [Link.attach_of_attached hw]
  rfl

end Session

/-! ## Dispatching from inside a call -/

namespace Dispatcher

theorem carryOut_alike (hp : Port.Alike p q) (d : Dispatcher)
    (around : Surroundings) (host : η) (action : Action) :
    Alike (carryOut p d around host action)
      (carryOutBusy q d around host action) := by
  cases action with
  | configQuery => exact (hp host _).bind fun _ => Alike.pure _
  | usage => exact (hp host _).bind fun _ => Alike.pure _
  | update =>
      refine (Alike.note _).bind fun _ => (hp host _).bind ?_
      rintro (e | output)
      · exact Alike.pure _
      · exact (hp host _).bind fun _ => Alike.pure _
  | decompile args =>
      refine (Alike.notes _).bind fun _ => ?_
      intro w hw
      show Act.bind (Session.run d.engine p _ _ host args) _ w = _ ∧
        Act.Stays w (Act.bind (Session.run d.engine p _ _ host args) _ w)
      unfold Act.bind
      rw [Session.run_of_attached d.engine hw]
      exact ⟨rfl, trivial, rfl, rfl⟩

/-- In an attached world a dispatcher cannot be told from one that starts no
sessions. -/
theorem dispatch_alike (hp : Port.Alike p q) (d : Dispatcher)
    (around : Surroundings) (host : η) (line : String) :
    Alike (dispatch p d around host line) (dispatchBusy q d around host line) := by
  unfold dispatch dispatchBusy
  cases Action.route line with
  | none => exact Alike.pure _
  | some action => exact (Alike.note _).bind fun _ => carryOut_alike hp d around host action

theorem port_alike_busy (d : Dispatcher)
    (roster : Host.Roster η σ (Line η) Verdict) :
    Port.Alike (d.port roster) (d.busyPort roster) :=
  port_alike (fun _ _ hp r => dispatch_alike hp d r.around r.host r.text) roster

end Dispatcher

end DecBridge
