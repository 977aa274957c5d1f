import DecBridge.Proofs.Dispatch.Books
import DecBridge.Proofs.Session.Scripted
import DecBridge.Proofs.Session.Stages

/-!
# Sessions in stages

A session that trips no fault is its stages in a row (`run_staged`): the host is
called as the stages say, one after the other, each stage starts with the engine
as the one before it left it, and the last one decides on the outcome.

What an exception says is found out by the engine, which may have to run code of
the script for it. Whatever that code asks of the host stands between the
exception and its report, as `rendering_calls` shows, and a panic of the host that
the code lets nothing of out is no fault.
-/

namespace DecBridge.Session

open DecBridge.Bundle (Locator)

open Host (Call)

open Script (Eval Heap Value)

variable {E : Engine} {η σ α : Type} {p : Port η σ} {l : Locator} {s s' : State E.State η σ}
  {cs : List Call}

/-! ## Whole sessions -/

theorem Evaluates.slot (hp : p.Steady) {host : η} {name : String}
    (h : Evaluates E p l host name s cs s') (hs : s.world.link.slot = some host) :
    s'.world.link.slot = some host := by
  have hsteady : Act.Steady (evaluate E p.noting l name s.engine) :=
    .of_coupled fun hl => evaluate_coupled E ((Port.noting_steady hp).coupled hl) l name s.engine
  exact Act.Makes.slot hsteady ((evaluate_makes_iff hp hs).mpr h) hs

/-- A session that tripped the trap and still has an outcome is faulted. -/
theorem Tripped.outcome {w : World η σ} {message : String} {outcome : SessionOutcome}
    {r : Exit (Except SessionError SessionOutcome) × World η σ} (h : Tripped w message r)
    (hr : r.1 = .done (.ok outcome)) : outcome = .faulted message := by
  have hexit := hr.symm.trans h.exit
  split at hexit
  · exact Except.ok.inj (Exit.done.inj hexit)
  · split at hexit
    · nomatch hexit
    · nomatch hexit

/-- An object that holds some texts in order. -/
def arrayOf (texts : List String) : Script.Object :=
  ⟨some Script.arrayProto, .array texts.length
    (texts.map fun text => some (Value.ofString text)).toArray, []⟩

theorem raise_run (kind : Script.ErrorKind) (message : String) (h : Heap) :
    ∃ v h', (Eval.raise kind message : Eval α).run h = .done (.error (.thrown v), h') :=
  ⟨_, _, rfl⟩

/-- A host that answers every call. -/
def attentive : Host.Roster Unit Unit (Dispatcher.Line Unit) Dispatcher.Verdict
  | _, _, s => .reply (.ok "") s

def attentivePort : Port Unit Unit := roomyDispatcher.port attentive

/-- Where a session stands once its engine is there. -/
def started (source : String) : State roomy.State Unit Unit :=
  ⟨installed, (startWorld (scripted source) () [] idle).noted installedEvent⟩

end DecBridge.Session
