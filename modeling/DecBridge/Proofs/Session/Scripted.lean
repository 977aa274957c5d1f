import Mathlib.Control.Monad.Basic
import DecBridge.Dispatch.Reentry
import DecBridge.Proofs.Bundle.Flat
import DecBridge.Proofs.Session.Listed
import DecBridge.Script.Interpreter

/-!
# Sessions of a single script

Bundles that hold an entry script and nothing else, and the interpreter as their
engine. Such sessions can be evaluated, once the two files are looked up.
-/

namespace DecBridge

open DecBridge.Bundle (Locator)

/-- The interpreter with room for anything; everything lies at the address zero. -/
def roomy : Engine := Script.interpreter ⟨0, 0, 1, 1000⟩ fun _ => default

/-- A dispatcher of sessions with that engine. -/
def roomyDispatcher : Dispatcher := ⟨roomy, {}, .environment none⟩

namespace Session

/-- A bundle that has an entry script only, in a directory that the environment names. -/
def scripted (source : String) : Locator :=
  { Locator.flat [("r2dec-duk.js", source)] with root := some ⟨"/", .environment⟩ }

theorem load_bootstrap {o : SessionOptions} (ho : o = {}) (source : String) :
    (scripted source).load o.bootstrap = .error (.notFound "require.js" "/") := by
  rw [ho]
  exact Locator.load_flat_of_none (by decide +kernel) rfl

theorem load_entry {o : SessionOptions} (ho : o = {}) {source : String} (h : source ≠ "") :
    (scripted source).load o.entry = .ok source := by
  rw [ho]
  exact Locator.load_flat_of_some (by decide +kernel) rfl h

/-- Surroundings with that bundle. -/
def alone (source : String) : Surroundings := ⟨(scripted source).files, ⟨some [47], none⟩⟩

theorem locator_alone {d : Dispatcher} (hd : d.roots = .environment none) (source : String) :
    d.roots.locator (alone source) = scripted source := by
  have hroot : (⟨some [47], none⟩ : Bundle.Environment).resolve none =
      some ⟨"/", .environment⟩ := by decide +kernel
  rw [hd]
  exact congrArg (Locator.mk (scripted source).files) hroot

/-- Nothing is attached, and the program goes on after a fault. -/
def idle : World Unit Unit := ⟨(), {}, ⟨.contain, {}, false⟩, #[], {}⟩

/-- The heap of a new engine, before the callbacks are there. -/
def newHeap : roomy.State := Script.newHeap (Script.Sizes.budget ⟨0, 0, 1, 1000⟩ ⟨none, none⟩) default

/-- The heap of a new engine with the callbacks. -/
def installed : roomy.State := Script.withCallbacks newHeap

/-- The session of a script with a host of that roster, and its moments. -/
def sessionOf (roster : Host.Roster Unit Unit (Dispatcher.Line Unit) Dispatcher.Verdict)
    (source : String) :
    (Exit (Except SessionError SessionOutcome) × World Unit Unit) × List (Moment Unit Unit) :=
  watchRun roomy (roomyDispatcher.port roster) (scripted source) {} () [] idle

section SessionOf

variable (roster : Host.Roster Unit Unit (Dispatcher.Line Unit) Dispatcher.Verdict)
  (source : String)

theorem run_scripted : run roomy (roomyDispatcher.port roster) (scripted source) {} () [] idle =
    (sessionOf roster source).1 := by
  rw [sessionOf, watchRun_eq]

end SessionOf

end Session

end DecBridge
