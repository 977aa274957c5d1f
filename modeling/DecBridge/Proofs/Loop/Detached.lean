import DecBridge.Proofs.Dispatch.Calls
import DecBridge.Proofs.Dispatch.Seen
import DecBridge.Proofs.Loop.Course

/-!
# Who is in charge between the lines

A line leaves nobody in charge if nobody was, whatever becomes of it: its session
gives the host up even if it failed or faulted. So every line of the loop is
dispatched while nobody is in charge, and nobody is in charge when the loop is over
(`watchAll_detached`), unless the program is gone at once.

An engine that was given up keeps holding the link, but the link holds no host then.
-/

namespace DecBridge.Loop

open Host (Call HostError Part)

open Output (Fault Sink)

variable {η σ α β : Type}

/-- A line is dispatched while nobody is in charge. -/
def Moment.Detached (p : Port η σ) (d : Dispatcher) (around : Surroundings) (host : η) :
    Moment → Prop
  | .dispatched line calls result => ∃ w : World η σ, w.link.slot = none ∧
      calls = d.calls p around host line w ∧ result = (d.dispatch p around host line w).1
  | .passed _ _ | .wrote _ _ | .complained _ => True

section Detached

variable {p : Port η σ} {out : Part σ Sink} {d : Dispatcher} {around : Surroundings} {host : η}

/-- A part of the loop that starts and ends with nobody in charge. -/
def Detached (p : Port η σ) (d : Dispatcher) (around : Surroundings) (host : η)
    (x : Watched Moment η σ α) : Prop :=
  ∀ w, w.link.slot = none → (∀ m ∈ (x w).2, m.Detached p d around host) ∧
    ((x w).1.1 = .killed ∨ (x w).1.2.link.slot = none)

theorem Detached.bind {x : Watched Moment η σ α} {f : α → Watched Moment η σ β}
    (hx : Detached p d around host x) (hf : ∀ a, Detached p d around host (f a)) :
    Detached p d around host (x >>= f) := by
  intro w hw
  obtain ⟨hms, hslot⟩ := hx w hw
  rcases (x w).1.1.done_or_broken with ⟨a, hdone⟩ | ⟨b, hbroken⟩
  · rw [hdone] at hslot
    obtain ⟨hms', hslot'⟩ := hf a (x w).1.2 (hslot.resolve_left nofun)
    rw [Watched.bind_of_done f hdone]
    refine ⟨fun m hm => ?_, hslot'⟩
    rcases List.mem_append.mp hm with hm | hm
    · exact hms m hm
    · exact hms' m hm
  · rw [Watched.bind_of_broken f hbroken]
    refine ⟨hms, hslot.imp_left fun hkilled => ?_⟩
    rw [hbroken] at hkilled
    rcases b with ⟨⟨⟩⟩ | _ | _ | _ | _ <;> first | rfl | cases hkilled

/-- An action that restores the link, and in whose moments no line is dispatched. -/
theorem Detached.of {x : Act η σ α} {ms : World η σ → List Moment} (hx : x.Restores)
    (hms : ∀ w, w.link.slot = none → ∀ m ∈ ms w, m.Detached p d around host) :
    Detached p d around host (.of x ms) :=
  fun w hw => ⟨hms w hw, (hx w).imp_right fun hslot => hslot.trans hw⟩

theorem Detached.plain {x : Act η σ α} (hx : x.Restores) : Detached p d around host (.plain x) :=
  .of hx fun _ _ _ hm => nomatch hm

theorem Detached.pure (a : α) : Detached p d around host (Pure.pure a) := .plain (.pure a)

variable (hp : p.Steady) (hcall : ∀ h c, (p h c).Restores)
include hcall

theorem watchForward_detached (line : String) :
    Detached p d around host (watchForward p out host line) := by
  refine Detached.bind (.of (hcall host _) fun w _ m hm => ?_) ?_
  · obtain rfl := List.mem_singleton.mp hm
    trivial
  · rintro (e | text)
    · exact .pure _
    · refine Detached.bind (.of (fun _ => .inr rfl) fun w _ m hm => ?_) ?_
      · obtain rfl := List.mem_singleton.mp hm
        trivial
      · rintro (_ | fault)
        · exact .pure _
        · exact .pure _

include hp

theorem watchExecute_detached (line : String) :
    Detached p d around host (watchExecute p out d around host line) := by
  have hdispatch : Detached p d around host (watchDispatch p d around host line) := by
    refine .of (d.dispatch_restores hp hcall around host line) fun w hw m hm => ?_
    obtain rfl := List.mem_singleton.mp hm
    exact ⟨w, hw, rfl, rfl⟩
  refine hdispatch.bind ?_
  rintro (e | dispatched)
  · refine Detached.bind (.plain (.note _)) fun _ => Detached.bind ?_ fun _ => .pure _
    refine .of (fun _ => .inr rfl) fun w _ m hm => ?_
    obtain rfl := List.mem_singleton.mp hm
    trivial
  · have hreport : (reportOutcome line dispatched : Act η σ Unit).Restores := by
      cases dispatched with
      | session outcome => cases outcome <;> exact fun _ => .inr rfl
      | _ => exact .pure _
    refine Detached.bind (.plain hreport) fun _ => ?_
    split
    · exact watchForward_detached hcall line
    · exact .pure _

theorem watchAll_detached (lines : List (Except Fault String)) :
    Detached p d around host (watchAll p out d around host lines) := by
  induction lines with
  | nil => exact .pure _
  | cons line rest ih =>
      cases line with
      | error fault => exact .pure _
      | ok line =>
          refine (watchExecute_detached hp hcall line).bind ?_
          rintro (e | _)
          · exact .pure _
          · exact ih

end Detached

end DecBridge.Loop
