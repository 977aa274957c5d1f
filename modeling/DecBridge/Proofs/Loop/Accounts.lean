import DecBridge.Proofs.Loop.Course
import DecBridge.Proofs.Workbench.Calls

/-!
# Accounts of the loop

A loop whose host is a workbench. Its moments account for all that is written to
the output and to the diagnostics (`Loop.watchAll_accounted`), each of them as long
as it can be written.
The output is what was printed while a line was dispatched, and what the host put
out for a line that was passed to it; the diagnostics are the faults that the trap
reported and the complaints of the loop.

A dispatcher trips the trap at most once for a line, and then the line faulted
(`Dispatcher.dispatch_settles`). The console is followed through the dispatcher by
a coupling with the run that lists its calls (`Workbench.port_shown`).
-/

namespace DecBridge

open Host (Call)

open Output (Fault Sink)

/-! ## Sinks that grow -/

namespace Output.Sink

/-- A sink that was sound got these texts and nothing else, and still is. -/
def Grows (s s' : Sink) (texts : List String) : Prop :=
  s.behaviour = .sound → s'.behaviour = .sound ∧ s'.text = s.text ++ String.join texts

theorem Grows.refl (s : Sink) : Grows s s [] :=
  fun h => ⟨h, by simp⟩

theorem Grows.trans {s s' s'' : Sink} {texts more : List String} (h : Grows s s' texts)
    (h' : Grows s' s'' more) : Grows s s'' (texts ++ more) := by
  intro hsound
  obtain ⟨hsound', htext⟩ := h hsound
  obtain ⟨hsound'', htext'⟩ := h' hsound'
  exact ⟨hsound'', by rw [htext', htext, String.join_append, String.append_assoc]⟩

theorem grows_write (s : Sink) (text : String) : Grows s (s.write text).2 [text] := by
  intro hsound
  rw [write_of_sound hsound]
  exact ⟨hsound, by simp⟩

theorem grows_emit (s : Sink) (text : String) : Grows s (s.emit text).2 [text] := by
  intro hsound
  rw [emit_of_sound hsound]
  exact ⟨hsound, by simp⟩

end Output.Sink

theorem Trap.grows_after (t : Trap) (messages : List String) :
    t.sink.Grows (t.after messages).sink (messages.map fun m => diagnostic (some m)) := by
  intro hsound
  rw [after_of_sound hsound]
  exact ⟨hsound, rfl⟩

/-! ## The trap after a line -/

namespace Dispatcher

variable {η σ α : Type}

/-- The trap has reported the fault of the line, if there was one. -/
def Settles (w : World η σ) (r : Exit Verdict × World η σ) : Prop :=
  r.1.Lasts → r.2.trap = w.trap.after (faultsOf r.1)

theorem Settles.pure {v : Verdict} (h : faultOf v = none) (w : World η σ) :
    Settles w ((Pure.pure v : Act η σ Verdict) w) := by
  intro _
  show w.trap = w.trap.after (faultOf v).toList
  rw [h]
  rfl

theorem Settles.bind {x : Act η σ α} {f : α → Act η σ Verdict} {w : World η σ}
    (hx : Act.Stays w (x w)) (hf : ∀ a w, Settles w (f a w)) : Settles w ((x >>= f) w) := by
  obtain ⟨-, -, htrap⟩ := hx
  show Settles w (Act.bind x f w)
  unfold Act.bind
  generalize x w = r at htrap
  rcases r with ⟨a | q | _ | _ | _, w'⟩
  · intro hlasts
    rw [hf a w' hlasts, htrap]
  · exact fun _ => htrap
  · exact nofun
  · exact nofun
  · exact fun _ => htrap

variable {p : Port η σ} (hp : ∀ h c w, Act.Stays w (p h c w))
include hp

theorem decompile_settles (d : Dispatcher) (around : Surroundings) (host : η)
    (args : List String) (w : World η σ) :
    Settles w (carryOut p d around host (.decompile args) w) := by
  have hsteady : p.Steady := fun h c w _ => ⟨rfl, hp h c w⟩
  refine Settles.bind ⟨trivial, rfl, rfl⟩ fun _ w => ?_
  have hrun := Session.run_untripped_or_tripped (E := d.engine) hsteady
    (d.roots.locator around) d.options args host w
  show Settles w (Act.bind (Session.run d.engine p _ _ host args) _ w)
  unfold Act.bind
  generalize Session.run d.engine p (d.roots.locator around) d.options host args w = r at hrun
  obtain ⟨e, w'⟩ := r
  rcases hrun with ⟨htrap, rfl | ⟨result, rfl, hresult⟩⟩ | ⟨message, -, htrap, hexit⟩
  · exact fun _ => htrap
  · rcases result with e | outcome
    · exact fun _ => htrap
    · intro _
      cases outcome with
      | faulted message => exact absurd rfl (hresult message)
      | completed => exact htrap
      | entryPointMissing => exact htrap
      | scriptFailed message => exact htrap
  · dsimp only at htrap hexit
    split at hexit
    · subst hexit
      exact fun _ => htrap
    · split at hexit <;> subst hexit <;> exact nofun

theorem dispatch_settles (d : Dispatcher) (around : Surroundings) (host : η) (line : String)
    (w : World η σ) : Settles w (d.dispatch p around host line w) := by
  unfold dispatch
  cases Action.route line with
  | none => exact Settles.pure rfl w
  | some action =>
      refine Settles.bind ⟨trivial, rfl, rfl⟩ fun _ w => ?_
      cases action with
      | configQuery => exact Settles.bind (hp host _ w) fun _ => Settles.pure rfl
      | usage => exact Settles.bind (hp host _ w) fun _ => Settles.pure rfl
      | update =>
          refine Settles.bind ⟨trivial, rfl, rfl⟩ fun _ w => Settles.bind (hp host _ w) ?_
          rintro (e | output) w
          · exact Settles.pure rfl w
          · exact Settles.bind (hp host _ w) fun _ => Settles.pure rfl
      | decompile args => exact decompile_settles hp d around host args w

end Dispatcher

/-! ## The console while a line is dispatched -/

namespace Workbench

variable {γ : Type} {c : Child γ}

/-- The console got what was printed. -/
def Shown (console : Sink) (s : Workbench γ) (t : Workbench γ × List Call) : Prop :=
  s = t.1 ∧ console.Grows s.pipe.console (t.2.filterMap Call.printed?)

theorem grows_consoleAfter (console : Sink) (call : Call) :
    console.Grows (consoleAfter console call) ([call].filterMap Call.printed?) := by
  cases call with
  | cmd text => exact Sink.Grows.refl console
  | print text => exact Sink.grows_emit console text

theorem port_shown (console : Sink) :
    Port.Coupled (.ofHosts Unit (Shown console)) (port c) (port c).noting := by
  rintro host call ⟨s, link, trap, log, engines⟩ ⟨⟨s', calls⟩, link', trap', log', engines'⟩
    ⟨⟨hsame, hgrows⟩, hlink, htrap, hlog, hengines⟩
  dsimp only at hsame hgrows hlink htrap hlog hengines
  subst hsame hlink htrap hlog hengines
  obtain ⟨-, -, -, hconsole⟩ := port_spec (c := c) host call ⟨s, link, trap, log, engines⟩
  refine ⟨rfl, .inl trivial, ⟨rfl, ?_⟩, rfl, rfl, rfl, rfl⟩
  show console.Grows _ ((calls ++ [call]).filterMap Call.printed?)
  rw [hconsole, List.filterMap_append]
  exact hgrows.trans (grows_consoleAfter s.pipe.console call)

end Workbench

/-! ## Accounts of the moments -/

namespace Loop

open Dispatcher (faultsOf)

variable {γ α β : Type} {c : Child γ}

/-- The moments account for all that was written. -/
structure Accounts (w : World Unit (Workbench γ))
    (r : (Exit α × World Unit (Workbench γ)) × List Moment) : Prop where
  shown : w.host.pipe.console.Grows r.1.2.host.pipe.console (r.2.flatMap Moment.shown)
  noted : r.1.1.Lasts → w.trap.sink.Grows r.1.2.trap.sink (r.2.flatMap Moment.noted)

def Accounted (x : Watched Moment Unit (Workbench γ) α) : Prop := ∀ w, Accounts w (x w)

theorem Accounted.bind {x : Watched Moment Unit (Workbench γ) α}
    {f : α → Watched Moment Unit (Workbench γ) β} (hx : Accounted x)
    (hf : ∀ a, Accounted (f a)) : Accounted (x >>= f) := by
  intro w
  obtain ⟨hshown, hnoted⟩ := hx w
  rcases (x w).1.1.done_or_broken with ⟨a, hdone⟩ | ⟨b, hbroken⟩
  · obtain ⟨hshown', hnoted'⟩ := hf a (x w).1.2
    have hfirst := hnoted (by rw [hdone]; trivial)
    rw [Watched.bind_of_done f hdone]
    refine ⟨?_, fun hlasts => ?_⟩
    · rw [List.flatMap_append]
      exact hshown.trans hshown'
    · rw [List.flatMap_append]
      exact hfirst.trans (hnoted' hlasts)
  · rw [Watched.bind_of_broken f hbroken]
    refine ⟨hshown, fun hlasts => hnoted ?_⟩
    rw [hbroken]
    rcases b with ⟨⟨⟩⟩ | _ | _ | _ | _ <;> exact hlasts

/-- An action that writes nothing. -/
theorem Accounted.of_silent {x : Act Unit (Workbench γ) α}
    {ms : World Unit (Workbench γ) → List Moment}
    (hms : ∀ w, (ms w).flatMap Moment.shown = [] ∧ (ms w).flatMap Moment.noted = [])
    (hconsole : ∀ w, (x w).2.host.pipe.console = w.host.pipe.console)
    (htrap : ∀ w, (x w).2.trap = w.trap) : Accounted (.of x ms) := by
  intro w
  obtain ⟨hshown, hnoted⟩ := hms w
  refine ⟨?_, fun _ => ?_⟩
  · show Sink.Grows _ (x w).2.host.pipe.console ((ms w).flatMap Moment.shown)
    rw [hconsole, hshown]
    exact Sink.Grows.refl _
  · show Sink.Grows _ (x w).2.trap.sink ((ms w).flatMap Moment.noted)
    rw [htrap, hnoted]
    exact Sink.Grows.refl _

theorem Accounted.pure (a : α) :
    Accounted (Pure.pure a : Watched Moment Unit (Workbench γ) α) :=
  .of_silent (fun _ => ⟨rfl, rfl⟩) (fun _ => rfl) fun _ => rfl

theorem watchDispatch_accounted (d : Dispatcher) (around : Surroundings) (host : Unit)
    (line : String) : Accounted (watchDispatch (Workbench.port c) d around host line) := by
  intro w
  let start : World Unit (Workbench γ × List Call) := { w with host := (w.host, []) }
  let r := d.dispatch (Workbench.port c) around host line w
  let calls := d.calls (Workbench.port c) around host line w
  have hmoments : (watchDispatch (Workbench.port c) d around host line w).2 =
      [.dispatched line calls r.1] := rfl
  obtain ⟨-, -, ⟨-, hshown⟩, -⟩ := d.dispatch_coupled
    (Workbench.port_shown w.host.pipe.console) around host line w start
    ⟨⟨rfl, Sink.Grows.refl _⟩, rfl, rfl, rfl, rfl⟩
  refine ⟨?_, fun hlasts => ?_⟩
  · rw [hmoments, List.flatMap_singleton]
    exact hshown
  · have htrap : r.2.trap = w.trap.after (faultsOf r.1) :=
      d.dispatch_settles Workbench.port_stays around host line w hlasts
    rw [hmoments, List.flatMap_singleton]
    show Sink.Grows _ r.2.trap.sink _
    rw [htrap]
    exact w.trap.grows_after (faultsOf r.1)

theorem watchForward_accounted (host : Unit) (line : String) :
    Accounted (watchForward (Workbench.port c) Workbench.outputPart host line) := by
  refine (Accounted.of_silent (fun _ => ⟨rfl, rfl⟩)
    (fun w => (Workbench.port_spec host (.cmd line) w).console)
    fun w => (Workbench.port_spec host (.cmd line) w).trap).bind ?_
  rintro (e | text)
  · exact Accounted.pure _
  · refine Accounted.bind ?_ ?_
    · exact fun w => ⟨Sink.grows_emit _ text, fun _ => Sink.Grows.refl _⟩
    · rintro (_ | fault)
      · exact Accounted.pure _
      · exact Accounted.pure _

theorem watchExecute_accounted (d : Dispatcher) (around : Surroundings) (host : Unit)
    (line : String) :
    Accounted (watchExecute (Workbench.port c) Workbench.outputPart d around host line) := by
  refine (watchDispatch_accounted d around host line).bind ?_
  rintro (e | dispatched)
  · refine (Accounted.of_silent (fun _ => ⟨rfl, rfl⟩) (fun _ => rfl) fun _ => rfl).bind fun _ => ?_
    refine Accounted.bind ?_ fun _ => Accounted.pure _
    exact fun w => ⟨Sink.Grows.refl _, fun _ => Sink.grows_write _ (e.message ++ "\n")⟩
  · have hreport : Accounted (γ := γ) (.plain (reportOutcome line dispatched)) := by
      refine .of_silent (fun _ => ⟨rfl, rfl⟩) ?_ ?_
      all_goals
        intro w
        cases dispatched with
        | session outcome => cases outcome <;> rfl
        | _ => rfl
    refine hreport.bind fun _ => ?_
    split
    · exact watchForward_accounted host line
    · exact Accounted.pure _

theorem watchAll_accounted (d : Dispatcher) (around : Surroundings) (host : Unit)
    (lines : List (Except Fault String)) :
    Accounted (watchAll (Workbench.port c) Workbench.outputPart d around host lines) := by
  induction lines with
  | nil => exact Accounted.pure _
  | cons line rest ih =>
      cases line with
      | error fault => exact Accounted.pure _
      | ok line =>
          refine (watchExecute_accounted d around host line).bind ?_
          rintro (e | _)
          · exact Accounted.pure _
          · exact ih

end Loop

end DecBridge
