import DecBridge.Proofs.Dispatch.Calls
import DecBridge.Proofs.Dispatch.Seen
import DecBridge.Proofs.Session.Scripted

/-!
# Lines do not hear of earlier lines

A dispatcher keeps its link and its trap from line to line, and nothing of the
engine. Between two lines nobody is in charge (`Reached.detached`) and the trap
is the first one after some faults (`Reached.trap`), however the earlier lines
ended. So the world looks like that of a new dispatcher, and `lines_isolated`
follows from `dispatch_seen`: the next line has the same result, makes the same
calls of hosts, leaves them in the same states and reports the same faults.

Two things can be seen of earlier lines (`lines_seen`). A line that is handed in
during a session is refused. And an engine says of a thrown object where it lies,
so the engines of the two lines have to lie in the same places.
-/

namespace DecBridge

open Host (Call)

/-- The action is over and whoever asked for it hears of that, if only by a panic
or by the unwinding of the program. -/
def Exit.Returns {α : Type} : Exit α → Prop
  | .killed | .stalled => False
  | _ => True

namespace Dispatcher

variable {η σ : Type}

/-- The world of a dispatcher that was given no line yet. -/
def created (s : σ) (t : Trap) (log : Array Log.Event) (engines : Engines) : World η σ :=
  ⟨s, {}, t, log, engines⟩

/-- The worlds between the lines of a dispatcher. Each line may find other hosts
and other surroundings, and between two lines the hosts may do what they want and
others may have engines. -/
inductive Reached (d : Dispatcher) (t : Trap) : World η σ → Prop
  | created (s : σ) (log : Array Log.Event) (engines : Engines) :
      Reached d t (created s t log engines)
  | line {w : World η σ} (roster : Host.Roster η σ (Line η) Verdict) (r : Line η)
      (hw : Reached d t w)
      (hreturns : (d.dispatch (d.port roster) r.around r.host r.text w).1.Returns) :
      Reached d t (d.dispatch (d.port roster) r.around r.host r.text w).2
  | meanwhile {w : World η σ} (s : σ) (log : Array Log.Event) (engines : Engines)
      (hw : Reached d t w) : Reached d t { w with host := s, log, engines }

theorem Reached.detached {d : Dispatcher} {t : Trap} {w : World η σ} (hw : d.Reached t w) :
    w.link.slot = none := by
  induction hw with
  | created s log engines => rfl
  | meanwhile s log engines hw ih => exact ih
  | @line w roster r hw hreturns ih =>
      have hslot := dispatch_restores (d.port_steady roster) (d.port_restores roster) d
        r.around r.host r.text w
      rcases hslot with hkilled | hslot
      · rw [hkilled] at hreturns
        exact hreturns.elim
      · exact hslot.trans ih

theorem port_seen_self {t t' : Trap} (ht : t.Akin t') (d : Dispatcher)
    (roster : Host.Roster η σ (Line η) Verdict) :
    Port.Coupled (.seen η Eq t t') (d.port roster) (d.port roster) := by
  refine d.port_seen ht ?_
  rintro host c s _ rfl
  exact .refl _

theorem Reached.trap {d : Dispatcher} {t : Trap} {w : World η σ} (hw : d.Reached t w) :
    ∃ faults, w.trap = t.after faults := by
  induction hw with
  | created s log engines => exact ⟨[], rfl⟩
  | meanwhile s log engines hw ih => exact ih
  | @line w roster r hw hreturns ih =>
      obtain ⟨faults, htrap⟩ := ih
      -- the line beside itself: what the trap has heard is part of the relation
      have hakin : t.Akin t := ⟨rfl, rfl⟩
      obtain ⟨-, -, -, -, -, faults', htrap', -⟩ :=
        dispatch_seen hakin (port_seen_self hakin d roster) (d.port_steady roster)
          (d.port_steady roster) d rfl r.host r.text w w ⟨rfl, rfl, rfl, faults, htrap, htrap⟩
      exact ⟨faults', htrap'⟩

/-- A line does not hear of earlier lines.

A line that is handed in while no session of the dispatcher is under way ends as
it would on a new dispatcher with a trap that ends the program alike, if the
engines of the two lie in the same places: with the same result or error, after
the same calls of hosts, which are left in the same states, and with the same
faults reported to the trap. Surroundings count only by the scripts that are found
in them then, and a decompilation finds its own in those of its moment. Between
two lines no session is under way, whatever the lines were and however they ended,
and the trap ends the program as the first one did. -/
theorem lines_isolated (d : Dispatcher) {w : World η σ} (hfree : w.link.isAttached = false)
    {t' : Trap} (ht : w.trap.Akin t') {engines : Engines}
    (hplaces : w.engines.created = engines.created)
    (roster : Host.Roster η σ (Line η) Verdict) (host : η) (line : String)
    {around around' : Surroundings} (haround : d.roots.locator around = d.roots.locator around')
    (log : Array Log.Event) :
    let p := d.port roster
    let new := created w.host t' log engines
    let later := d.dispatch p around host line w
    let first := d.dispatch p around' host line new
    (later.1 = first.1 ∧
      later.2.host = first.2.host ∧
      d.calls p around host line w = d.calls p around' host line new ∧
      (∃ faults, later.2.trap = w.trap.after faults ∧ first.2.trap = t'.after faults) ∧
      ∀ args, Action.route line = some (.decompile args) → ∃ log', later.1 =
        (Session.run d.engine p (d.roots.locator around) d.options host args
          { w with log := log' }).1.map verdictOn) ∧
    ∀ (t : Trap) (v : World η σ), d.Reached t v →
      v.link.isAttached = false ∧ ∃ faults, v.trap = t.after faults := by
  dsimp only
  have hslot : w.link.slot = none := by simpa [Link.isAttached] using hfree
  have hport := port_seen_self ht d roster
  have hsteady := d.port_steady roster
  have hseen : (Coupling.seen η Eq w.trap t').holds w (created w.host t' log engines) :=
    ⟨rfl, hslot, hplaces, [], rfl, rfl⟩
  obtain ⟨hexit, -, hhost, -, -, hfaults⟩ :=
    dispatch_seen ht hport hsteady hsteady d haround host line _ _ hseen
  -- the same lines once more, with a list of the calls
  have hnoted := dispatch_seen ht (Port.noting_seen hport) (Port.noting_steady hsteady)
    (Port.noting_steady hsteady) d haround host line { w with host := (w.host, []) }
    { (created w.host t' log engines : World η σ) with host := (w.host, []) }
    ⟨⟨rfl, rfl⟩, hseen.2⟩
  refine ⟨⟨hexit, hhost, hnoted.2.2.1.2, hfaults,
    fun args hline =>
      ⟨_, congrArg Prod.fst (dispatch_decompile _ d around host hline w)⟩⟩, fun t v hv => ⟨?_, hv.trap⟩⟩
  unfold Link.isAttached
  rw [hv.detached]
  rfl

/-! ## A fault and the line after it -/

/-- A host that panics on its first command. -/
def startled : Host.Roster Unit Bool (Line Unit) Verdict
  | _, .cmd _, false => .panic (.text "boom") true
  | _, .cmd _, true => .reply (.ok "") true
  | _, .print _, s => .reply (.ok "") s

/-- A script that leaves a global behind and takes a callback away, and that first
prints what it finds of both. -/
def littering : String :=
  "console.log(typeof mark, typeof r2cmd); var mark = 1, ask = r2cmd; r2cmd = null; ask('x');"

/-- The trap of a dispatcher that contains faults. -/
def containing : Trap := ⟨.contain, {}, false⟩

/-- A decompilation with that script. -/
def littered (w : World Unit Bool) : Exit Verdict × World Unit Bool :=
  roomyDispatcher.dispatch (roomyDispatcher.port startled) (Session.alone littering) () "pdw" w

/-- The calls of that decompilation. -/
def litteredCalls (w : World Unit Bool) : List Call :=
  roomyDispatcher.calls (roomyDispatcher.port startled) (Session.alone littering) () "pdw" w

theorem littered_twice :
    let first := littered (created false containing #[] {})
    (first.1 = .done (.ok (.session (.faulted "boom"))) ∧ first.2.engines = ⟨1, 1⟩ ∧
      first.2.host = true) ∧
    (littered first.2).1 = .done (.ok (.session .entryPointMissing)) ∧
    litteredCalls first.2 =
      [.print "undefined function\n", .cmd "x", .print Session.guidance] := by
  have hpdw : Action.route "pdw" = some (.decompile []) := by decide +kernel
  dsimp only
  unfold littered litteredCalls calls
  simp only [dispatch, hpdw, carryOut, Session.locator_alone (d := roomyDispatcher) rfl,
    Session.run, Session.runAttached, Session.drive, Session.evaluate]
  rw [Session.load_bootstrap (o := roomyDispatcher.options) rfl,
    Session.load_entry (o := roomyDispatcher.options) rfl (by decide)]
  decide +kernel

/-- After a session that was given up for a fault, and whose engine is still there,
the same script finds its global gone and the callback back, as on a new
dispatcher. -/
theorem lines_isolated_after_fault :
    let first := littered (created false containing #[] {})
    let new := created true containing #[] ⟨1, 0⟩
    (first.1 = .done (.ok (.session (.faulted "boom"))) ∧ first.2.engines.abandoned = 1 ∧
      roomyDispatcher.Reached containing first.2) ∧
    ((littered first.2).1 = .done (.ok (.session .entryPointMissing)) ∧
      (littered first.2).1 = (littered new).1) ∧
    litteredCalls first.2 =
      [.print "undefined function\n", .cmd "x", .print Session.guidance] ∧
    litteredCalls first.2 = litteredCalls new := by
  have hfirst := littered_twice
  dsimp only at hfirst ⊢
  have hreached : (littered (created false containing #[] {})).1.Returns →
      roomyDispatcher.Reached containing (littered (created false containing #[] {})).2 :=
    .line startled ⟨(), "pdw", Session.alone littering⟩ (.created false #[] {})
  generalize littered (created false containing #[] {}) = first at hfirst hreached ⊢
  obtain ⟨⟨hfaulted, hengines, hhost⟩, hnext, hcalls⟩ := hfirst
  replace hreached := hreached (by rw [hfaulted]; trivial)
  obtain ⟨faults, htrap⟩ := hreached.trap
  have hfree : first.2.link.isAttached = false := by
    unfold Link.isAttached
    rw [hreached.detached]
    rfl
  have hakin : first.2.trap.Akin containing := by
    rw [htrap]
    exact Trap.Akin.after ⟨rfl, rfl⟩ faults []
  have hplaces : first.2.engines.created = (⟨1, 0⟩ : Engines).created := by rw [hengines]
  obtain ⟨⟨hsame, -, hsameCalls, -⟩, -⟩ := roomyDispatcher.lines_isolated hfree hakin hplaces
    startled () "pdw" (@rfl _ (roomyDispatcher.roots.locator (Session.alone littering))) #[]
  rw [hhost] at hsame hsameCalls
  exact ⟨⟨hfaulted, by rw [hengines], hreached⟩, ⟨hnext, hsame⟩, hcalls, hsameCalls⟩

/-! ## What can be seen of earlier lines -/

/-- A dispatcher whose engines lie one behind the other. -/
def sprawling : Dispatcher :=
  ⟨Script.interpreter ⟨0, 0, 1, 1000⟩ fun n => ⟨fun r => 65536 * (n + 1) + r, fun _ => 0⟩, {},
    .environment none⟩

/-- A host that answers every call. -/
def obliging : Host.Roster Unit Unit (Line Unit) Verdict
  | _, _, s => .reply (.ok "") s

/-- A script that throws an object. -/
def throwing : String := "throw \x7b\x7d"

/-- A script that calls its host if it has no arguments. -/
def repeating : String :=
  "function r2dec_main(args) \x7b if (args.length === 0) \x7b console.log(r2cmd('again')); \x7d \x7d"

/-- A host that asks for a session of its own whenever it is to carry out a command,
and keeps what it is told. -/
def insisting : Host.Roster Unit (List Verdict) (Line Unit) Verdict
  | _, .cmd _, s =>
    .request ⟨(), "pdw x", Session.alone repeating⟩ s (fun _ _ s => .reply (.ok "") s)
      fun verdict s => .reply (.ok "") (s ++ [verdict])
  | _, .print _, s => .reply (.ok "") s

/-- The calls of a decompilation with the script that throws. -/
def thrownCalls (w : World Unit Unit) : List Call :=
  sprawling.calls (sprawling.port obliging) (Session.alone throwing) () "pdw" w

/-- A decompilation with the script that calls its host. -/
def repeated (line : String) : Exit Verdict × World Unit (List Verdict) :=
  roomyDispatcher.dispatch (roomyDispatcher.port insisting) (Session.alone repeating) () line
    (created [] containing #[] {})

theorem thrownCalls_twice :
    (sprawling.dispatch (sprawling.port obliging) (Session.alone throwing) () "pdw"
      (created () containing #[] {})).1 = .done (.ok (.session .entryPointMissing)) ∧
    thrownCalls (sprawling.dispatch (sprawling.port obliging) (Session.alone throwing) () "pdw"
      (created () containing #[] {})).2 ≠ thrownCalls (created () containing #[] {}) := by
  have hpdw : Action.route "pdw" = some (.decompile []) := by decide +kernel
  unfold thrownCalls calls
  simp only [dispatch, hpdw, carryOut, Session.locator_alone (d := sprawling) rfl,
    Session.run, Session.runAttached, Session.drive, Session.evaluate]
  rw [Session.load_bootstrap (o := sprawling.options) rfl,
    Session.load_entry (o := sprawling.options) rfl (by decide)]
  decide +kernel

theorem repeated_inside :
    (repeated "pdw").2.host = [refusal] ∧
      (repeated "pdw x").1 = .done (.ok (.session .completed)) := by
  have hpdw : Action.route "pdw" = some (.decompile []) := by decide +kernel
  have hpdwx : Action.route "pdw x" = some (.decompile ["x"]) := by decide +kernel
  unfold repeated
  simp only [dispatch, hpdw, hpdwx, carryOut, Session.locator_alone (d := roomyDispatcher) rfl,
    Session.run, Session.runAttached, Session.drive, Session.evaluate]
  rw [Session.load_bootstrap (o := roomyDispatcher.options) rfl,
    Session.load_entry (o := roomyDispatcher.options) rfl (by decide)]
  decide +kernel

/-- A line that comes while another is under way is refused, though a new dispatcher
runs it. And a line that comes after another has something else printed than on a
new dispatcher, if its engine lies elsewhere. -/
theorem lines_seen :
    ((repeated "pdw").2.host = [refusal] ∧
      (repeated "pdw x").1 = .done (.ok (.session .completed))) ∧
    ∃ w : World Unit Unit, sprawling.Reached containing w ∧ w.host = () ∧
      thrownCalls w ≠ thrownCalls (created () containing #[] {}) := by
  obtain ⟨hexit, hcalls⟩ := thrownCalls_twice
  refine ⟨repeated_inside, _, ?_, rfl, hcalls⟩
  refine .line obliging ⟨(), "pdw", Session.alone throwing⟩ (.created () #[] {}) ?_
  rw [hexit]
  trivial

end Dispatcher

end DecBridge
