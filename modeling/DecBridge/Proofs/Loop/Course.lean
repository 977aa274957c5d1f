import DecBridge.Loop.Course
import DecBridge.Proofs.Dispatch.Books
import DecBridge.Proofs.Session.Listed

/-!
# The course of the command loop

Watching the loop changes nothing (`watchAll_act`), the host is called for the
moments and for nothing else (`watchAll_lists`), and whatever the hosts do, the
moments are the course of the lines (`watchAll_course`).
-/

namespace DecBridge

open Host (Call HostError Part)

open Output (Fault Sink)

variable {η σ : Type}

theorem Dispatched.forHost_iff {d : Dispatched} : d.ForHost ↔ d.forwards = true := by
  cases d <;> simp [ForHost, forwards]

namespace Loop

/-! ## Watching the loop -/

section Watching

variable (p : Port η σ) (out : Part σ Sink) (d : Dispatcher) (around : Surroundings)
  (host : η)

theorem watchForward_act (line : String) :
    (watchForward p out host line).act = forward p out host line := by
  unfold watchForward forward
  rw [Watched.act_bind]
  congr 1
  funext answer
  cases answer with
  | error e => rfl
  | ok text =>
      rw [Watched.act_bind]
      congr 1
      funext fault
      cases fault with
      | none => rfl
      | some fault => rfl

theorem watchExecute_act (line : String) :
    (watchExecute p out d around host line).act = execute p out d around host line := by
  unfold watchExecute execute
  rw [Watched.act_bind]
  congr 1
  funext result
  cases result with
  | error e => simp only [Watched.act_bind, Watched.act_plain, Watched.act_of, Watched.act_pure]
  | ok dispatched =>
      dsimp only
      rw [Watched.act_bind]
      congr 1
      funext _
      split
      · exact watchForward_act p out host line
      · rfl

/-- Watching the loop changes nothing. -/
theorem watchAll_act (lines : List (Except Fault String)) :
    (watchAll p out d around host lines).act = executeAll p out d around host lines := by
  induction lines with
  | nil => rfl
  | cons line rest ih =>
      cases line with
      | error fault => rfl
      | ok line =>
          rw [watchAll, executeAll, Watched.act_bind, watchExecute_act]
          congr 1
          funext result
          cases result with
          | error e => rfl
          | ok _ => exact ih

end Watching

/-! ## Visits -/

theorem Stops.broken_or_error {line : String} {ms : List Moment}
    {e : Exit (Except LoopError Unit)} (h : Stops line ms e) :
    (∃ b : Exit Empty, e = b.broken) ∨ ∃ error, e = .done (.error error) := by
  cases h with
  | dispatching calls b => exact .inl ⟨b, rfl⟩
  | passing calls d h b => exact .inl ⟨b, rfl⟩
  | lost calls d h error => exact .inr ⟨_, rfl⟩
  | unwritten calls d h text fault => exact .inr ⟨_, rfl⟩

section Visits

variable (p : Port η σ) (out : Part σ Sink) (d : Dispatcher) (around : Surroundings)
  (host : η)

/-- A line that is passed to the host. -/
theorem watchForward_spec (line : String) (w : World η σ) :
    let r := watchForward p out host line w
    (∃ text, r.1.1 = .done (.ok ()) ∧
      r.2 = [.passed line (.done (.ok text)), .wrote text none]) ∨
    (∃ b : Exit Empty, r.1.1 = b.broken ∧ r.2 = [.passed line b.broken]) ∨
    (∃ e, r.1.1 = .done (.error (.host e)) ∧ r.2 = [.passed line (.done (.error e))]) ∨
    (∃ text fault, r.1.1 = .done (.error (.output fault)) ∧
      r.2 = [.passed line (.done (.ok text)), .wrote text (some fault)]) := by
  let call : Watched Moment η σ (Except HostError String) :=
    .of (p host (.cmd line)) fun w => [.passed line (p host (.cmd line) w).1]
  have hmoments : (call w).2 = [.passed line (p host (.cmd line) w).1] := rfl
  intro r
  rcases (p host (.cmd line) w).1.done_or_broken with ⟨answer, hcall⟩ | ⟨b, hcall⟩
  · have hr : r = _ := Watched.bind_of_done _ (x := call) hcall
    rw [hr, hmoments, hcall]
    cases answer with
    | error e => exact .inr (.inr (.inl ⟨e, rfl, rfl⟩))
    | ok text =>
        let write : Watched Moment η σ (Option Fault) :=
          .of (emit out text) fun w => [.wrote text ((out.get w.host).emit text).1]
        let written := ((out.get (call w).1.2.host).emit text).1
        have hdone : (write (call w).1.2).1.1 = .done written := rfl
        have hwrote : (write (call w).1.2).2 = [.wrote text written] := rfl
        dsimp only
        rw [Watched.bind_of_done _ (x := write) hdone, hwrote]
        cases written with
        | none => exact .inl ⟨text, rfl, rfl⟩
        | some fault => exact .inr (.inr (.inr ⟨text, fault, rfl, rfl⟩))
  · have hr : r = _ := Watched.bind_of_broken _ (x := call) hcall
    rw [hr, hmoments, hcall]
    exact .inr (.inl ⟨b, rfl, rfl⟩)

theorem watchExecute_spec (line : String) (w : World η σ) :
    let r := watchExecute p out d around host line w
    (∃ v : Visit, v.line = line ∧ r.1.1 = .done (.ok ()) ∧ r.2 = v.moments) ∨
      Stops line r.2 r.1.1 := by
  intro r
  let calls := d.calls p around host line w
  have hmoments : (watchDispatch p d around host line w).2 =
      [.dispatched line calls (d.dispatch p around host line w).1] := rfl
  rcases (d.dispatch p around host line w).1.done_or_broken with ⟨result, hdone⟩ | ⟨b, hbroken⟩
  · have hr : r = _ := Watched.bind_of_done _ (x := watchDispatch p d around host line) hdone
    rw [hr, hmoments, hdone]
    cases result with
    | error e => exact .inl ⟨.failed line calls e, rfl, rfl, rfl⟩
    | ok dispatched =>
        have hreport : ∀ w : World η σ, (reportOutcome line dispatched w).1 = .done () := by
          intro w
          cases dispatched with
          | session outcome => cases outcome <;> rfl
          | _ => rfl
        dsimp only
        rw [Watched.bind_of_done _ (x := .plain (reportOutcome line dispatched)) (hreport _)]
        by_cases hhost : dispatched.ForHost
        · rw [if_pos (Dispatched.forHost_iff.mp hhost)]
          rcases watchForward_spec p out host line _ with
            ⟨text, hexit, hms⟩ | ⟨b, hexit, hms⟩ | ⟨e, hexit, hms⟩ | ⟨text, fault, hexit, hms⟩
          all_goals rw [hexit, hms]
          · exact .inl ⟨.passed line calls dispatched hhost text, rfl, rfl, rfl⟩
          · exact .inr (.passing calls dispatched hhost b)
          · exact .inr (.lost calls dispatched hhost e)
          · exact .inr (.unwritten calls dispatched hhost text fault)
        · rw [if_neg (mt Dispatched.forHost_iff.mpr hhost)]
          exact .inl ⟨.kept line calls dispatched hhost, rfl, rfl, rfl⟩
  · have hr : r = _ := Watched.bind_of_broken _ (x := watchDispatch p d around host line) hbroken
    rw [hr, hmoments, hbroken]
    exact .inr (.dispatching calls b)

/-- Whatever the hosts do, the moments of a loop are those of its lines one after
the other, up to the end. -/
theorem watchAll_course (lines : List (Except Fault String)) (w : World η σ) :
    Course lines (watchAll p out d around host lines w).2
      (watchAll p out d around host lines w).1.1 := by
  induction lines generalizing w with
  | nil => exact ⟨[], [], [], rfl, rfl, .finished⟩
  | cons line rest ih =>
      cases line with
      | error fault => exact ⟨[], .error fault :: rest, [], rfl, rfl, .unreadable fault rest⟩
      | ok line =>
          let first := watchExecute p out d around host line
          let r := watchAll p out d around host (.ok line :: rest) w
          show Course _ r.2 r.1.1
          rcases watchExecute_spec p out d around host line w with
            ⟨v, rfl, hexit, hms⟩ | hstops
          · have hr : r = _ := Watched.bind_of_done _ (x := first) hexit
            obtain ⟨visits, others, tail, hlines, htail, hends⟩ := ih (first w).1.2
            refine ⟨v :: visits, others, tail, by rw [hlines]; rfl, ?_, hr ▸ hends⟩
            rw [hr, hms, List.flatMap_cons, List.append_assoc, ← htail]
          · refine ⟨[], .ok line :: rest, r.2, rfl, rfl, .stopped rest ?_⟩
            rcases hstops.broken_or_error with ⟨b, hexit⟩ | ⟨e, hexit⟩
            · have hr : r = _ := Watched.bind_of_broken _ (x := first) hexit
              rw [hr, ← hexit]
              exact hstops
            · have hr : r = _ := Watched.bind_of_done _ (x := first) hexit
              rw [hr]
              show Stops line ((first w).2 ++ []) (.done (.error e))
              rw [List.append_nil, ← hexit]
              exact hstops

end Visits

/-! ## The calls of the loop -/

section Listing

variable {α : Type}

/-- A part of the loop and its moments are listed under a port that lists its calls. -/
abbrev Lists (x : Watched Moment η σ α) (y : Act η (σ × List Call) α) : Prop :=
  Watched.Lists Moment.calls x y

variable (p : Port η σ) (out : Part σ Sink) (d : Dispatcher) (around : Surroundings)
  (host : η)

theorem watchDispatch_lists (line : String) :
    Lists (watchDispatch p d around host line) (d.dispatch p.noting around host line) := by
  refine .of_coupled (d.dispatch_coupled p.noting_coupled around host line) fun w cs => ?_
  obtain ⟨-, -, hhost, -⟩ := d.dispatch_coupled (p.noting_shifted cs) around host line
    (w.listing []) (w.listing cs) ⟨by simp [World.listing], rfl, rfl, rfl, rfl⟩
  rw [hhost, List.flatMap_singleton]
  rfl

theorem watchForward_lists (line : String) :
    Lists (watchForward p out host line) (forward p.noting out.carry host line) := by
  refine Watched.Lists.bind (fun w cs => rfl) fun answer => ?_
  cases answer with
  | error e => exact .pure _
  | ok text =>
      refine (Watched.Lists.of (fun _ => rfl) fun _ _ => rfl).bind fun fault => ?_
      cases fault with
      | none => exact .pure _
      | some fault => exact .pure _

theorem watchExecute_lists (line : String) :
    Lists (watchExecute p out d around host line)
      (execute p.noting out.carry d around host line) := by
  refine (watchDispatch_lists p d around host line).bind fun result => ?_
  cases result with
  | error e =>
      exact (Watched.Lists.of (fun _ => rfl) fun _ _ => rfl).bind fun _ =>
        (Watched.Lists.of (fun _ => rfl) fun _ _ => rfl).bind fun _ => .pure _
  | ok dispatched =>
      have hreport : Lists (.plain (reportOutcome line dispatched))
          (reportOutcome line dispatched : Act η (σ × List Call) Unit) := by
        refine .of (fun _ => rfl) fun w l => ?_
        cases dispatched with
        | session outcome => cases outcome <;> rfl
        | _ => rfl
      refine hreport.bind fun _ => ?_
      split
      · exact watchForward_lists p out host line
      · exact .pure _

theorem watchAll_lists (lines : List (Except Fault String)) :
    Lists (watchAll p out d around host lines)
      (executeAll p.noting out.carry d around host lines) := by
  induction lines with
  | nil => exact .pure _
  | cons line rest ih =>
      cases line with
      | error fault => exact .pure _
      | ok line =>
          refine (watchExecute_lists p out d around host line).bind fun result => ?_
          cases result with
          | error e => exact .pure _
          | ok _ => exact ih

end Listing

end Loop

end DecBridge
