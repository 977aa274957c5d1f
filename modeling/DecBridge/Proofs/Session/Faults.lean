import DecBridge.Proofs.Session.Attachment
import DecBridge.Proofs.Session.Panics
import DecBridge.Proofs.Trap.Reports

/-!
# Faults

When a session trips the trap. From the course of a session (`Orderly`) and
from what is done once everything in the engine has happened (`conclude`),
`run_faults` says when a panic of the host and when a failure of the engine is a
fault, with which message, and what becomes of the session.
-/

namespace DecBridge.Session

open DecBridge.Bundle (Locator)

variable {η σ α : Type}

/-! ## The trap -/

/-- A session that was given up for a fault with this message: the trap has
reported it, and the policy decides how the session ends. -/
structure Tripped (w : World η σ) (message : String)
    (r : Exit (Except SessionError SessionOutcome) × World η σ) : Prop where
  trap : r.2.trap = (w.trap.report (some message)).1
  exit : r.1 =
    if w.trap.policy = .contain then .done (.ok (.faulted message))
    else if w.trap.unwinds then .terminated
    else .killed

/-- A session that left the trap alone: it ended, and not as faulted, or it
waits for its host. -/
structure Untripped (w : World η σ)
    (r : Exit (Except SessionError SessionOutcome) × World η σ) : Prop where
  trap : r.2.trap = w.trap
  exit : r.1 = .stalled ∨
    ∃ result, r.1 = .done result ∧ ∀ message, result ≠ .ok (.faulted message)

theorem report_policy (t : Trap) (message : Option String) :
    (t.report message).1.policy = t.policy ∧ (t.report message).1.unwinds = t.unwinds := by
  rw [Trap.report_eq]
  exact ⟨rfl, rfl⟩

theorem fault_trips {w w' : World η σ} (hw : w'.trap = w.trap) (message : String) :
    Tripped w message ((fault message >>= finish) w') := by
  obtain ⟨hpolicy, hunwinds⟩ := report_policy w.trap (some message)
  have htrip : (fault message >>= finish) w' =
      match Trap.trip (some message) w' with
      | (.done (), w'') => (abandon >>= fun _ => finish (.faulted message)) w''
      | (.terminated, w'') => (.terminated, w'')
      | (.killed, w'') => (.killed, w'')
      | (.panicked q, w'') => (.panicked q, w'')
      | (.stalled, w'') => (.stalled, w'') := by
    rw [Act.bind_apply]
    unfold fault
    rw [Act.bind, Act.bind_apply, Act.bind]
    rcases Trap.trip (some message) w' with ⟨_ | _ | _ | _ | _, w''⟩ <;> rfl
  rw [htrip]
  unfold Trap.trip
  rw [hw]
  rcases hr : w.trap.report (some message) with ⟨trap, events⟩
  rw [hr] at hpolicy hunwinds
  dsimp only at hpolicy hunwinds ⊢
  unfold Trap.terminates
  rw [hpolicy, hunwinds]
  constructor
  · rw [hr]
    cases w.trap.policy with
    | contain => rfl
    | abort => cases w.trap.unwinds <;> rfl
  · cases w.trap.policy with
    | contain => rfl
    | abort => cases w.trap.unwinds <;> rfl

theorem release_trap (guard : Nat) (w : World η σ) :
    (Link.release guard w).trap = w.trap := by
  unfold Link.release
  split <;> rfl

/-- Giving up the guard afterwards changes neither the exit nor the trap. -/
theorem afterwards_release (x : Act η σ α) (guard : Nat) (w : World η σ) :
    (x.afterwards (Link.release guard) w).1 = (x w).1 ∧
      (x.afterwards (Link.release guard) w).2.trap = (x w).2.trap := by
  unfold Act.afterwards
  rcases x w with ⟨e, w'⟩
  cases e with
  | killed => exact ⟨rfl, rfl⟩
  | done a => exact ⟨rfl, release_trap guard w'⟩
  | panicked q => exact ⟨rfl, release_trap guard w'⟩
  | terminated => exact ⟨rfl, release_trap guard w'⟩
  | stalled => exact ⟨rfl, release_trap guard w'⟩

/-! ## The end of a session -/

section Ending

variable (E : Engine) {p : Port η σ} {l : Locator} {o : SessionOptions} {args : List String}

/-- What is left to do once everything in the engine has happened. -/
def ending : Exit (Except String SessionOutcome) × World η σ →
    Exit (Except SessionError SessionOutcome) × World η σ
  | (.done r, w) => conclude (.ok r) w
  | (.panicked q, w) => conclude (.error q) w
  | (.terminated, w) => (.terminated, w)
  | (.killed, w) => (.killed, w)
  | (.stalled, w) => (.stalled, w)

/-- A session whose engine was created, from everything that happens in the engine. -/
theorem runAttached_created {host : η} {w : World η σ} {s : E.State}
    (hs : E.create o.limits w.engines.created = .ok s) :
    runAttached E p l o args (Link.attachedWorld host w) =
      ending (drive E p l o args s (startWorld l host args w)) := by
  have hnew : (newEngine E o : Act η σ _) (Link.attachedWorld host w) =
      (.done (.ok s), { Link.attachedWorld host w with
        engines := { w.engines with created := w.engines.created + 1 } }) :=
    congrArg (fun r => (Exit.done r, _)) hs
  unfold runAttached
  rw [Act.bind_apply, Act.bind, hnew]
  show Act.bind (Act.catching (drive E p l o args s)) conclude (startWorld l host args w) = _
  unfold Act.bind Act.catching
  rcases drive E p l o args s _ with ⟨_ | _ | _ | _ | _, w'⟩ <;> rfl

/-- A session whose engine could not be created. -/
theorem runAttached_refused {host : η} {w : World η σ} {reason : String}
    (hs : E.create o.limits w.engines.created = .error reason) :
    runAttached E p l o args (Link.attachedWorld host w) =
      (.done (.error (.engine reason)), { Link.attachedWorld host w with
        engines := { w.engines with created := w.engines.created + 1 } }) := by
  have hnew : (newEngine E o : Act η σ _) (Link.attachedWorld host w) =
      (.done (.error reason), { Link.attachedWorld host w with
        engines := { w.engines with created := w.engines.created + 1 } }) :=
    congrArg (fun r => (Exit.done r, _)) hs
  unfold runAttached
  rw [Act.bind_apply, Act.bind, hnew]
  rfl

/-- What a session comes to, from how everything in the engine ended. -/
def Reports (w : World η σ) (r : Exit (Except SessionError SessionOutcome) × World η σ) :
    Exit (Except String SessionOutcome) → Prop
  | .done (.ok outcome) => r.1 = .done (.ok outcome) ∧ r.2.trap = w.trap
  | .done (.error message) => Tripped w message r
  | .panicked q => Tripped w (panicMessage q) r
  | .stalled => r.1 = .stalled ∧ r.2.trap = w.trap
  | _ => False

theorem run_of_drive (hp : p.Steady) (l : Locator) (args : List String) (host : η)
    {w : World η σ} (hw : w.link.slot = none) {s : E.State} (hs : E.create o.limits w.engines.created = .ok s) :
    Reports w (run E p l o host args w) (drive E p l o args s (startWorld l host args w)).1 := by
  obtain ⟨hexit, htrap⟩ := afterwards_release (runAttached E p l o args) w.link.issued
    (Link.attachedWorld host w)
  rw [← run_of_detached E hw, runAttached_created E hs] at hexit htrap
  obtain ⟨-, hstay⟩ := drive_alike E hp l o args s (startWorld l host args w) rfl
  generalize drive E p l o args s (startWorld l host args w) = r at hexit htrap hstay
  obtain ⟨e, w'⟩ := r
  have hw' : w'.trap = w.trap := hstay.trap
  cases e with
  | done r =>
      cases r with
      | ok outcome => exact ⟨hexit, htrap.trans hw'⟩
      | error message =>
          have htrips := fault_trips hw' message
          exact ⟨htrap.trans htrips.trap, hexit.trans htrips.exit⟩
  | panicked q =>
      have htrips := fault_trips hw' (panicMessage q)
      exact ⟨htrap.trans htrips.trap, hexit.trans htrips.exit⟩
  | stalled => exact ⟨hexit, htrap.trans hw'⟩
  | terminated => exact hstay.lasts
  | killed => exact hstay.lasts

/-- A session that never gets to its engine leaves the trap alone. -/
theorem run_unstarted (host : η) {w : World η σ}
    (h : w.link.isAttached = true ∨
      ∃ reason, E.create o.limits w.engines.created = .error reason) :
    Untripped w (run E p l o host args w) := by
  by_cases hw : w.link.isAttached = true
  · rw [run_of_attached E hw]
    exact ⟨rfl, .inr ⟨_, rfl, by simp⟩⟩
  · obtain ⟨reason, hs⟩ := h.resolve_left hw
    have hslot : w.link.slot = none := by simpa [Link.isAttached] using hw
    obtain ⟨hexit, htrap⟩ := afterwards_release (runAttached E p l o args) w.link.issued
      (Link.attachedWorld host w)
    rw [← run_of_detached E hslot, runAttached_refused E hs] at hexit htrap
    exact ⟨htrap, .inr ⟨_, hexit, by simp⟩⟩

/-- A session either never gets to its engine and leaves the trap alone, or
ends as its moments say. -/
theorem run_course (hp : p.Steady) (host : η) (w : World η σ) :
    (moments E p l o host args w = [] ∧ Untripped w (run E p l o host args w)) ∨
      ∃ e, Orderly none (moments E p l o host args w) (stopOf errorOf e) ∧
        Reports w (run E p l o host args w) e ∧
        ∀ outcome, e = .done (.ok outcome) → Unfaulted outcome := by
  by_cases hw : w.link.isAttached = true
  · exact .inl ⟨moments_of_attached E hw l o host args, run_unstarted E host (.inl hw)⟩
  · have hslot : w.link.slot = none := by simpa [Link.isAttached] using hw
    rw [moments_of_detached E hslot]
    cases hs : E.create o.limits w.engines.created with
    | error reason => exact .inl ⟨rfl, run_unstarted E host (.inr ⟨reason, hs⟩)⟩
    | ok s =>
        obtain ⟨horderly, hdone⟩ := watchDrive_follows hp E l o args
          (E.create_kept hs) (startWorld l host args w) rfl
        have hrun := run_of_drive E hp l args host hslot hs
        rw [← watchDrive_act] at hrun
        exact .inr ⟨_, horderly, hrun, fun outcome he => (hdone _ he rfl).2⟩

end Ending

section Course

variable {E : Engine} {p : Port η σ} {l : Locator} {o : SessionOptions} {host : η}
  {args : List String} {w : World η σ}

/-- What goes on at a moment ends the session there and trips the trap. -/
theorem run_stops (hp : p.Steady) {pre post : List (Moment η σ)} {m : Moment η σ} {s : Stop}
    (hms : moments E p l o host args w = pre ++ m :: post)
    (hm : m.stop? (pending none pre) = some s) :
    post = [] ∧ Tripped w s.message (run E p l o host args w) := by
  rcases run_course E hp host w with ⟨hnil, -⟩ | ⟨e, horderly, hrun, -⟩
  · rw [hnil] at hms
    simp at hms
  · obtain ⟨hpost, he⟩ := horderly.stop hms hm
    refine ⟨hpost, ?_⟩
    rcases e with (reason | outcome) | q | _ | _ | _
    · obtain rfl := Option.some.inj he
      exact hrun
    · nomatch he
    · obtain rfl := Option.some.inj he
      exact hrun
    · nomatch he
    · nomatch he
    · nomatch he

theorem run_untripped (hp : p.Steady)
    (hms : ∀ pre m post, moments E p l o host args w = pre ++ m :: post →
      m.stop? (pending none pre) = none) :
    Untripped w (run E p l o host args w) := by
  rcases run_course E hp host w with ⟨-, huntripped⟩ | ⟨e, horderly, hrun, hok⟩
  · exact huntripped
  · have hnostop := horderly.calm hms
    rcases e with (reason | outcome) | q | _ | _ | _
    · nomatch hnostop
    · refine ⟨hrun.2, .inr ⟨_, hrun.1, fun message hm => ?_⟩⟩
      exact hok outcome rfl message (Except.ok.inj hm)
    · nomatch hnostop
    · exact hrun.elim
    · exact hrun.elim
    · exact ⟨hrun.2, .inl hrun.1⟩

end Course

/-- When a panic of a host is a fault.

The panic of a callback waits until an exception leaves the engine, which may be
one that is thrown while another is put into words. Then the trap is tripped
with its message, the last of them if there were several, and nothing more
happens in the session. A panic in a text that the session prints itself is a
fault at once, and so is a failure of the engine. If nothing goes on in one of
these ways, the trap is left alone and the session does not end as faulted. In
particular a session in which no call of the host panics and the engine does not
fail leaves the trap alone, whatever exceptions there are. The moments are those
of the run, which calls hosts for them and for nothing else. -/
theorem run_faults (E : Engine) (d : Dispatcher)
    (roster : Host.Roster η σ (Dispatcher.Line η) Dispatcher.Verdict)
    (l : Locator) (o : SessionOptions) (host : η) (args : List String)
    (w : World η σ) :
    let r := run E (d.port roster) l o host args w
    let ms := moments E (d.port roster) l o host args w
    (∀ pre post q, ms = pre ++ .crossed true :: post → pending none pre = some q →
        post = [] ∧ Tripped w (panicMessage q) r) ∧
      (∀ pre post text before after q,
        ms = pre ++ .console text before (.panicked q, after) :: post →
          post = [] ∧ Tripped w (panicMessage q) r) ∧
      (∀ pre post reason, ms = pre ++ .failed reason :: post →
        post = [] ∧ Tripped w reason r) ∧
      ((∀ pre m post, ms = pre ++ m :: post → m.stop? (pending none pre) = none) →
        Untripped w r) ∧
      ((∀ m ∈ ms, m.Calm) → Untripped w r) ∧
      watchRun E (d.port roster) l o host args w = (r, ms) ∧
      run E (d.port roster).noting l o host args { w with host := (w.host, []) } =
        (r.1, { r.2 with host := (r.2.host, ms.flatMap Moment.calls) }) := by
  dsimp only
  have hp : (d.port roster).Steady := (d.port_alike_busy roster).left
  refine ⟨fun pre post q hms hq => run_stops hp hms (congrArg (Option.map Stop.panic) hq),
    fun pre post text before after q hms => run_stops hp hms rfl,
    fun pre post reason hms => run_stops hp hms rfl,
    run_untripped hp, fun hcalm => ?_, watchRun_eq E _ l o host args w,
    run_noting E _ l o host args w⟩
  refine run_untripped hp fun pre m post hms => ?_
  have hpre : pending none pre = none :=
    pending_calm fun x hx => hcalm x (by rw [hms]; exact List.mem_append_left _ hx)
  rw [hpre]
  exact (hcalm m (by rw [hms]; simp)).stays.2

/-! ## A host that panics -/

/-- A host whose commands panic. -/
def failing : Host.Roster Unit Unit (Dispatcher.Line Unit) Dispatcher.Verdict
  | _, .cmd _, s => .panic (.text "boom") s
  | _, .print _, s => .reply (.ok "") s

/-- A script that lets nothing of its command out. -/
def swallowing : String :=
  "function r2dec_main() \x7b try \x7b r2cmd('x'); \x7d catch (e) \x7b \x7d \x7d"

theorem sessionOf_swallowing :
    (sessionOf failing swallowing).1.1 = .done (.ok .completed) ∧
      (sessionOf failing swallowing).1.2.trap = idle.trap ∧
      pending none (sessionOf failing swallowing).2 = some (.text "boom") := by
  unfold sessionOf watchRun watchAttached watchDrive watchEvaluate
  rw [load_bootstrap rfl, load_entry rfl (by decide)]
  decide +kernel

/-- The command of a callback panicked, and the session completed all the same,
with nothing reported to the trap. -/
theorem run_swallows_panic :
    (∃ c before after, .callback c before (.panicked (.text "boom"), after) ∈
        moments roomy (roomyDispatcher.port failing) (scripted swallowing) {} () [] idle) ∧
      (run roomy (roomyDispatcher.port failing) (scripted swallowing) {} () [] idle).1 =
        .done (.ok .completed) ∧
      (run roomy (roomyDispatcher.port failing) (scripted swallowing) {} () [] idle).2.trap =
        idle.trap := by
  obtain ⟨hexit, htrap, hpending⟩ := sessionOf_swallowing
  rw [← run_scripted] at hexit htrap
  exact ⟨(callback_of_pending hpending).resolve_left nofun, hexit, htrap⟩

/-- A script that lets out what its command throws. -/
def passing : String := "function r2dec_main() \x7b r2cmd('x'); \x7d"

/-- A moment at which an exception leaves the engine. -/
def Moment.isExceptional : Moment η σ → Bool
  | .crossed exceptional => exceptional
  | _ => false

theorem Moment.eq_crossed {m : Moment η σ} (h : m.isExceptional = true) : m = .crossed true := by
  cases m with
  | crossed exceptional => exact congrArg _ h
  | _ => nomatch h

theorem sessionOf_passing :
    (sessionOf failing passing).2.getLast?.map Moment.isExceptional = some true ∧
      pending none (sessionOf failing passing).2.dropLast = some (.text "boom") := by
  unfold sessionOf watchRun watchAttached watchDrive watchEvaluate
  rw [load_bootstrap rfl, load_entry rfl (by decide)]
  decide +kernel

/-- The panic of the command leaves the engine and trips the trap. -/
theorem run_faults_passing :
    (∃ pre, moments roomy (roomyDispatcher.port failing) (scripted passing) {} () [] idle =
        pre ++ [.crossed true] ∧ pending none pre = some (.text "boom")) ∧
      Tripped idle "boom"
        (run roomy (roomyDispatcher.port failing) (scripted passing) {} () [] idle) := by
  obtain ⟨hmap, hpending⟩ := sessionOf_passing
  obtain ⟨m, hlast, hm⟩ := Option.map_eq_some_iff.mp hmap
  obtain rfl := Moment.eq_crossed hm
  obtain ⟨pre, hms⟩ := List.getLast?_eq_some_iff.mp hlast
  rw [hms, List.dropLast_concat] at hpending
  refine ⟨⟨pre, hms, hpending⟩, ?_⟩
  exact ((run_faults roomy roomyDispatcher failing (scripted passing) {} () [] idle).1 _ _ _ hms
    hpending).2

end DecBridge.Session
