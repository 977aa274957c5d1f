import DecBridge.Proofs.Session.Listed
import DecBridge.Proofs.Session.Scripted

/-!
# Sessions and the attachment of their link

A session borrows the link: it puts its host in charge, and the link is as
before when the session is over, however it ended. `run_of_detached` reduces a
session to the part of it that runs attached, and `Act.Agree` carries the link
through that part, the trap included.

The main statement is `run_keeps_attachment`. It speaks of hosts that hand
lines to a dispatcher in the middle of any call: whatever they hand in, the
link is restored, every callback reaches the session's own host, and the run
is that of a dispatcher which never starts a session.
-/

namespace DecBridge

open DecBridge.Bundle (Locator)

open Act (Alike)

variable {η σ α β : Type}

/-! ## Agreement while attached -/

/-- Actions that cannot be told apart while a host is in charge and that leave
the link alone then. Unlike with `Alike`, the trap may be tripped and the
program may end. -/
def Act.Agree (x y : Act η σ α) : Prop :=
  ∀ w, w.link.isAttached = true → x w = y w ∧ (x w).2.link = w.link

theorem Act.Alike.agree {x y : Act η σ α} (h : Alike x y) : Act.Agree x y :=
  fun w hw => ⟨(h w hw).1, (h w hw).2.link⟩

theorem Act.Agree.bind {x y : Act η σ α} {f g : α → Act η σ β} (h : Act.Agree x y)
    (hf : ∀ a, Act.Agree (f a) (g a)) : Act.Agree (x >>= f) (y >>= g) := by
  intro w hw
  obtain ⟨heq, hlink⟩ := h w hw
  show Act.bind x f w = Act.bind y g w ∧ (Act.bind x f w).2.link = w.link
  unfold Act.bind
  rw [← heq]
  generalize x w = r at hlink
  obtain ⟨e, w'⟩ := r
  have hlink : w'.link = w.link := hlink
  cases e with
  | done a =>
      obtain ⟨heq', hlink'⟩ := hf a w' (hlink ▸ hw)
      exact ⟨heq', hlink'.trans hlink⟩
  | panicked q => exact ⟨rfl, hlink⟩
  | stalled => exact ⟨rfl, hlink⟩
  | terminated => exact ⟨rfl, hlink⟩
  | killed => exact ⟨rfl, hlink⟩

theorem Trap.trip_agree (message : Option String) :
    Act.Agree (Trap.trip message : Act η σ Unit) (Trap.trip message) := by
  refine fun w _ => ⟨rfl, ?_⟩
  unfold Trap.trip
  dsimp only
  split
  · rfl
  · split <;> rfl

/-! ## Borrowing the link -/

namespace Link

/-- Giving up a guard that was just handed out restores the link. -/
theorem release_restores {w w' : World η σ} {host : η} (hw : w.link.slot = none)
    (h : w'.link = (attachedWorld host w).link) :
    (release w.link.issued w').link.slot = w.link.slot ∧
      (release w.link.issued w').link.live = w.link.live := by
  have hlive : w'.link.live = w.link.issued :: w.link.live := congrArg Link.live h
  unfold release
  rw [if_pos (by rw [hlive]; simp)]
  refine ⟨hw.symm, ?_⟩
  show w'.link.live.erase w.link.issued = w.link.live
  rw [hlive, List.erase_cons_head]

end Link

namespace Session

variable (E : Engine)

theorem run_of_detached {p : Port η σ} {w : World η σ} (hw : w.link.slot = none)
    (l : Locator) (o : SessionOptions) (host : η) (args : List String) :
    run E p l o host args w =
      (runAttached E p l o args).afterwards (Link.release w.link.issued)
        (Link.attachedWorld host w) := by
  show Act.bind (Link.attach host) _ w = _
  unfold Act.bind
  rw [Link.attach_of_detached hw]

theorem runAttached_agree {p q : Port η σ} (hp : Port.Alike p q) (l : Locator)
    (o : SessionOptions) (args : List String) :
    Act.Agree (runAttached E p l o args) (runAttached E q l o args) := by
  have hfinish : ∀ outcome, Act.Agree (finish outcome : Act η σ _) (finish outcome) :=
    fun _ => (Alike.note _).agree.bind fun _ => (Alike.pure _).agree
  have hfault : ∀ message, Act.Agree (fault message >>= finish : Act η σ _)
      (fault message >>= finish) := by
    refine fun message => Act.Agree.bind ((Trap.trip_agree _).bind fun _ => ?_) hfinish
    exact Act.Agree.bind (fun _ _ => ⟨rfl, rfl⟩) fun _ => (Alike.pure _).agree
  refine Act.Agree.bind (fun _ _ => ⟨rfl, rfl⟩) ?_
  rintro (reason | s)
  · exact (Alike.pure _).agree
  · refine (Alike.note _).agree.bind fun _ =>
      (drive_alike E hp l o args s).catching.agree.bind ?_
    rintro (payload | message | outcome)
    · exact hfault _
    · exact hfault _
    · exact hfinish outcome

/-! ## Moments of a session -/

theorem moments_of_attached {p : Port η σ} {w : World η σ}
    (hw : w.link.isAttached = true) (l : Locator) (o : SessionOptions) (host : η)
    (args : List String) : moments E p l o host args w = [] := by
  show (Watched.bind (Watched.plain (Link.attach host)) _ w).2 = []
  unfold Watched.bind Watched.plain Watched.of
  rw [Link.attach_of_attached hw]
  rfl

/-- The world in which the engine of a session starts. -/
def startWorld (l : Locator) (host : η) (args : List String) (w : World η σ) :
    World η σ :=
  { Link.attachedWorld host w with
    log := (w.log.push Link.attachedEvent).push (startedEvent l args)
    engines := { w.engines with created := w.engines.created + 1 } }

theorem watchAttached_moments (p : Port η σ) (l : Locator) (o : SessionOptions) (host : η)
    (args : List String) (w : World η σ) :
    (watchAttached E p l o args (Link.attachedWorld host w)).2 =
      match E.create o.limits w.engines.created with
      | .error _ => []
      | .ok s => (watchDrive E p l o args s (startWorld l host args w)).2 := by
  have hnew : ((Watched.plain (newEngine E o) : Course η σ _) (Link.attachedWorld host w)).1.1 =
      .done (E.create o.limits w.engines.created) := rfl
  unfold watchAttached
  rw [Watched.bind_of_done _ hnew]
  cases E.create o.limits w.engines.created with
  | error reason => rfl
  | ok s =>
      show [] ++ ([] ++ (Watched.bind ((watchDrive E p l o args s).around Act.catching) _
        (startWorld l host args w)).2) = _
      unfold Watched.bind Watched.around
      rcases Act.catching (watchDrive E p l o args s).act (startWorld l host args w) with
        ⟨_ | _ | _ | _ | _, w'⟩ <;> simp [Watched.plain, Watched.of]

theorem moments_of_detached {p : Port η σ} {w : World η σ}
    (hw : w.link.slot = none) (l : Locator) (o : SessionOptions) (host : η)
    (args : List String) :
    moments E p l o host args w =
      match E.create o.limits w.engines.created with
      | .error _ => []
      | .ok s => (watchDrive E p l o args s (startWorld l host args w)).2 := by
  have hattach : ((Watched.plain (Link.attach host) : Course η σ _) w).1 =
      (.done (.ok w.link.issued), Link.attachedWorld host w) := Link.attach_of_detached hw host
  have hdone := congrArg Prod.fst hattach
  rw [← watchAttached_moments]
  unfold moments watchRun
  rw [Watched.bind_of_done _ hdone, hattach]
  rfl

theorem moments_reach {p : Port η σ} (hp : p.Steady) {w : World η σ}
    (hw : w.link.slot = none) (l : Locator) (o : SessionOptions) (host : η)
    (args : List String) : ∀ m ∈ moments E p l o host args w, m.Reaches p host := by
  rw [moments_of_detached E hw]
  cases E.create o.limits w.engines.created with
  | error reason => exact fun m hm => nomatch hm
  | ok s => exact (watchDrive_reaching hp E l o args s _ rfl).2

/-! ## The attachment of the link -/

/-- A session leaves its link as it found it, and no session runs inside
another one.

Unless the trap ends the program at once, the link has the same host and the
same guards when the session is over. In an attached world nothing happens at
all. In a detached one every use of the link reaches this session's host, and
the run is the same if every line that asks for a session is refused. The uses
of the link are those of the run itself, which calls hosts for them and for
nothing else. -/
theorem run_keeps_attachment (d : Dispatcher)
    (roster : Host.Roster η σ (Dispatcher.Line η) Dispatcher.Verdict)
    (l : Locator) (o : SessionOptions) (host : η) (args : List String)
    (w : World η σ) :
    let r := run E (d.port roster) l o host args w
    let ms := moments E (d.port roster) l o host args w
    (r.1 = .killed ∨
        r.2.link.slot = w.link.slot ∧ r.2.link.live = w.link.live) ∧
      (w.link.isAttached = true →
        r = (.done (.error (.host .alreadyAttached)), w) ∧ ms = []) ∧
      (w.link.isAttached = false →
        (∀ m ∈ ms, m.Reaches (d.port roster) host) ∧
          r = run E (d.busyPort roster) l o host args w) ∧
      watchRun E (d.port roster) l o host args w = (r, ms) ∧
      run E (d.port roster).noting l o host args { w with host := (w.host, []) } =
        (r.1, { r.2 with host := (r.2.host, ms.flatMap Moment.calls) }) := by
  dsimp only
  have hp := d.port_alike_busy roster
  refine ⟨?_, ?_, ?_, watchRun_eq E _ l o host args w,
    run_noting E _ l o host args w⟩
  · cases hslot : w.link.slot with
    | some earlier =>
        rw [run_of_attached E (isAttached_of_slot hslot)]
        exact .inr ⟨hslot, rfl⟩
    | none =>
        obtain ⟨-, hlink⟩ := runAttached_agree E hp l o args (Link.attachedWorld host w) rfl
        rw [run_of_detached E hslot]
        unfold Act.afterwards
        generalize runAttached E (d.port roster) l o args _ = r at hlink
        obtain ⟨e, w'⟩ := r
        have hback := Link.release_restores hslot hlink
        rw [hslot] at hback
        cases e with
        | killed => exact .inl rfl
        | done a => exact .inr hback
        | panicked q => exact .inr hback
        | terminated => exact .inr hback
        | stalled => exact .inr hback
  · exact fun hw => ⟨run_of_attached E hw l o host args, moments_of_attached E hw l o host args⟩
  · intro hdetached
    have hslot : w.link.slot = none := by simpa [Link.isAttached] using hdetached
    refine ⟨moments_reach E hp.left hslot l o host args, ?_⟩
    obtain ⟨heq, -⟩ := runAttached_agree E hp l o args (Link.attachedWorld host w) rfl
    rw [run_of_detached E hslot, run_of_detached E hslot]
    unfold Act.afterwards
    rw [heq]

/-- Hosts that ask for a session of their own before they answer a command, and
that keep what they are told. -/
def intrusive :
    Host.Roster Bool (List Dispatcher.Verdict) (Dispatcher.Line Bool) Dispatcher.Verdict
  | host, .cmd _, s =>
    .request ⟨host, "pdw", default⟩ s (fun _ _ s => .reply (.ok "") s)
      fun verdict s => .reply (.ok "done") (s ++ [verdict])
  | _, .print _, s => .reply (.ok "") s

/-- A script that prints what comes of a command. -/
def asking : String := "function r2dec_main(args) \x7b console.log(r2cmd('x')); \x7d"

/-- The world before the session of that script. -/
def unasked : World Bool (List Dispatcher.Verdict) := ⟨[], {}, ⟨.contain, {}, false⟩, #[], {}⟩

theorem watchRun_asking :
    let r := watchRun roomy (roomyDispatcher.port intrusive) (scripted asking) {} false [] unasked
    (r.1.1, r.1.2.host, r.2.flatMap Moment.calls) =
      (.done (.ok .completed), [Dispatcher.refusal], [.cmd "x", .print "done\n"]) := by
  dsimp only
  unfold watchRun watchAttached watchDrive watchEvaluate
  rw [load_bootstrap rfl, load_entry rfl (by decide)]
  decide +kernel

/-- A script calls the host, and the session that the host then asks for is refused. -/
theorem run_keeps_attachment_intrusive :
    let p := roomyDispatcher.port intrusive
    let l := scripted asking
    let taken := { unasked with link := ⟨some true, [0], 1⟩ }
    let r := run roomy p l {} false [] unasked
    let ms := moments roomy p l {} false [] unasked
    (unasked.link.isAttached = false ∧ taken.link.isAttached = true) ∧
      (r.1 = .done (.ok .completed) ∧ r.2.host = [Dispatcher.refusal] ∧
        r.2.link.slot = none ∧ ms.flatMap Moment.calls = [.cmd "x", .print "done\n"] ∧
        ∀ m ∈ ms, m.Reaches p false) ∧
      run roomy p l {} false [] taken = (.done (.error (.host .alreadyAttached)), taken) := by
  dsimp only
  obtain ⟨hkeeps, -, hreach, hwatched, -⟩ :=
    run_keeps_attachment roomy roomyDispatcher intrusive (scripted asking) {} false [] unasked
  have hrun := watchRun_asking
  rw [hwatched] at hrun
  dsimp only at hrun
  obtain ⟨hexit, hrest⟩ := Prod.mk.inj hrun
  obtain ⟨hhost, hcalls⟩ := Prod.mk.inj hrest
  refine ⟨⟨rfl, rfl⟩, ⟨hexit, hhost, ?_, hcalls, ?_⟩, ?_⟩
  · rcases hkeeps with hkilled | ⟨hslot, -⟩
    · nomatch hexit.symm.trans hkilled
    · exact hslot
  · exact (hreach rfl).1
  · exact ((run_keeps_attachment roomy roomyDispatcher intrusive (scripted asking) {} false []
      _).2.1 rfl).1

end Session

end DecBridge
