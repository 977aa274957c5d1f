import DecBridge.Proofs.Dispatch.Books

/-!
# What hosts and scripts can see

Of the link, hosts and scripts see which host is in charge and nothing of the
guards; of the trap they see how it ends the program; of the engines they see how
many there were, by where the next one lies in memory; of the log they see
nothing. `Coupling.seen` relates two worlds that agree on all of this, and
whatever a dispatcher does in the one it does in the other.

Attaching alone does not go through this relation, since the two sides may hand
out different guards. A whole session does (`Session.run_seen`): the guard that
it was given is the one that it gives up.
-/

namespace DecBridge

open DecBridge.Bundle (Locator)

open Host (Call Reaction)

open Act (Coupled)

variable {η σ τ α β : Type}

/-! ## Traps -/

/-- Traps that end the program alike. -/
structure Trap.Akin (t t' : Trap) : Prop where
  policy : t.policy = t'.policy
  unwinds : t.unwinds = t'.unwinds

theorem Trap.after_unwinds (t : Trap) (messages : List String) :
    (t.after messages).unwinds = t.unwinds := by
  rw [after_eq_told, told_unwinds]

theorem Trap.Akin.after {t t' : Trap} (h : t.Akin t') (messages messages' : List String) :
    (t.after messages).Akin (t'.after messages') := by
  constructor
  · rw [Trap.after_policy, Trap.after_policy, h.policy]
  · rw [Trap.after_unwinds, Trap.after_unwinds, h.unwinds]

theorem Trap.report_after (t : Trap) (messages : List String) (message : String) :
    ((t.after messages).report (some message)).1 = t.after (messages ++ [message]) := by
  unfold Trap.after
  rw [List.foldl_append]
  rfl

/-! ## Giving up a guard -/

/-- Who is in charge after an action that ended in this way and then gave up the
guard of its host. -/
def Exit.leaves (host : η) : Exit α → Option η
  | .killed => some host
  | _ => none

theorem Link.afterwards_release_slot {x : Act η σ α} {w v : World η σ} {host : η}
    (hw : w.link.slot = none) (hx : (x v).2.link = (attachedWorld host w).link) :
    (x.afterwards (release w.link.issued) v).2.link.slot = (x v).1.leaves host := by
  unfold Act.afterwards
  generalize x v = r at hx
  obtain ⟨e, v'⟩ := r
  have hback := (release_restores hw hx).1.trans hw
  cases e with
  | killed => exact congrArg Link.slot hx
  | done a => exact hback
  | panicked payload => exact hback
  | terminated => exact hback
  | stalled => exact hback

/-! ## Worlds that look the same -/

/-- The states of the hosts are related, the same host is in charge, there were as
many engines, and two traps have heard of the same faults. -/
def Coupling.seen (η : Type) (S : σ → τ → Prop) (t t' : Trap) : Coupling η σ τ where
  holds w w' := S w.host w'.host ∧ w.link.slot = w'.link.slot ∧
    w.engines.created = w'.engines.created ∧
    ∃ messages, w.trap = t.after messages ∧ w'.trap = t'.after messages
  fatal := True
  slot_eq h := h.2.1
  logged _ h := h

section Seen

variable {S : σ → τ → Prop} {t t' : Trap} {p : Port η σ} {q : Port η τ}

theorem Coupling.seen_over : (Coupling.seen η S t t').Over S :=
  ⟨fun hw => hw.1, fun hw hs => ⟨hs, hw.2⟩⟩

theorem Trap.trip_seen (ht : t.Akin t') (message : String) :
    Coupled (.seen η S t t') (Trap.trip (some message)) (Trap.trip (some message)) := by
  rintro w w' ⟨hhost, hslot, hcount, messages, htrap, htrap'⟩
  have hakin := ht.after (messages ++ [message]) (messages ++ [message])
  unfold Trap.trip
  rw [htrap, htrap']
  dsimp only
  rw [Trap.report_after, Trap.report_after]
  unfold Trap.terminates
  rw [hakin.policy, hakin.unwinds]
  split
  · exact ⟨rfl, .inl trivial, hhost, hslot, hcount, _, rfl, rfl⟩
  · split
    · exact ⟨rfl, .inl trivial, hhost, hslot, hcount, _, rfl, rfl⟩
    · exact ⟨rfl, .inl trivial, hhost, hslot, hcount, _, rfl, rfl⟩

theorem Session.seen_through (ht : t.Akin t') : Through (Coupling.seen η S t t') where
  newEngine E o := by
    rintro w w' ⟨hhost, hslot, hcount, htrap⟩
    unfold newEngine
    rw [hcount]
    exact ⟨rfl, .inl trivial, hhost, hslot, rfl, htrap⟩
  trip := Trap.trip_seen ht
  abandon := fun _ _ hw => ⟨rfl, .inl trivial, hw⟩

theorem Session.afterwards_release_engines (x : Act η σ α) (guard : Nat) (w : World η σ) :
    (x.afterwards (Link.release guard) w).2.engines = (x w).2.engines := by
  have hrelease : ∀ w : World η σ, (Link.release guard w).engines = w.engines := by
    intro w
    unfold Link.release
    split <;> rfl
  unfold Act.afterwards
  rcases x w with ⟨_ | _ | _ | _ | _, w'⟩
  case killed => rfl
  all_goals exact hrelease w'

/-- Sessions started in worlds that look the same do the same: both are refused,
or both are given a guard and give it up again. -/
theorem Session.run_seen (E : Engine) (ht : t.Akin t') (hp : Port.Coupled (.seen η S t t') p q)
    (hsteady : p.Steady) (hsteady' : q.Steady) (l : Locator) (o : SessionOptions) (host : η)
    (args : List String) :
    Coupled (.seen η S t t') (run E p l o host args) (run E q l o host args) := by
  intro w w' hw
  cases hslot : w.link.slot with
  | some earlier =>
      have hslot' : w'.link.slot = some earlier := hw.2.1.symm.trans hslot
      rw [run_of_attached E (isAttached_of_slot hslot),
        run_of_attached E (isAttached_of_slot hslot')]
      exact ⟨rfl, .inl trivial, hw⟩
  | none =>
      have hslot' : w'.link.slot = none := hw.2.1.symm.trans hslot
      have hattached : (Coupling.seen η S t t').holds (Link.attachedWorld host w)
          (Link.attachedWorld host w') := ⟨hw.1, rfl, hw.2.2⟩
      obtain ⟨hexit, -, hhost, -, hcount, htrap⟩ :=
        runAttached_coupled_of E (seen_through ht) hp l o args _ _ hattached
      obtain ⟨-, hlink⟩ := runAttached_agree E hsteady l o args (Link.attachedWorld host w) rfl
      obtain ⟨-, hlink'⟩ := runAttached_agree E hsteady' l o args (Link.attachedWorld host w') rfl
      rw [run_of_detached E hslot, run_of_detached E hslot']
      refine ⟨?_, .inl trivial, ?_, ?_, ?_, ?_⟩
      · rw [(afterwards_release ..).1, (afterwards_release ..).1, hexit]
      · rw [afterwards_release_host, afterwards_release_host]
        exact hhost
      · rw [Link.afterwards_release_slot hslot hlink, Link.afterwards_release_slot hslot' hlink',
          hexit]
      · rw [afterwards_release_engines, afterwards_release_engines]
        exact hcount
      · rw [(afterwards_release ..).2, (afterwards_release ..).2]
        exact htrap

/-- A dispatcher does the same in worlds that look the same, and it looks at its
surroundings only to find its scripts. -/
theorem Dispatcher.dispatch_seen (ht : t.Akin t') (hp : Port.Coupled (.seen η S t t') p q)
    (hsteady : p.Steady) (hsteady' : q.Steady) (d : Dispatcher) {around around' : Surroundings}
    (haround : d.roots.locator around = d.roots.locator around') (host : η) (line : String) :
    Coupled (.seen η S t t') (dispatch p d around host line)
      (dispatch q d around' host line) := by
  have hrun := Session.run_seen d.engine ht hp hsteady hsteady'
  unfold dispatch
  cases Action.route line with
  | none => exact Coupled.pure _
  | some action =>
      refine (Coupled.note _).bind fun _ => ?_
      cases action with
      | configQuery => exact carryOut_coupled_of hp d hrun around host .configQuery
      | usage => exact carryOut_coupled_of hp d hrun around host .usage
      | update => exact carryOut_coupled_of hp d hrun around host .update
      | decompile args =>
          -- what choosing a root reports may differ, and nobody sees the log
          have hnotes : Coupled (.seen η S t t') (Act.notes (d.roots.events around))
              (Act.notes (d.roots.events around')) := fun _ _ hw => ⟨rfl, .inl trivial, hw⟩
          refine hnotes.bind fun _ => ?_
          rw [haround]
          refine (hrun _ _ host args).bind ?_
          rintro (e | outcome)
          · exact Coupled.pure _
          · exact Coupled.pure _

/-! ## Hosts that hand lines to a dispatcher -/

theorem Dispatcher.port_steady (d : Dispatcher)
    (roster : Host.Roster η σ (Dispatcher.Line η) Dispatcher.Verdict) : (d.port roster).Steady :=
  (d.port_alike_busy roster).left

theorem Dispatcher.port_seen (ht : t.Akin t') (d : Dispatcher)
    {roster : Host.Roster η σ (Dispatcher.Line η) Dispatcher.Verdict}
    {roster' : Host.Roster η τ (Dispatcher.Line η) Dispatcher.Verdict}
    (h : ∀ host c s s', S s s' → (roster host c s).Matches S (roster' host c s')) :
    Port.Coupled (.seen η S t t') (d.port roster) (d.port roster') := by
  apply port_matches Coupling.seen_over
  · intro inside inside' hp r
    exact dispatch_seen ht hp (d.port_steady inside) (d.port_steady inside') d rfl r.host r.text
  · exact h

theorem Port.noting_seen (hp : Port.Coupled (.seen η S t t') p q) :
    Port.Coupled (.seen η (fun s s' => S s.1 s'.1 ∧ s.2 = s'.2) t t') p.noting q.noting := by
  rintro host c w w' ⟨⟨hhost, hcalls⟩, hrest⟩
  obtain ⟨hexit, -, hhost, hrest⟩ := hp host c { w with host := w.host.1 }
    { w' with host := w'.host.1 } ⟨hhost, hrest⟩
  exact ⟨hexit, .inl trivial, ⟨hhost, congrArg (· ++ [c]) hcalls⟩, hrest⟩

end Seen

/-! ## Who is in charge afterwards -/

/-- Unless nothing goes on any more, the host in charge afterwards is the one
before. -/
def Act.Restores (x : Act η σ α) : Prop :=
  ∀ w, (x w).1 = .killed ∨ (x w).2.link.slot = w.link.slot

theorem Act.Restores.bind {x : Act η σ α} {f : α → Act η σ β} (hx : x.Restores)
    (hf : ∀ a, (f a).Restores) : (x >>= f).Restores := by
  intro w
  have hslot := hx w
  show (Act.bind x f w).1 = .killed ∨ (Act.bind x f w).2.link.slot = w.link.slot
  unfold Act.bind
  generalize x w = r at hslot
  obtain ⟨e, w'⟩ := r
  cases e with
  | killed => exact .inl rfl
  | done a =>
      have hslot : w'.link.slot = w.link.slot := hslot.resolve_left nofun
      exact hslot ▸ hf a w'
  | panicked payload => exact .inr (hslot.resolve_left nofun)
  | terminated => exact .inr (hslot.resolve_left nofun)
  | stalled => exact .inr (hslot.resolve_left nofun)

theorem Act.Restores.pure (a : α) : (Pure.pure a : Act η σ α).Restores := fun _ => .inr rfl

theorem Act.Restores.notes (es : List Log.Event) : (Act.notes es : Act η σ Unit).Restores :=
  fun _ => .inr rfl

theorem Act.Restores.note (e : Log.Event) : (Act.note e : Act η σ Unit).Restores :=
  fun _ => .inr rfl

theorem Session.run_restores (E : Engine) {p : Port η σ} (hp : p.Steady) (l : Locator)
    (o : SessionOptions) (host : η) (args : List String) : (run E p l o host args).Restores := by
  intro w
  cases hslot : w.link.slot with
  | some earlier =>
      rw [run_of_attached E (isAttached_of_slot hslot)]
      exact .inr hslot
  | none =>
      obtain ⟨-, hlink⟩ := runAttached_agree E hp l o args (Link.attachedWorld host w) rfl
      rw [run_of_detached E hslot, (afterwards_release ..).1,
        Link.afterwards_release_slot hslot hlink]
      rcases (runAttached E p l o args (Link.attachedWorld host w)).1 with _ | _ | _ | _ | _
      case killed => exact .inl rfl
      all_goals exact .inr rfl

namespace Dispatcher

theorem dispatch_restores {p : Port η σ} (hp : p.Steady) (hcall : ∀ h c, (p h c).Restores)
    (d : Dispatcher) (around : Surroundings) (host : η) (line : String) :
    (dispatch p d around host line).Restores := by
  unfold dispatch
  cases Action.route line with
  | none => exact .pure _
  | some action =>
      refine (Act.Restores.note _).bind fun _ => ?_
      cases action with
      | configQuery => exact (hcall host _).bind fun _ => .pure _
      | usage => exact (hcall host _).bind fun _ => .pure _
      | update =>
          refine (Act.Restores.note _).bind fun _ => (hcall host _).bind ?_
          rintro (e | output)
          · exact .pure _
          · exact (hcall host _).bind fun _ => .pure _
      | decompile args =>
          refine (Act.Restores.notes _).bind fun _ =>
            (Session.run_restores d.engine hp _ _ host args).bind ?_
          rintro (e | outcome)
          · exact .pure _
          · exact .pure _

theorem perform_restores (d : Dispatcher) (x : Reaction η σ (Line η) Verdict) :
    (x.perform fun p r => d.dispatch p r.around r.host r.text).Restores := by
  induction x with
  | reply answer s => exact fun _ => .inr rfl
  | panic payload s => exact fun _ => .inr rfl
  | hang s => exact fun _ => .inr rfl
  | note event next ih => exact fun w => ih { w with log := w.log.push event }
  | request r s inside resume ihInside ihResume =>
      intro w
      have hcall : ∀ h c, (d.port inside h c).Restores := fun h c v => ihInside h c v.host v
      have hline := dispatch_restores (d.port_steady inside) hcall d r.around r.host r.text
      rw [Reaction.perform_request]
      exact hline.bind (fun a v => ihResume a v.host v) { w with host := s }

theorem port_restores (d : Dispatcher) (roster : Host.Roster η σ (Line η) Verdict) (host : η)
    (c : Call) : (d.port roster host c).Restores :=
  fun w => d.perform_restores (roster host c w.host) w

end Dispatcher

end DecBridge
