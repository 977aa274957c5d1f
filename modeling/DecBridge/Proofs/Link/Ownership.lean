import DecBridge.Proofs.Link.Ledger
import DecBridge.Proofs.World.Attached

/-!
# Who owns a link

Whatever is done with a link, in whatever order and from inside whichever
call, at most one guard is held, and the link names the host of that guard.

The operations are watched, so that every event at the link is listed, those
inside calls included, and the list is shown to follow the rules of a ledger:
one lemma for each thing that an operation is made of, then `watch_keeping` for
an operation, and `Reaction.watch_keeping` for a host, by induction over what
it does with a call. `LinkOp.history_owned` is the statement for histories.
-/

namespace DecBridge

open Host (Call HostError Reaction Roster)

open Watched (plain of here)

variable {η σ α β : Type}

/-! ## Watching changes nothing -/

/-- The port without the listing. -/
def BookPort.act (p : BookPort η σ) : Port η σ := fun h c => (p h c).act

theorem Link.watchCall_act (p : BookPort η σ) (c : Call) :
    (watchCall p c).act = call p.act c := by
  funext w
  unfold Watched.act watchCall call
  cases w.link.slot <;> rfl

theorem Link.watchPrint_act (p : BookPort η σ) (text : String) :
    (watchPrint p text).act = print p.act text := by
  funext w
  unfold Watched.act watchPrint print
  cases w.link.slot <;> rfl

theorem LinkOp.watchUnwinding_act (p : BookPort η σ) (host : η) :
    (watchUnwinding p host).act = unwinding p.act host := by
  unfold watchUnwinding unwinding
  rw [Watched.act_bind]
  congr 1
  funext r
  cases r with
  | error e => rfl
  | ok guard =>
      simp only [Watched.act_afterwards, Watched.act_bind, Link.watchPrint_act]
      rfl

theorem LinkOp.watch_act (p : BookPort η σ) (op : LinkOp η) :
    (op.watch p).act = op.perform p.act := by
  cases op with
  | attach host =>
      unfold watch perform
      rw [Watched.act_bind]
      congr 1
      funext r
      cases r <;> rfl
  | drop guard => rfl
  | cmd command =>
      unfold watch perform
      rw [Watched.act_bind, Link.watchCall_act]
      rfl
  | print text =>
      unfold watch perform
      rw [Watched.act_bind, Link.watchPrint_act]
      rfl
  | unwind host =>
      unfold watch perform
      rw [Watched.act_bind, Watched.act_around, watchUnwinding_act]
      congr 1
      funext r
      cases r <;> rfl

theorem Host.Reaction.watch_act (x : Reaction η σ (LinkOp η) LinkResult) :
    x.watch.act = x.perform LinkOp.perform := by
  induction x with
  | reply answer s => rfl
  | panic payload s => rfl
  | hang s => rfl
  | note event next ih =>
      rw [watch, Watched.act_bind, ih]
      rfl
  | request op s inside resume ihInside ihResume =>
      funext w
      have hport : BookPort.act (fun h c => Link.calling h c
          (here fun s => (inside h c s).watch)) = port LinkOp.perform inside := by
        funext h c w
        exact congrFun (ihInside h c w.host) w
      have hresume : (fun a => (here fun s => (resume a s).watch).act) =
          fun a (w : World η σ) => (resume a w.host).perform LinkOp.perform w := by
        funext a w
        exact congrFun (ihResume a w.host) w
      rw [watch, perform_request, Watched.act_bind]
      refine (congrFun (Watched.act_bind _ _) _).trans ?_
      rw [LinkOp.watch_act, hport, hresume]

theorem LinkOp.bookPort_act (roster : Roster η σ (LinkOp η) LinkResult) :
    (bookPort roster).act = port roster := by
  funext h c w
  exact congrFun (roster h c w.host).watch_act w

theorem LinkOp.history_eq (p : BookPort η σ) (op : LinkOp η) (rest : List (LinkOp η))
    (w : World η σ) :
    history p.act (op :: rest) w = history p.act rest (op.watch p w).1.2 := by
  show history p.act rest (op.perform p.act w).2 = _
  rw [← LinkOp.watch_act]
  rfl

/-! ## Keeping the books -/

/-- The action follows the rules of the ledger, whatever the ledger says. -/
def Keeping (x : Book η σ α) : Prop :=
  ∀ w k, w.link.Shows k →
    ∃ k', Kept k (x w).2 k' ∧ (x w).1.2.link.Shows k'

/-- Calls of the host in charge follow the rules of the ledger. -/
def BookPort.Keeping (p : BookPort η σ) : Prop :=
  ∀ h c w k, w.link.Shows k → w.link.slot = some h →
    ∃ k', Kept k (p h c w).2 k' ∧ (p h c w).1.2.link.Shows k'

theorem Keeping.plain {x : Act η σ α} (hx : ∀ w, (x w).2.link = w.link) :
    Keeping (Watched.plain x : Book η σ α) := by
  intro w k hk
  refine ⟨k, .nil k, ?_⟩
  show (x w).2.link.Shows k
  rw [hx w]
  exact hk

theorem Keeping.bind {x : Book η σ α} {f : α → Book η σ β} (hx : Keeping x)
    (hf : ∀ a, Keeping (f a)) : Keeping (x >>= f) := by
  intro w k hk
  obtain ⟨k', hkept, hshows⟩ := hx w k hk
  show ∃ k', Kept k (Watched.bind x f w).2 k' ∧
    (Watched.bind x f w).1.2.link.Shows k'
  unfold Watched.bind
  generalize x w = r at hkept hshows
  obtain ⟨⟨e, w'⟩, steps⟩ := r
  cases e with
  | done a =>
      obtain ⟨k'', hkept', hshows'⟩ := hf a w' k' hshows
      exact ⟨k'', hkept.append hkept', hshows'⟩
  | panicked q => exact ⟨k', hkept, hshows⟩
  | terminated => exact ⟨k', hkept, hshows⟩
  | killed => exact ⟨k', hkept, hshows⟩
  | stalled => exact ⟨k', hkept, hshows⟩

theorem Keeping.catching {x : Book η σ α} (hx : Keeping x) :
    Keeping (x.around Act.catching) := by
  intro w k hk
  obtain ⟨k', hkept, hshows⟩ := hx w k hk
  refine ⟨k', hkept, ?_⟩
  show (Act.catching x.act w).2.link.Shows k'
  unfold Act.catching Watched.act
  rcases hr : x w with ⟨⟨e, w'⟩, steps⟩
  rw [hr] at hshows
  cases e <;> exact hshows

namespace Link

theorem attach_keeping (host : η) :
    Keeping (of (attach host) (attachSteps host) : Book η σ _) := by
  intro w k hk
  show ∃ k', Kept k (attachSteps host w) k' ∧ (attach host w).2.link.Shows k'
  unfold attachSteps
  rcases hk.slot_cases with ⟨hslot, hheld⟩ | ⟨g, host', hslot, hheld, -⟩
  · rw [attach_of_detached hslot]
    have hshows : (attachedWorld host w).link.Shows
        (k.record (.attached w.link.issued host)) := by
      refine ⟨?_, ?_, ?_, ?_⟩
      · show w.link.issued + 1 = (k.granted ++ [host]).length
        rw [hk.issued, List.length_append, List.length_singleton]
      · show w.link.issued :: w.link.live = [w.link.issued]
        rw [hk.live_eq_nil_iff.mpr hheld]
      · show some host = (k.granted ++ [host])[w.link.issued]?
        rw [hk.issued, List.getElem?_concat_length]
      · intro g hg
        obtain rfl : w.link.issued = g := Option.some.inj hg
        show w.link.issued < (k.granted ++ [host]).length
        rw [hk.issued, List.length_append]
        exact Nat.lt_succ_self _
    exact ⟨_, Kept.single ⟨hheld, hk.issued⟩ hshows, hshows⟩
  · rw [attach_of_attached (by rw [isAttached, hslot]; rfl)]
    refine ⟨k, Kept.single (k := k) ?_ hk, hk⟩
    show k.held ≠ none
    rw [hheld]
    exact Option.some_ne_none g

theorem release_keeping (guard : Nat) {w : World η σ} {k : Ledger η}
    (hk : w.link.Shows k) :
    ∃ k', Kept k (releaseSteps guard w) k' ∧ (release guard w).link.Shows k' := by
  unfold releaseSteps release
  split
  case isTrue hlive =>
    have hheld : k.held = some guard := (hk.contains_iff guard).mp hlive
    have hshows : Shows { w.link with slot := none, live := w.link.live.erase guard }
        { k with held := none } := by
      refine ⟨hk.issued, ?_, rfl, fun g hg => nomatch hg⟩
      show w.link.live.erase guard = []
      rw [hk.live, hheld, Option.toList_some, List.erase_cons_head]
    exact ⟨_, Kept.single (s := ⟨.released guard, _⟩) hheld hshows, hshows⟩
  case isFalse hdead =>
    have hheld : k.held ≠ some guard := fun h => hdead ((hk.contains_iff guard).mpr h)
    exact ⟨k, Kept.single (s := ⟨.ignored guard, _⟩) hheld hk, hk⟩

theorem afterwards_keeping {x : Book η σ α} (hx : Keeping x) (guard : Nat) :
    Keeping (x.afterwards (release guard) (releaseSteps guard)) := by
  intro w k hk
  obtain ⟨k', hkept, hshows⟩ := hx w k hk
  unfold Watched.afterwards
  generalize x w = r at hkept hshows
  obtain ⟨⟨e, w'⟩, steps⟩ := r
  obtain ⟨k'', hkept', hshows'⟩ := release_keeping guard hshows
  cases e with
  | killed => exact ⟨k', hkept, hshows⟩
  | done a => exact ⟨k'', hkept.append hkept', hshows'⟩
  | panicked q => exact ⟨k'', hkept.append hkept', hshows'⟩
  | terminated => exact ⟨k'', hkept.append hkept', hshows'⟩
  | stalled => exact ⟨k'', hkept.append hkept', hshows'⟩

theorem release_not_live (guard : Nat) {w : World η σ} {k : Ledger η}
    (hk : w.link.Shows k) : guard ∉ (release guard w).link.live := by
  unfold release
  split
  case isTrue hlive =>
    show guard ∉ w.link.live.erase guard
    rw [hk.live, (hk.contains_iff guard).mp hlive, Option.toList_some,
      List.erase_cons_head]
    exact List.not_mem_nil
  case isFalse hdead => simpa using hdead

/-- A guard that was given up afterwards is not held any more. -/
theorem afterwards_not_live {x : Book η σ α} (hx : Keeping x) (guard : Nat)
    {w : World η σ} {k : Ledger η} (hk : w.link.Shows k) :
    (x.act.afterwards (release guard) w).1 = .killed ∨
      guard ∉ (x.act.afterwards (release guard) w).2.link.live := by
  obtain ⟨k', -, hshows⟩ := hx w k hk
  unfold Act.afterwards Watched.act
  generalize x w = r at hshows
  obtain ⟨⟨e, w'⟩, steps⟩ := r
  have hfree := release_not_live guard hshows
  cases e with
  | killed => exact .inl rfl
  | done a => exact .inr hfree
  | panicked q => exact .inr hfree
  | terminated => exact .inr hfree
  | stalled => exact .inr hfree

/-- A call that finds no host only happens when no guard is held. -/
theorem missed_keeping {w : World η σ} {k : Ledger η} (hk : w.link.Shows k)
    (hslot : w.link.slot = none) (c : Call) :
    Kept k [⟨.missed c, w.link⟩] k :=
  Kept.single (s := ⟨.missed c, w.link⟩) (hk.slot_eq_none_iff.mp hslot) hk

theorem watchCall_keeping {p : BookPort η σ} (hp : p.Keeping) (c : Call) :
    Keeping (watchCall p c) := by
  intro w k hk
  unfold watchCall
  cases hslot : w.link.slot with
  | none => exact ⟨k, missed_keeping hk hslot c, hk⟩
  | some h => exact hp h c w k hk hslot

theorem watchPrint_keeping {p : BookPort η σ} (hp : p.Keeping) (text : String) :
    Keeping (watchPrint p text) := by
  intro w k hk
  unfold watchPrint
  cases hslot : w.link.slot with
  | none => exact ⟨k, missed_keeping hk hslot _, hk⟩
  | some h => exact hp h (.print text) w k hk hslot

theorem calling_keeping {h : η} {c : Call} {x : Book η σ α} (hx : Keeping x)
    {w : World η σ} {k : Ledger η} (hk : w.link.Shows k)
    (hslot : w.link.slot = some h) :
    ∃ k', Kept k (calling h c x w).2 k' ∧ (calling h c x w).1.2.link.Shows k' := by
  obtain ⟨k', hkept, hshows⟩ := hx w k hk
  have hholder : k.holder = some h := hk.slot ▸ hslot
  exact ⟨k', .cons (s := ⟨.reached h c, w.link⟩) hholder hk hkept, hshows⟩

end Link

theorem LinkOp.watchUnwinding_keeping {p : BookPort η σ} (hp : p.Keeping) (host : η) :
    Keeping (watchUnwinding p host) := by
  refine (Link.attach_keeping host).bind ?_
  rintro (e | guard)
  · exact .plain fun _ => rfl
  · refine Link.afterwards_keeping ?_ guard
    exact (Link.watchPrint_keeping hp _).bind fun _ => .plain fun _ => rfl

theorem LinkOp.watch_keeping {p : BookPort η σ} (hp : p.Keeping) (op : LinkOp η) :
    Keeping (op.watch p) := by
  cases op with
  | attach host =>
      refine (Link.attach_keeping host).bind ?_
      rintro (e | guard)
      · exact .plain fun _ => rfl
      · exact .plain fun _ => rfl
  | drop guard => exact fun w k hk => Link.release_keeping guard hk
  | cmd command =>
      exact (Link.watchCall_keeping hp _).bind fun _ => .plain fun _ => rfl
  | print text =>
      exact (Link.watchPrint_keeping hp text).bind fun _ => .plain fun _ => rfl
  | unwind host =>
      refine (watchUnwinding_keeping hp host).catching.bind ?_
      rintro (payload | r)
      · exact .plain fun _ => rfl
      · exact .plain fun _ => rfl

/-- What a host does with a call follows the rules, however deep it calls. -/
theorem Host.Reaction.watch_keeping (x : Reaction η σ (LinkOp η) LinkResult) :
    Keeping x.watch := by
  induction x with
  | reply answer s => exact .plain fun _ => rfl
  | panic payload s => exact .plain fun _ => rfl
  | hang s => exact .plain fun _ => rfl
  | note event next ih => exact (Keeping.plain fun _ => rfl).bind fun _ => ih
  | request op s inside resume ihInside ihResume =>
      have hp : BookPort.Keeping fun h c => Link.calling h c
          (here fun s => (inside h c s).watch) :=
        fun h c w k hk hslot =>
          Link.calling_keeping (fun w => ihInside h c w.host w) hk hslot
      exact (Keeping.plain fun _ => rfl).bind fun _ =>
        (LinkOp.watch_keeping hp op).bind fun a w => ihResume a w.host w

theorem LinkOp.bookPort_keeping (roster : Roster η σ (LinkOp η) LinkResult) :
    (bookPort roster).Keeping :=
  fun h c _ _ hk hslot =>
    Link.calling_keeping (fun w => (roster h c w.host).watch_keeping w) hk hslot

/-- A whole history follows the rules. -/
theorem LinkOp.history_keeping {p : BookPort η σ} (hp : p.Keeping)
    (ops : List (LinkOp η)) {w : World η σ} {k : Ledger η} (hk : w.link.Shows k) :
    ∃ k', Kept k (historySteps p ops w) k' ∧ (history p.act ops w).link.Shows k' := by
  induction ops generalizing w k with
  | nil => exact ⟨k, .nil k, hk⟩
  | cons op rest ih =>
      obtain ⟨k', hkept, hshows⟩ := op.watch_keeping hp w k hk
      obtain ⟨k'', hkept', hshows'⟩ := ih hshows
      rw [history_eq]
      exact ⟨k'', hkept.append hkept', hshows'⟩

/-! ## Ownership -/

/-- At most one guard is held, the link is attached exactly if one is, and the
host in charge is the one that this guard was handed out for. -/
structure Link.Owned (l : Link η) (steps : List (LinkStep η)) : Prop where
  single : l.live.length ≤ 1
  attached : l.isAttached = true ↔ l.live ≠ []
  host : ∀ g ∈ l.live, ∃ h, (∃ s ∈ steps, s.event = .attached g h) ∧ l.slot = some h

theorem Link.Shows.owned {l : Link η} {k : Ledger η} {steps : List (LinkStep η)}
    (h : l.Shows k) (hkept : Kept {} steps k) : l.Owned steps := by
  rcases h.slot_cases with ⟨hslot, hheld⟩ | ⟨g, host, hslot, hheld, hg⟩
  · have hlive : l.live = [] := h.live_eq_nil_iff.mpr hheld
    refine ⟨by simp [hlive], by simp [hlive, isAttached, hslot], ?_⟩
    intro g hg
    rw [hlive] at hg
    cases hg
  · have hlive : l.live = [g] := by rw [h.live, hheld, Option.toList_some]
    refine ⟨by simp [hlive], by simp [hlive, isAttached, hslot], ?_⟩
    intro g' hg'
    rw [hlive] at hg'
    obtain rfl := List.mem_singleton.mp hg'
    rcases hkept.granted hg with hnil | hmem
    · cases hnil
    · exact ⟨host, hmem, hslot⟩

/-- What each operation does in a world; only the state of the link decides. -/
structure LinkOp.Spec (p : Port η σ) (w : World η σ) : Prop where
  attach_free : w.link.live = [] → ∀ host, (attach host).perform p w =
    (.done (.attached w.link.issued), Link.attachedWorld host w)
  attach_taken : w.link.live ≠ [] → ∀ host, (attach host).perform p w =
    (.done (.refused .alreadyAttached), w)
  cmd_free : w.link.live = [] → ∀ command, (cmd command).perform p w =
    (.done (.answered (.error .noActiveHost)), w)
  cmd_taken : ∀ h, w.link.slot = some h → ∀ command, (cmd command).perform p w =
    (p h (.cmd command) >>= fun a => pure (.answered a)) w
  print_free : w.link.live = [] → ∀ text, (print text).perform p w =
    (.done (.printed (.error .noActiveHost)), w)
  print_taken : ∀ h, w.link.slot = some h → ∀ text, (print text).perform p w =
    (p h (.print text) >>= fun _ => pure (.printed (.ok ()))) w
  drop_held : ∀ g ∈ w.link.live, ((drop g).perform p w).1 = .done (.dropped true) ∧
    ((drop g).perform p w).2.link = { w.link with slot := none, live := [] }
  drop_other : ∀ g, g ∉ w.link.live →
    (drop g).perform p w = (.done (.dropped false), w)
  unwind_taken : w.link.live ≠ [] → ∀ host, (unwind host).perform p w =
    (.done (.unwound false), w)
  unwind_free : w.link.live = [] → ∀ host,
    ((unwind host).perform p w).1 = .killed ∨
      w.link.issued ∉ ((unwind host).perform p w).2.link.live

section Spec

variable {p : Port η σ} {w : World η σ}

theorem LinkOp.perform_attach_of_free (hw : w.link.slot = none) (host : η) :
    (attach host).perform p w =
      (.done (.attached w.link.issued), Link.attachedWorld host w) := by
  show Act.bind (Link.attach host) _ w = _
  unfold Act.bind
  rw [Link.attach_of_detached hw]
  rfl

theorem LinkOp.perform_attach_of_taken (hw : w.link.isAttached = true) (host : η) :
    (attach host).perform p w = (.done (.refused .alreadyAttached), w) := by
  show Act.bind (Link.attach host) _ w = _
  unfold Act.bind
  rw [Link.attach_of_attached hw]
  rfl

theorem LinkOp.perform_cmd_of_free (hw : w.link.slot = none) (command : String) :
    (cmd command).perform p w = (.done (.answered (.error .noActiveHost)), w) := by
  show Act.bind (Link.call p _) _ w = _
  unfold Act.bind Link.call
  rw [hw]
  rfl

theorem LinkOp.perform_print_of_free (hw : w.link.slot = none) (text : String) :
    (print text).perform p w = (.done (.printed (.error .noActiveHost)), w) := by
  show Act.bind (Link.print p text) _ w = _
  unfold Act.bind Link.print
  rw [hw]
  rfl

theorem LinkOp.perform_drop_of_held {g : Nat} (hw : w.link.live = [g]) :
    ((drop g).perform p w).1 = .done (.dropped true) ∧
      ((drop g).perform p w).2.link = { w.link with slot := none, live := [] } := by
  unfold perform Link.release
  simp [hw]

theorem LinkOp.perform_drop_of_other {g : Nat} (hw : g ∉ w.link.live) :
    (drop g).perform p w = (.done (.dropped false), w) := by
  unfold perform Link.release
  simp [hw]

theorem LinkOp.perform_unwind_of_taken (hw : w.link.isAttached = true) (host : η) :
    (unwind host).perform p w = (.done (.unwound false), w) := by
  have hunwinding : unwinding p host w = (.done (.error .alreadyAttached), w) := by
    show Act.bind (Link.attach host) _ w = _
    unfold Act.bind
    rw [Link.attach_of_attached hw]
    rfl
  show Act.bind (Act.catching (unwinding p host)) _ w = _
  unfold Act.bind Act.catching
  rw [hunwinding]
  rfl

/-- A panic gives up the guard of the frame that it unwinds. -/
theorem LinkOp.unwinding_releases {p : BookPort η σ} (hp : p.Keeping)
    {k : Ledger η} (hk : w.link.Shows k) (hw : w.link.slot = none) (host : η) :
    (unwinding p.act host w).1 = .killed ∨
      w.link.issued ∉ (unwinding p.act host w).2.link.live := by
  obtain ⟨k', -, hk'⟩ := Link.attach_keeping host w k hk
  change (Link.attach host w).2.link.Shows k' at hk'
  rw [Link.attach_of_detached hw] at hk'
  have hx : Keeping (Link.watchPrint p beforeUnwind >>= fun _ =>
      plain (Act.exit (.panicked .other)) : Book η σ (Except HostError Unit)) :=
    (Link.watchPrint_keeping hp _).bind fun _ => .plain fun _ => rfl
  have hfree := Link.afterwards_not_live hx w.link.issued hk'
  rw [Watched.act_bind, Link.watchPrint_act] at hfree
  show (Act.bind (Link.attach host) _ w).1 = _ ∨
    _ ∉ (Act.bind (Link.attach host) _ w).2.link.live
  unfold Act.bind
  rw [Link.attach_of_detached hw]
  exact hfree

theorem LinkOp.perform_unwind_of_free {p : BookPort η σ} (hp : p.Keeping)
    (hlive : w.link.live = []) (hw : w.link.slot = none) (host : η) :
    ((unwind host).perform p.act w).1 = .killed ∨
      w.link.issued ∉ ((unwind host).perform p.act w).2.link.live := by
  -- any hosts will do for the guards that were given up long ago
  have hk : w.link.Shows ⟨List.replicate w.link.issued host, none⟩ :=
    ⟨List.length_replicate.symm, hlive, hw, fun _ h => nomatch h⟩
  have hfree := unwinding_releases hp hk hw host
  show (Act.bind (Act.catching (unwinding p.act host)) _ w).1 = _ ∨
    _ ∉ (Act.bind (Act.catching (unwinding p.act host)) _ w).2.link.live
  unfold Act.bind Act.catching
  generalize unwinding p.act host w = r at hfree
  obtain ⟨e, w'⟩ := r
  rcases hfree with hkilled | hfree
  · obtain rfl : e = .killed := hkilled
    exact .inl rfl
  · cases e with
    | killed => exact .inl rfl
    | done a => exact .inr hfree
    | panicked q => exact .inr hfree
    | terminated => exact .inr hfree
    | stalled => exact .inr hfree

/-- In a state that is owned, each operation does what it should, whichever
hosts there are and whatever they do with a call. -/
theorem Link.Owned.spec {steps : List (LinkStep η)} (h : w.link.Owned steps)
    (roster : Roster η σ (LinkOp η) LinkResult) :
    LinkOp.Spec (LinkOp.port roster) w := by
  have hfree : w.link.live = [] → w.link.slot = none := by
    intro hlive
    cases hslot : w.link.slot with
    | none => rfl
    | some host =>
        have hattached : w.link.isAttached = true := by
          rw [isAttached, hslot]
          rfl
        exact absurd hlive (h.attached.mp hattached)
  refine
    { attach_free := fun hlive => LinkOp.perform_attach_of_free (hfree hlive)
      attach_taken := fun hlive => LinkOp.perform_attach_of_taken (h.attached.mpr hlive)
      cmd_free := fun hlive => LinkOp.perform_cmd_of_free (hfree hlive)
      cmd_taken := fun host hslot command => Link.call_then hslot _ _
      print_free := fun hlive => LinkOp.perform_print_of_free (hfree hlive)
      print_taken := fun host hslot text => Link.print_then hslot _ _
      drop_held := ?_
      drop_other := fun g hg => LinkOp.perform_drop_of_other hg
      unwind_taken := fun hlive => LinkOp.perform_unwind_of_taken (h.attached.mpr hlive)
      unwind_free := ?_ }
  · intro g hg
    have hlive : w.link.live = [g] := by
      obtain ⟨xs, ys, hsplit⟩ := List.append_of_mem hg
      have hlen := h.single
      rw [hsplit] at hlen ⊢
      simp only [List.length_append, List.length_cons] at hlen
      obtain rfl : xs = [] := List.eq_nil_of_length_eq_zero (by omega)
      obtain rfl : ys = [] := List.eq_nil_of_length_eq_zero (by omega)
      rfl
    exact LinkOp.perform_drop_of_held hlive
  · intro hlive host
    rw [← LinkOp.bookPort_act]
    exact LinkOp.perform_unwind_of_free (LinkOp.bookPort_keeping roster) hlive
      (hfree hlive) host

end Spec

/-- The ownership of a link, over every history that starts with a new one.

Every event of the history, at whatever depth of calls within calls, is legal
by the events before it, and the link is then owned: at most one guard is
held, the link is attached exactly if one is, and its host is the one of that
guard's attachment. In an owned state each operation does what `LinkOp.Spec`
says. An operation that a host carries out while it is called is that same
operation in the world as it then is. -/
theorem LinkOp.history_owned (roster : Roster η σ (LinkOp η) LinkResult)
    (ops : List (LinkOp η)) (s : σ) (t : Trap) (log : Array Log.Event) (engines : Engines) :
    let w₀ : World η σ := ⟨s, {}, t, log, engines⟩
    let steps := historySteps (bookPort roster) ops w₀
    (∀ pre step post, steps = pre ++ step :: post →
        step.event.Legal (({} : Ledger η).after pre) ∧
          step.link.Owned (pre ++ [step])) ∧
      (history (port roster) ops w₀).link.Owned steps ∧
      (∀ (inner : Roster η σ (LinkOp η) LinkResult) (w : World η σ) seen,
        w.link.Owned seen → Spec (port inner) w) ∧
      ∀ (op : LinkOp η) (s' : σ) (inner : Roster η σ (LinkOp η) LinkResult) resume
        (w : World η σ),
        (Reaction.request op s' inner resume).perform perform w =
          (op.perform (port inner) >>= fun a w' =>
            (resume a w'.host).perform perform w') { w with host := s' } := by
  dsimp only
  obtain ⟨k, hkept, hshows⟩ := history_keeping (bookPort_keeping roster) ops
    (w := ⟨s, {}, t, log, engines⟩) Link.Shows.empty
  rw [bookPort_act] at hshows
  refine ⟨?_, hshows.owned hkept, fun inner w seen h => h.spec inner, ?_⟩
  · intro pre step post hsteps
    obtain ⟨legal, hs⟩ := hkept.step hsteps
    exact ⟨legal, hs.owned (hkept.upTo hsteps)⟩
  · exact fun op s' inner resume w => Reaction.perform_request _ op s' inner resume w

/-- Hosts of which the first, when it is sent a command, hands over to the
second in the middle of the call. -/
def LinkOp.handover : Roster Bool Unit (LinkOp Bool) LinkResult
  | true, .cmd _, s =>
    .request (.drop 0) s (fun _ _ s => .reply (.ok "") s) fun _ s =>
      .request (.attach false) s (fun _ _ s => .reply (.ok "") s) fun _ s =>
        .reply (.ok "") s
  | _, _, s => .reply (.ok "") s

/-- After the handover the second host is in charge, and calls reach it. -/
theorem LinkOp.history_owned_handover :
    let w₀ : World Bool Unit := ⟨(), {}, ⟨.contain, {}, false⟩, #[], {}⟩
    let ops : List (LinkOp Bool) := [.attach true, .cmd "x", .cmd "y"]
    (historySteps (bookPort handover) ops w₀).map (fun s => s.event) =
        [.attached 0 true, .reached true (.cmd "x"), .released 0, .attached 1 false,
          .reached false (.cmd "y")] ∧
      (history (port handover) ops w₀).link.slot = some false ∧
      Spec (port handover) (history (port handover) ops w₀) := by
  refine ⟨rfl, by decide +kernel, ?_⟩
  have h := history_owned handover [.attach true, .cmd "x", .cmd "y"] ()
    ⟨.contain, {}, false⟩ #[] {}
  exact h.2.2.1 handover _ _ h.2.1

end DecBridge
