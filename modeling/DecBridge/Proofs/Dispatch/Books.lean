import DecBridge.Dispatch.Books
import DecBridge.Proofs.Session.Faults

/-!
# The books of a dispatcher

The hosts do not look at the books that are carried along with their state, so
the run with books is the run without them (`handleAll_coupled`).

Under the containing policy the books balance (`handleAll_balanced`): at every
moment outside of a session the trap is what the faults on the books have made
of it. A port call keeps the balance because each line that a host hands in
does, and a line keeps it because a session either leaves the trap alone and
ends without a fault, or trips it once and ends as faulted.
-/

namespace DecBridge

open DecBridge.Bundle (Locator)

open Host (Call HostError Reaction)

open Act (Coupled)

variable {η σ ρ α β L : Type}

namespace Dispatcher

/-! ## Keeping books changes nothing -/

theorem enter_coupled (v : Verdict) :
    Coupled (.carried η σ Books) (pure ()) (enter v) := by
  rintro w w' ⟨hhost, hrest⟩
  exact ⟨rfl, .inl trivial, hhost, hrest⟩

theorem bind_pure_pair (x : Act η σ α) :
    x = x >>= fun v => (pure () : Act η σ Unit) >>= fun _ => pure v := by
  funext w
  show _ = Act.bind x _ w
  unfold Act.bind
  rcases x w with ⟨_ | _ | _ | _ | _, w'⟩ <;> rfl

theorem book_coupled (d : Dispatcher) {p : Port η σ} {q : Port η (σ × Books)}
    (hp : Port.Coupled (.carried η σ Books) p q) (r : Line η) :
    Coupled (.carried η σ Books) (d.dispatch p r.around r.host r.text) (d.book q r) := by
  rw [bind_pure_pair (d.dispatch p r.around r.host r.text)]
  exact (dispatch_coupled hp d r.around r.host r.text).bind fun v =>
    (enter_coupled v).bind fun _ => Coupled.pure v

theorem bookPort_coupled (d : Dispatcher)
    (roster : Host.Roster η σ (Line η) Verdict) :
    Port.Coupled (.carried η σ Books) (d.port roster) (d.bookPort roster) := by
  apply port_matches (Coupling.ofHosts_over _)
  · exact fun _ _ hp r => d.book_coupled hp r
  · rintro h c _ t rfl
    simpa using (roster h c t.1).carry_matches (A := fun _ => True) (a := t.2) trivial

theorem handleAll_coupled_of {C : Coupling η σ β} {f : Line η → Act η σ Verdict}
    {g : Line η → Act η β Verdict} (h : ∀ r, Coupled C (f r) (g r))
    (lines : List (Line η)) : Coupled C (handleAll f lines) (handleAll g lines) := by
  induction lines with
  | nil => exact Coupled.pure _
  | cons r rest ih =>
      exact (h r).catching.bind fun _ => ih.bind fun _ => Coupled.pure _

/-- The run with books is the run without them. -/
theorem handleAll_coupled (d : Dispatcher)
    (roster : Host.Roster η σ (Line η) Verdict) (lines : List (Line η)) :
    Coupled (.carried η σ Books) (d.dispatchAll roster lines) (d.bookAll roster lines) :=
  handleAll_coupled_of (d.book_coupled (d.bookPort_coupled roster)) lines

end Dispatcher

/-! ## The trap after some faults -/

/-- The trap once faults with these messages were reported. -/
def Trap.after (t : Trap) (messages : List String) : Trap :=
  messages.foldl (fun t m => (t.report (some m)).1) t

theorem Trap.after_eq_told (t : Trap) (messages : List String) :
    t.after messages = t.told (messages.map some) := by
  unfold Trap.after
  induction messages generalizing t with
  | nil => exact t.told_nil.symm
  | cons m ms ih =>
      rw [List.foldl_cons, report_eq, ih, told_told]
      rfl

theorem Trap.after_policy (t : Trap) (messages : List String) :
    (t.after messages).policy = t.policy := by
  rw [after_eq_told, told_policy]

/-- A sound sink gets the diagnostic and is flushed. -/
theorem Trap.report_of_sound {t : Trap} (h : t.sink.behaviour = .sound)
    (message : Option String) :
    (t.report message).1 =
      { t with sink := { t.sink with
        text := t.sink.text ++ diagnostic message, flushes := t.sink.flushes + 1 } } := by
  rw [report_eq]
  simp [told, Output.Sink.given, Output.Sink.stored, Output.Sink.stores, h]

theorem Trap.after_of_sound {t : Trap} (h : t.sink.behaviour = .sound)
    (messages : List String) :
    t.after messages =
      { t with sink := { t.sink with
        text := t.sink.text ++ String.join (messages.map fun m => diagnostic (some m))
        flushes := t.sink.flushes + messages.length } } := by
  rw [after_eq_told]
  simp [told, Output.Sink.given, Output.Sink.stored, Output.Sink.stores, h, Function.comp_def]

namespace Dispatcher

theorem faults_append (b b' : Books) : faults (b ++ b') = faults b ++ faults b' :=
  List.filterMap_append

/-! ## The balance -/

/-- The trap is what the faults on the books have made of it. -/
def Balanced (t : Trap) (w : World η (σ × Books)) : Prop :=
  w.trap = t.after (faults w.host.2)

/-- A run with books beside itself, while they balance. -/
def balance (η σ : Type) (t : Trap) : Coupling η (σ × Books) (σ × Books) where
  holds w w' := w = w' ∧ Balanced t w
  fatal := False
  slot_eq h := congrArg (·.link.slot) h.1
  logged f h := ⟨congrArg (fun w : World η (σ × Books) => { w with log := f w.log }) h.1, h.2⟩

/-- An action that keeps the balance. -/
def Keeps (t : Trap) (x : Act η (σ × Books) α) : Prop := Coupled (balance η σ t) x x

theorem keeps_iff {t : Trap} {x : Act η (σ × Books) α} :
    Keeps t x ↔ ∀ w, Balanced t w → (x w).1.Lasts ∧ Balanced t (x w).2 := by
  constructor
  · intro h w hw
    obtain ⟨-, hlasts, -, hafter⟩ := h w w ⟨rfl, hw⟩
    exact ⟨hlasts.resolve_left id, hafter⟩
  · rintro h w _ ⟨rfl, hw⟩
    exact ⟨rfl, .inr (h w hw).1, rfl, (h w hw).2⟩

/-- What is left of a world once a line was handled: the books balance again as
soon as the verdict is entered. -/
def Owes (t : Trap) (r : Exit Verdict × World η (σ × Books)) : Prop :=
  match r with
  | (.done v, w) => w.trap = t.after (faults (w.host.2 ++ [v]))
  | (e, w) => e.Lasts ∧ Balanced t w

theorem owes_pure {t : Trap} {v : Verdict} (hv : faultOf v = none)
    {w : World η (σ × Books)} (hw : Balanced t w) :
    Owes t ((pure v : Act η (σ × Books) Verdict) w) := by
  show w.trap = t.after (faults (w.host.2 ++ [v]))
  rw [faults_append, show faults [v] = [] by simp [faults, hv], List.append_nil]
  exact hw

theorem owes_bind {t : Trap} {x : Act η (σ × Books) α}
    {f : α → Act η (σ × Books) Verdict} (hx : Keeps t x)
    (hf : ∀ a w, Balanced t w → Owes t (f a w)) {w : World η (σ × Books)}
    (hw : Balanced t w) : Owes t ((x >>= f) w) := by
  obtain ⟨hlasts, hafter⟩ := keeps_iff.mp hx w hw
  show Owes t (Act.bind x f w)
  unfold Act.bind
  generalize x w = r at hlasts hafter
  obtain ⟨e, w'⟩ := r
  cases e with
  | done a => exact hf a w' hafter
  | panicked q => exact ⟨trivial, hafter⟩
  | stalled => exact ⟨trivial, hafter⟩
  | terminated => exact hlasts.elim
  | killed => exact hlasts.elim

/-- Entering the verdict restores the balance. -/
theorem keeps_of_owes {t : Trap} {x : Act η (σ × Books) Verdict}
    (hx : ∀ w, Balanced t w → Owes t (x w)) :
    Keeps t (do let v ← x; enter v; return v) := by
  refine keeps_iff.mpr fun w hw => ?_
  have howes := hx w hw
  show (Act.bind x _ w).1.Lasts ∧ Balanced t (Act.bind x _ w).2
  unfold Act.bind
  generalize x w = r at howes
  obtain ⟨e, w'⟩ := r
  cases e with
  | done v => exact ⟨trivial, howes⟩
  | panicked q => exact howes
  | stalled => exact howes
  | terminated => exact howes
  | killed => exact howes

end Dispatcher

/-! ## Sessions and the books -/

namespace Session

variable {E : Engine} {p : Port η σ} {l : Locator} {o : SessionOptions} {args : List String}

theorem ending_host (r : Exit (Except String SessionOutcome) × World η σ) :
    (ending r).2.host = r.2.host := by
  -- what is left to do looks at no state of hosts, so it keeps whichever there is
  have hconclude : ∀ r (w : World η σ), (conclude r w).2.host = w.host := fun r w =>
    (conclude_coupled (ofHosts_through (S := fun s _ => s = w.host)) r w w
      ⟨rfl, rfl, rfl, rfl, rfl⟩).2.2.1
  rcases r with ⟨r | q | _ | _ | _, w⟩
  · exact hconclude _ w
  · exact hconclude _ w
  · rfl
  · rfl
  · rfl

theorem afterwards_release_host (x : Act η σ α) (guard : Nat) (w : World η σ) :
    (x.afterwards (Link.release guard) w).2.host = (x w).2.host := by
  have hrelease : ∀ w : World η σ, (Link.release guard w).host = w.host := by
    intro w
    unfold Link.release
    split <;> rfl
  unfold Act.afterwards
  rcases x w with ⟨_ | _ | _ | _ | _, w'⟩
  case killed => rfl
  all_goals exact hrelease w'

/-- A session leaves the hosts as everything in the engine left them. -/
theorem run_host (l : Locator) (args : List String) (host : η) {w : World η σ}
    (hw : w.link.slot = none) {s : E.State}
    (hs : E.create o.limits w.engines.created = .ok s) :
    (run E p l o host args w).2.host =
      (drive E p l o args s (startWorld l host args w)).2.host := by
  rw [run_of_detached E hw, afterwards_release_host, runAttached_created E hs, ending_host]

/-- The engine's part of a session ends with a fault that has this message: the
engine failed, or a panic left it. -/
def FaultsWith (E : Engine) (p : Port η σ) (l : Locator) (o : SessionOptions) (host : η)
    (args : List String) (w : World η σ) (message : String) : Prop :=
  ∃ s, E.create o.limits w.engines.created = .ok s ∧
    ((drive E p l o args s (startWorld l host args w)).1 = .done (.error message) ∨
      ∃ q, (drive E p l o args s (startWorld l host args w)).1 = .panicked q ∧
        message = panicMessage q)

theorem drive_ne_faulted (hp : p.Steady) (l : Locator) (args : List String) (host : η)
    {s : E.State} (w : World η σ)
    (hs : E.create o.limits w.engines.created = .ok s) (message : String) :
    (drive E p l o args s (startWorld l host args w)).1 ≠ .done (.ok (.faulted message)) := by
  rw [← watchDrive_act]
  intro he
  have hdone := (watchDrive_follows hp E l o args (E.create_kept hs)
    (startWorld l host args w) rfl).2
  exact (hdone _ he rfl).2 message rfl

/-- A session leaves the trap alone or trips it with the message of its fault. -/
theorem run_untripped_or_tripped (hp : p.Steady) (l : Locator) (o : SessionOptions)
    (args : List String) (host : η) (w : World η σ) :
    Untripped w (run E p l o host args w) ∨
      ∃ message, FaultsWith E p l o host args w message ∧
        Tripped w message (run E p l o host args w) := by
  cases hslot : w.link.slot with
  | some earlier => exact .inl (run_unstarted E host (.inl (isAttached_of_slot hslot)))
  | none =>
      cases hs : E.create o.limits w.engines.created with
      | error reason => exact .inl (run_unstarted E host (.inr ⟨reason, hs⟩))
      | ok s =>
          have hrun := run_of_drive E hp l args host hslot hs
          have hne := drive_ne_faulted hp l args host w hs
          rcases he : (drive E p l o args s (startWorld l host args w)).1 with
            (message | outcome) | q | _ | _ | _
          all_goals rw [he] at hrun
          · exact .inr ⟨message, ⟨s, hs, .inl he⟩, hrun⟩
          · rw [he] at hne
            refine .inl ⟨hrun.2, .inr ⟨_, hrun.1, fun message hm => hne message ?_⟩⟩
            rw [Except.ok.inj hm]
          · exact .inr ⟨panicMessage q, ⟨s, hs, .inr ⟨q, he, rfl⟩⟩, hrun⟩
          · exact hrun.elim
          · exact hrun.elim
          · exact .inl ⟨hrun.2, .inl hrun.1⟩

end Session

namespace Dispatcher

/-- While a session runs, no fault comes onto the books. -/
theorem run_faults_on_books {E : Engine} {p : Port η (σ × Books)} (hp : p.Steady) {t : Trap}
    (hkeeps : ∀ h c, Keeps t (p h c)) (l : Locator) (o : SessionOptions) (host : η)
    (args : List String) {w : World η (σ × Books)} (hw : Balanced t w) :
    w.trap = t.after (faults (Session.run E p l o host args w).2.host.2) := by
  cases hslot : w.link.slot with
  | some earlier =>
      rw [Session.run_of_attached E (Session.isAttached_of_slot hslot)]
      exact hw
  | none =>
      cases hs : E.create o.limits w.engines.created with
      | error reason =>
          rw [Session.run_of_detached E hslot, Session.afterwards_release_host,
            Session.runAttached_refused E hs]
          exact hw
      | ok s =>
          have hstart : Balanced t (Session.startWorld l host args w) := hw
          obtain ⟨-, hafter⟩ := keeps_iff.mp (Session.drive_coupled E hkeeps l o args s) _ hstart
          obtain ⟨-, hstay⟩ := Session.drive_alike E hp l o args s
            (Session.startWorld l host args w) rfl
          rw [Session.run_host _ _ _ hslot hs]
          exact hstay.trap.symm.trans hafter

theorem decompile_owes {p : Port η (σ × Books)} (hp : p.Steady) {t : Trap}
    (ht : t.policy = .contain) (hkeeps : ∀ h c, Keeps t (p h c)) (d : Dispatcher)
    (around : Surroundings) (host : η) (args : List String)
    {w : World η (σ × Books)} (hw : Balanced t w) :
    Owes t (carryOut p d around host (.decompile args) w) := by
  refine owes_bind (Coupled.notes _) (fun _ w hw => ?_) hw
  have hpolicy : w.trap.policy = .contain := by
    rw [hw, Trap.after_policy, ht]
  have hbooks := run_faults_on_books (E := d.engine) hp hkeeps (d.roots.locator around) d.options
    host args hw
  have hrun := Session.run_untripped_or_tripped (E := d.engine) hp (d.roots.locator around)
    d.options args host w
  show Owes t (Act.bind (Session.run d.engine p _ _ host args) _ w)
  unfold Act.bind
  generalize Session.run d.engine p (d.roots.locator around) d.options host args w = r
    at hbooks hrun
  obtain ⟨e, w'⟩ := r
  rcases hrun with ⟨htrap, rfl | ⟨result, rfl, hresult⟩⟩ | ⟨message, -, htrap, hexit⟩
  · exact ⟨trivial, htrap.trans hbooks⟩
  · have hbalanced : Balanced t w' := htrap.trans hbooks
    cases result with
    | error e => exact owes_pure rfl hbalanced
    | ok outcome =>
        refine owes_pure ?_ hbalanced
        cases outcome with
        | faulted message => exact absurd rfl (hresult message)
        | completed => rfl
        | entryPointMissing => rfl
        | scriptFailed message => rfl
  · rw [if_pos hpolicy] at hexit
    obtain rfl : e = .done (.ok (.faulted message)) := hexit
    show w'.trap = t.after (faults (w'.host.2 ++ [.ok (.session (.faulted message))]))
    rw [faults_append]
    unfold Trap.after at hbooks ⊢
    rw [List.foldl_append, ← hbooks]
    exact htrap

theorem dispatch_owes {p : Port η (σ × Books)} (hp : p.Steady) {t : Trap}
    (ht : t.policy = .contain) (hkeeps : ∀ h c, Keeps t (p h c)) (d : Dispatcher)
    (around : Surroundings) (host : η) (line : String)
    {w : World η (σ × Books)} (hw : Balanced t w) :
    Owes t (dispatch p d around host line w) := by
  unfold dispatch
  cases Action.route line with
  | none => exact owes_pure rfl hw
  | some action =>
      refine owes_bind (Coupled.note _) (fun _ w hw => ?_) hw
      cases action with
      | configQuery => exact owes_bind (hkeeps host _) (fun _ _ => owes_pure rfl) hw
      | usage => exact owes_bind (hkeeps host _) (fun _ _ => owes_pure rfl) hw
      | update =>
          refine owes_bind (Coupled.note _) (fun _ w hw => ?_) hw
          refine owes_bind (hkeeps host _) (fun answer w hw => ?_) hw
          cases answer with
          | error e => exact owes_pure rfl hw
          | ok output => exact owes_bind (hkeeps host _) (fun _ _ => owes_pure rfl) hw
      | decompile args => exact decompile_owes hp ht hkeeps d around host args hw

theorem book_keeps {p : Port η (σ × Books)} (hp : p.Steady) {t : Trap}
    (ht : t.policy = .contain) (hkeeps : ∀ h c, Keeps t (p h c)) (d : Dispatcher)
    (r : Line η) : Keeps t (d.book p r) :=
  keeps_of_owes fun _ hw => dispatch_owes hp ht hkeeps d r.around r.host r.text hw

/-! ## Hosts and the books -/

theorem book_alike {p q : Port η (σ × Books)} (hp : Port.Alike p q) (d : Dispatcher)
    (r : Line η) : Act.Alike (d.book p r)
      (do let v ← d.dispatchBusy q r.around r.host r.text; enter v; return v) :=
  (dispatch_alike hp d r.around r.host r.text).bind fun _ =>
    Act.Alike.bind (fun _ _ => ⟨rfl, trivial, rfl, rfl⟩) fun _ => Act.Alike.pure _

theorem bookPort_steady (d : Dispatcher)
    (roster : Host.Roster η (σ × Books) (Line η) Verdict) :
    (DecBridge.port d.book roster).Steady :=
  (port_alike (fun _ _ hp r => book_alike hp d r) roster).left

/-- What a host does with a call keeps the balance. -/
theorem perform_keeps {t : Trap} (ht : t.policy = .contain) (d : Dispatcher)
    (x : Reaction η σ (Line η) Verdict) (b : Books) {w : World η (σ × Books)}
    (hw : w.trap = t.after (faults b)) :
    ((x.carry b).perform d.book w).1.Lasts ∧ Balanced t ((x.carry b).perform d.book w).2 := by
  induction x generalizing b w with
  | reply answer s => exact ⟨trivial, hw⟩
  | panic payload s => exact ⟨trivial, hw⟩
  | hang s => exact ⟨trivial, hw⟩
  | note event next ih => exact ih b hw
  | request r s inside resume ihInside ihResume =>
      have hkeeps : ∀ h c, Keeps t
          (DecBridge.port d.book (fun h c t => (inside h c t.1).carry t.2) h c) :=
        fun h c => keeps_iff.mpr fun v hv => ihInside h c v.host.1 v.host.2 hv
      rw [Reaction.carry, Reaction.perform_request]
      refine keeps_iff.mp (Coupled.bind (book_keeps (bookPort_steady d _) ht hkeeps d r)
        fun a => ?_) _ hw
      exact keeps_iff.mpr fun v hv => ihResume a v.host.1 v.host.2 hv

theorem bookPort_keeps {t : Trap} (ht : t.policy = .contain) (d : Dispatcher)
    (roster : Host.Roster η σ (Line η) Verdict) (h : η) (c : Call) :
    Keeps t (d.bookPort roster h c) :=
  keeps_iff.mpr fun w hw => perform_keeps ht d (roster h c w.host.1) w.host.2 hw

/-- The books balance after any lines. -/
theorem handleAll_balanced {t : Trap} (ht : t.policy = .contain) (d : Dispatcher)
    (roster : Host.Roster η σ (Line η) Verdict) (lines : List (Line η)) :
    Keeps t (d.bookAll roster lines) :=
  handleAll_coupled_of
    (book_keeps (bookPort_steady d _) ht (bookPort_keeps ht d roster) d) lines

end Dispatcher

end DecBridge
