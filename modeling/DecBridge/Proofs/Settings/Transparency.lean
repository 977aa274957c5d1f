import DecBridge.Proofs.Dispatch.Seen
import DecBridge.Proofs.Session.Scripted
import DecBridge.Proofs.Settings.Linewise

/-!
# The overlay as a filter

The overlay of the settings splits any calls into two streams: settings commands,
which it answers itself, and everything else, which the wrapped host answers as
if there were no overlay. `overlay_transparent` says that neither stream hears of
the other.

The wrapped host has a state of its own, and the settings are carried beside it.
It may fail, panic, hang, or hand lines to a dispatcher, but it knows nothing of
the overlay. `Dispatcher.askAll_overlaid` follows both streams through any calls:
the wrapped host is related to itself without the overlay by what it can see
(`Coupling.seen`), since a settings command may leave something in the log.
-/

namespace DecBridge

open Host (Call HostError Part Reaction)

open Dispatcher (Line Verdict)

variable {η τ : Type}

/-! ## Assignments -/

/-- What a setting reads as once a text was assigned to it, if it may be. -/
def Setting.taken? : Setting → String → Option String
  | .casts, value => (Settings.boolOf? value).map Settings.boolText
  | .theme, value => some value

/-- What a command makes a setting read as, if it is a valid assignment to it. -/
def SettingsCommand.assigned? (key : Setting) : SettingsCommand → Option String
  | .get _ => none
  | .set name value => if name = key.name then key.taken? value else none

namespace Settings

theorem get_after (s : Settings) (x : SettingsCommand) (key : Setting) :
    (s.after x).get key = (x.assigned? key).getD (s.get key) := by
  cases x with
  | get name =>
      have hafter : s.after (.get name) = s := by
        unfold after
        rw [execute]
        cases Setting.ofName name <;> rfl
      rw [hafter]
      rfl
  | set name value =>
      rcases ofName_cases name with ⟨rfl, -⟩ | ⟨rfl, -⟩ | hname
      · cases key with
        | theme =>
            rcases s.casts_spec value with ⟨b, -, -, hafter⟩ | ⟨-, -, hafter⟩
            · rw [hafter]
              rfl
            · rw [hafter]
              rfl
        | casts =>
            rcases s.casts_spec value with ⟨b, hb, -, hafter⟩ | ⟨hb, -, hafter⟩
            · rw [hafter]
              simp [SettingsCommand.assigned?, Setting.name, Setting.taken?, hb, get]
            · rw [hafter]
              simp [SettingsCommand.assigned?, Setting.name, Setting.taken?, hb]
      · cases key with
        | theme => rfl
        | casts => rfl
      · have hne : name ≠ key.name := by
          rintro rfl
          cases key <;> cases hname
        rw [(s.unknown_spec (x := .set name value) hname).2]
        simp [SettingsCommand.assigned?, hne]

/-- Each setting has the value of the last valid assignment to it. -/
theorem get_foldl_after (s : Settings) (xs : List SettingsCommand) (key : Setting) :
    (xs.foldl after s).get key =
      (xs.filterMap (·.assigned? key)).getLast?.getD (s.get key) := by
  induction xs generalizing s with
  | nil => rfl
  | cons x xs ih =>
      rw [List.foldl_cons, ih, get_after]
      cases hx : x.assigned? key with
      | none => simp [hx]
      | some value => simp [hx, List.getLast?_cons]

/-- What commands put out one after the other. -/
def answers (s : Settings) : List SettingsCommand → List String
  | [] => []
  | x :: xs => s.output x :: (s.after x).answers xs

end Settings

/-! ## Calls -/

/-- The settings command that a call is recognised as. -/
def Host.Call.settings? : Call → Option SettingsCommand
  | .cmd text => SettingsCommand.parse text
  | .print _ => none

/-- What the calls came to of which `p` holds. -/
def answersTo {α : Type} (p : Call → Bool) (cs : List Call) (answers : List α) : List α :=
  ((cs.zip answers).filter fun x => p x.1).map Prod.snd

theorem answersTo_cons {α : Type} (p : Call → Bool) (c : Call) (cs : List Call) (a : α)
    (answers : List α) : answersTo p (c :: cs) (a :: answers) =
      if p c then a :: answersTo p cs answers else answersTo p cs answers := by
  unfold answersTo
  rw [List.zip_cons_cons, List.filter_cons]
  split <;> rfl

namespace Dispatcher

variable {σ : Type} (d : Dispatcher)

/-- Calls a host that may hand lines to a dispatcher meanwhile. -/
def ask (x : Call → σ → Reaction η σ (Line η) Verdict) (c : Call) :
    Act η σ (Except HostError String) :=
  fun w => (x c w.host).perform (fun p r => d.dispatch p r.around r.host r.text) w

/-- Makes calls one after the other, whatever each of them comes to. -/
def askAll (x : Call → σ → Reaction η σ (Line η) Verdict) :
    List Call → World η σ → List (Exit (Except HostError String)) × World η σ
  | [], w => ([], w)
  | c :: cs, w =>
    let r := d.ask x c w
    let rest := askAll x cs r.2
    (r.1 :: rest.1, rest.2)

end Dispatcher

namespace Settings

/-- The settings beside the state of a host. -/
def besidePart : Part (τ × Settings) Settings where
  get := Prod.snd
  put s t := (t.1, s)

/-- A host behind the overlay that looks at nothing but its own state. -/
def overlaid (inner : Call → τ → Reaction η τ (Line η) Verdict) :
    Call → τ × Settings → Reaction η (τ × Settings) (Line η) Verdict :=
  overlay besidePart fun c t => (inner c t.1).carry t.2

/-- Whether a call goes to the wrapped host. -/
def passes (c : Call) : Bool := c.settings?.isNone

end Settings

/-! ## The two streams -/

/-- A host alone beside the same host that carries this along. -/
def Coupling.beside (η τ : Type) {L : Type} (t : Trap) (b : L) : Coupling η τ (τ × L) :=
  .seen η (fun s r => s = r.1 ∧ r.2 = b) t t

theorem Host.Reaction.perform_put {ρ α : Type} {serve : Port η τ → ρ → Act η τ α}
    (x : Reaction η τ ρ α) (s : τ) (w : World η τ) :
    x.perform serve { w with host := s } = x.perform serve w := by
  induction x generalizing w with
  | reply answer s => rfl
  | panic payload s => rfl
  | hang s => rfl
  | note event next ih => exact ih { w with log := w.log.push event }
  | request r s inside resume => rw [perform_request, perform_request]

namespace Dispatcher

open Settings (overlaid passes)

variable {L : Type} (d : Dispatcher) (inner : Call → τ → Reaction η τ (Line η) Verdict) {t : Trap}
  {b : Settings} {v : World η τ} {w : World η (τ × Settings)}

/-- What is carried along stays. -/
theorem carry_beside (x : Reaction η τ (Line η) Verdict) (a : L) :
    Act.Coupled (.beside η τ t a) (x.perform fun p r => d.dispatch p r.around r.host r.text)
      ((x.carry a).perform fun p r => d.dispatch p r.around r.host r.text) := by
  refine (x.carry_matches (A := (· = a)) rfl).perform_coupled Coupling.seen_over ?_
  intro inside inside' hp r
  exact dispatch_seen ⟨rfl, rfl⟩ hp (d.port_steady inside) (d.port_steady inside') d rfl
    r.host r.text

theorem ask_of_settings {c : Call} {x : SettingsCommand} (hc : c.settings? = some x)
    (w : World η (τ × Settings)) :
    d.ask (overlaid inner) c w = (.done (.ok (w.host.2.output x)),
      { w with
        host := (w.host.1, w.host.2.after x)
        log := w.log ++ (w.host.2.event? x).toList.toArray }) := by
  cases c with
  | print text => cases hc
  | cmd text =>
      unfold ask overlaid
      rw [Settings.overlay_recognised _ _ hc, Reaction.perform_notes]
      rfl

/-- A settings command is answered here, and the wrapped host is left alone. -/
theorem ask_recognised {c : Call} {x : SettingsCommand} (hc : c.settings? = some x)
    (hw : (Coupling.beside η τ t b).holds v w) :
    (d.ask (overlaid inner) c w).1 = .done (.ok (b.output x)) ∧
      (Coupling.beside η τ t (b.after x)).holds v (d.ask (overlaid inner) c w).2 := by
  obtain ⟨⟨hhost, rfl⟩, hrest⟩ := hw
  rw [d.ask_of_settings inner hc]
  exact ⟨rfl, ⟨hhost, rfl⟩, hrest⟩

/-- Any other call comes to what it comes to without the overlay. -/
theorem ask_passed {c : Call} (hc : c.settings? = none) :
    Act.Coupled (.beside η τ t b) (d.ask inner c) (d.ask (overlaid inner) c) := by
  intro v w hw
  obtain ⟨hhost, hb⟩ := hw.1
  have hreact : overlaid inner c w.host = (inner c v.host).carry b := by
    cases c with
    | print text =>
        rw [hhost, ← hb]
        rfl
    | cmd text =>
        unfold overlaid
        rw [Settings.overlay_passed _ _ hc, hhost, ← hb]
  unfold ask
  rw [hreact]
  exact d.carry_beside (inner c v.host) b v w hw

theorem askAll_overlaid (cs : List Call) (hw : (Coupling.beside η τ t b).holds v w) :
    let r := d.askAll (overlaid inner) cs w
    let alone := d.askAll inner (cs.filter passes) v
    let commands := cs.filterMap Call.settings?
    (Coupling.beside η τ t (commands.foldl Settings.after b)).holds alone.2 r.2 ∧
      answersTo passes cs r.1 = alone.1 ∧
      answersTo (!passes ·) cs r.1 = (b.answers commands).map fun text => .done (.ok text) := by
  induction cs generalizing b v w with
  | nil => exact ⟨hw, rfl, rfl⟩
  | cons c cs ih =>
      cases hc : c.settings? with
      | some x =>
          obtain ⟨hanswer, hafter⟩ := d.ask_recognised inner hc hw
          obtain ⟨hstreams, hpassed, hanswers⟩ := ih hafter
          have hstays : passes c = false := by simp [passes, hc]
          simp only [List.filter_cons, List.filterMap_cons, hstays, hc, askAll, answersTo_cons,
            Bool.not_false, if_true, Bool.false_eq_true, if_false]
          exact ⟨hstreams, hpassed, by rw [hanswers, hanswer]; rfl⟩
      | none =>
          obtain ⟨hexit, -, hafter⟩ := d.ask_passed inner hc v w hw
          obtain ⟨hstreams, hpassed, hanswers⟩ := ih hafter
          have hgoes : passes c = true := by simp [passes, hc]
          simp only [List.filter_cons, List.filterMap_cons, hgoes, hc, askAll, answersTo_cons,
            Bool.not_true, if_true, Bool.false_eq_true, if_false]
          exact ⟨hstreams, by rw [hpassed, hexit], hanswers⟩

theorem length_askAll {σ : Type} (x : Call → σ → Reaction η σ (Line η) Verdict) (cs : List Call)
    (w : World η σ) : (d.askAll x cs w).1.length = cs.length := by
  induction cs generalizing w with
  | nil => rfl
  | cons c cs ih => simp [askAll, ih]

/-! ## What the wrapped host sees -/

/-- A host that lists the calls that reach it. -/
def listing (c : Call) (s : τ × List Call) : Reaction η (τ × List Call) (Line η) Verdict :=
  (inner c s.1).carry (s.2 ++ [c])

theorem ask_listing (c : Call) {seen : List Call} {u : World η (τ × List Call)}
    (hu : (Coupling.beside η τ t seen).holds v u) :
    (d.ask inner c v).1 = (d.ask (listing inner) c u).1 ∧
      (Coupling.beside η τ t (seen ++ [c])).holds (d.ask inner c v).2
        (d.ask (listing inner) c u).2 := by
  obtain ⟨⟨hhost, rfl⟩, hrest⟩ := hu
  -- the call is listed at once, and the host goes on with it in the list
  have hreact : d.ask (listing inner) c u =
      ((inner c v.host).carry (u.host.2 ++ [c])).perform
        (fun p r => d.dispatch p r.around r.host r.text)
        { u with host := (u.host.1, u.host.2 ++ [c]) } := by
    rw [Reaction.perform_put, hhost]
    rfl
  obtain ⟨hexit, -, hafter⟩ := d.carry_beside (t := t) (inner c v.host) (u.host.2 ++ [c]) v
    { u with host := (u.host.1, u.host.2 ++ [c]) } ⟨⟨hhost, rfl⟩, hrest⟩
  rw [← hreact] at hexit hafter
  exact ⟨hexit, hafter⟩

theorem askAll_listing (cs : List Call) {seen : List Call} {u : World η (τ × List Call)}
    (hu : (Coupling.beside η τ t seen).holds v u) :
    (Coupling.beside η τ t (seen ++ cs)).holds (d.askAll inner cs v).2
      (d.askAll (listing inner) cs u).2 := by
  induction cs generalizing seen v u with
  | nil =>
      rw [List.append_nil]
      exact hu
  | cons c cs ih =>
      rw [List.append_cons]
      exact ih (d.ask_listing inner c hu).2

end Dispatcher

namespace Settings

open Dispatcher (askAll listing)

/-- The overlay is a transparent filter.

The wrapped host answers the calls that pass as it answers them without the
overlay, is left as they leave it, and sees these calls and no others. Settings
commands are answered from the settings alone, and afterwards each setting has
the value of the last valid assignment to it. So whatever passes may be left out
without a change to the settings and to what is answered from them, and a settings
command may be left out without a change to the wrapped host and its answers. -/
theorem overlay_transparent (d : Dispatcher)
    (inner : Call → τ → Reaction η τ (Line η) Verdict) (cs : List Call)
    (w : World η (τ × Settings)) :
    let run := fun cs => d.askAll (overlaid inner) cs w
    let alone := d.askAll inner (cs.filter passes) { w with host := w.host.1 }
    let listed := d.askAll (overlaid (listing inner)) cs
      { w with host := ((w.host.1, []), w.host.2) }
    let commands := cs.filterMap Call.settings?
    (run cs).1.length = cs.length ∧
      (run cs).2.host.1 = alone.2.host ∧
      answersTo passes cs (run cs).1 = alone.1 ∧
      listed.2.host.1 = (alone.2.host, cs.filter passes) ∧
      answersTo (!passes ·) cs (run cs).1 =
        (w.host.2.answers commands).map (fun text => .done (.ok text)) ∧
      (∀ key, (run cs).2.host.2.get key =
        (commands.filterMap (·.assigned? key)).getLast?.getD (w.host.2.get key)) ∧
      ∀ before c after, cs = before ++ c :: after →
        (passes c = true →
          (run (before ++ after)).2.host.2 = (run cs).2.host.2 ∧
          answersTo (!passes ·) (before ++ after) (run (before ++ after)).1 =
            answersTo (!passes ·) cs (run cs).1) ∧
        (passes c = false →
          (run (before ++ after)).2.host.1 = (run cs).2.host.1 ∧
          answersTo passes (before ++ after) (run (before ++ after)).1 =
            answersTo passes cs (run cs).1) := by
  dsimp only
  have hsplit : ∀ cs, _ := fun cs => d.askAll_overlaid inner cs
    (t := w.trap) (b := w.host.2) (v := { w with host := w.host.1 }) (w := w)
    ⟨⟨rfl, rfl⟩, rfl, rfl, [], rfl, rfl⟩
  obtain ⟨⟨⟨hhost, hsettings⟩, -⟩, hpassed, hanswers⟩ := hsplit cs
  refine ⟨d.length_askAll _ cs w, hhost.symm, hpassed, ?_, hanswers, ?_, ?_⟩
  · obtain ⟨⟨⟨hlisted, -⟩, -⟩, -⟩ := d.askAll_overlaid (listing inner) cs
      (t := w.trap) (b := w.host.2) (v := { w with host := (w.host.1, []) })
      (w := { w with host := ((w.host.1, []), w.host.2) }) ⟨⟨rfl, rfl⟩, rfl, rfl, [], rfl, rfl⟩
    obtain ⟨⟨hstate, hseen⟩, -⟩ := d.askAll_listing inner (cs.filter passes)
      (t := w.trap) (v := { w with host := w.host.1 }) (u := { w with host := (w.host.1, []) })
      ⟨⟨rfl, rfl⟩, rfl, rfl, [], rfl, rfl⟩
    rw [← hlisted]
    exact Prod.ext hstate.symm hseen
  · intro key
    rw [hsettings, get_foldl_after]
  · rintro before c after rfl
    obtain ⟨⟨⟨hhost', hsettings'⟩, -⟩, hpassed', hanswers'⟩ := hsplit (before ++ after)
    constructor
    · intro hc
      have hcommands : (before ++ c :: after).filterMap Call.settings? =
          (before ++ after).filterMap Call.settings? := by
        simp [Option.isNone_iff_eq_none.mp hc]
      rw [hsettings, hsettings', hanswers, hanswers', hcommands]
      exact ⟨rfl, rfl⟩
    · intro hc
      have hcalls : (before ++ c :: after).filter passes = (before ++ after).filter passes := by
        simp [hc]
      rw [← hhost, ← hhost', hpassed, hpassed', hcalls]
      exact ⟨rfl, rfl⟩

/-- A host that fails all commands and counts its calls. -/
def refusing : Call → Nat → Reaction Unit Nat (Line Unit) Verdict
  | .cmd _, n => .reply (.error .closed) (n + 1)
  | .print _, n => .reply (.ok "") (n + 1)

/-- A command that fails between an assignment and one that is not valid. -/
theorem overlay_transparent_refusing :
    let before := [Call.cmd "e pdw.theme=dark"]
    let after := [Call.cmd "e pdw.casts=maybe", .print "x"]
    let w : World Unit (Nat × Settings) := ⟨(0, {}), {}, ⟨.contain, {}, false⟩, #[], {}⟩
    let run := fun cs => askAll roomyDispatcher (overlaid refusing) cs w
    passes (.cmd "pdf") = true ∧
      (run (before ++ .cmd "pdf" :: after)).2.host.2.get .theme = "dark" ∧
      answersTo passes (before ++ .cmd "pdf" :: after) (run (before ++ .cmd "pdf" :: after)).1 =
        [.done (.error .closed), .done (.ok "")] ∧
      (run (before ++ after)).2.host.2 = (run (before ++ .cmd "pdf" :: after)).2.host.2 := by
  intro before after w run
  obtain ⟨-, -, hpassed, -, -, hget, hleft⟩ :=
    overlay_transparent roomyDispatcher refusing (before ++ .cmd "pdf" :: after) w
  have hpasses : passes (.cmd "pdf") = true := by decide
  refine ⟨hpasses, (hget .theme).trans (by decide), hpassed.trans (by decide), ?_⟩
  exact ((hleft before (.cmd "pdf") after rfl).1 hpasses).1

end Settings

end DecBridge
