import DecBridge.Proofs.Loop.Course
import DecBridge.Proofs.Settings.Grammar
import DecBridge.Proofs.Settings.Transparency

/-!
# Whose a line is

Two readers look at a line that the loop executes: the dispatcher, which claims
some lines for itself, and the overlay of the settings, to which the loop passes
what the dispatcher left. They trim differently, and both know lines that start
with an `e`, but no line is recognised by both (`Action.parse_of_route`).

`one_owner` draws the conclusion for the loop: a line is the dispatcher's, the
overlay's or the wrapped host's. The wrapped host may be any, and it lists the
calls that reach it through the overlay. The question who decompiles is the
host's, and the announcement comes first; a host that does not come back from the
announcement is not asked.
-/

namespace DecBridge

open Host (Call HostError Part Reaction)

open Output (Sink)

open Dispatcher (Line Verdict ask listing)

open Settings (overlaid)

open Text (Blanks)

/-! ## The two readers -/

/-- A settings command has a key of the plugin behind the letter `e`. -/
theorem SettingsCommand.Says.starts {text : String} {x : SettingsCommand} (h : Says text x) :
    ∃ before between rest, Blanks before ∧ Blanks between ∧
      text.toList = before ++ 'e' :: ' ' :: (between ++ 'p' :: rest) := by
  cases h with
  | @reading key w₁ w₂ w₃ hkey h₁ h₂ h₃ =>
      obtain ⟨rest, hrest⟩ := hkey.starts
      exact ⟨w₁.toList, w₂.toList, 'd' :: 'w' :: '.' :: (rest ++ w₃.toList), h₁, h₂, by
        simp [← hrest, keyStart]⟩
  | @assigning key value w₁ w₂ w₃ w₄ w₅ hkey hvalue h₁ h₂ h₃ h₄ h₅ =>
      obtain ⟨rest, hrest⟩ := hkey.starts
      exact ⟨w₁.toList, w₂.toList, 'd' :: 'w' :: '.' ::
        (rest ++ w₃.toList ++ '=' :: (w₄.toList ++ value.toList ++ w₅.toList)), h₁, h₂, by
        simp [← hrest, keyStart]⟩

namespace Action

/-- The host is asked who decompiles. -/
def AsksWho (line : String) : Prop :=
  queryStart.toList <+: line.toList ∧ '=' ∈ line.toList ∧ '?' ∈ line.toList

theorem isQuery_iff {line : String} : isQuery line.toList = true ↔ AsksWho line := by
  simp [isQuery, AsksWho, and_assoc]

theorem ofRest_ne_configQuery (rest : List Char) : ofRest rest ≠ .configQuery := by
  unfold ofRest
  split <;> nofun

theorem route_eq_configQuery_iff {line : String} :
    route line = some .configQuery ↔ AsksWho line := by
  rw [← isQuery_iff]
  unfold route
  dsimp only
  split
  · next hquery => simp [hquery]
  · next hquery =>
    split
    · simp [hquery, ofRest_ne_configQuery]
    · simp [hquery]

/-- What a claimed line starts with. -/
theorem prefix_of_route {line : String} (h : route line ≠ none) :
    queryStart.toList <+: line.toList ∨ commandStart.toList <+: line.toList := by
  unfold route at h
  dsimp only at h
  split at h
  · next hquery => exact .inl (isQuery_iff.mp hquery).1
  · split at h
    · next hstart => exact .inr (List.isPrefixOf_iff_prefix.mp hstart)
    · exact absurd rfl h

/-- A line that is claimed is not a settings command. -/
theorem parse_of_route {line : String} (h : route line ≠ none) :
    SettingsCommand.parse line = none := by
  rw [Option.eq_none_iff_forall_ne_some]
  intro x hx
  obtain ⟨before, between, rest, hbefore, hbetween, htext⟩ :=
    (SettingsCommand.parse_eq_some_iff.mp hx).starts
  have hstart := prefix_of_route h
  rw [htext] at hstart
  cases before with
  | cons c before =>
      -- a claimed line does not start with a blank
      have hc : Text.isBlank c = true := hbefore c List.mem_cons_self
      rcases hstart with ⟨more, hmore⟩ | ⟨more, hmore⟩
      · obtain rfl : 'e' = c := (List.cons.inj hmore).1
        exact absurd hc (by decide)
      · obtain rfl : 'p' = c := (List.cons.inj hmore).1
        exact absurd hc (by decide)
  | nil =>
      rcases hstart with ⟨more, hmore⟩ | ⟨more, hmore⟩
      · have hkey := (List.cons.inj (List.cons.inj hmore).2).2
        cases between with
        | nil => exact absurd (List.cons.inj hkey).1 (by decide)
        | cons c between =>
            have hc : Text.isBlank c = true := hbetween c List.mem_cons_self
            obtain rfl : 'c' = c := (List.cons.inj hkey).1
            exact absurd hc (by decide)
      · exact absurd (List.cons.inj hmore).1 (by decide)

end Action

/-! ## Results that are for the host -/

variable {η σ τ : Type}

/-- An action that has a value went on with a value. -/
theorem Act.bind_done {α β : Type} {x : Act η σ α} {f : α → Act η σ β} {w : World η σ} {b : β}
    (h : ((x >>= f) w).1 = .done b) : ∃ a w', (f a w').1 = .done b := by
  rw [bind_apply] at h
  unfold Act.bind at h
  generalize x w = r at h
  obtain ⟨e, w'⟩ := r
  cases e with
  | done a => exact ⟨a, w', h⟩
  | _ => cases h

namespace Dispatcher

variable (d : Dispatcher) (p : Port η σ) (around : Surroundings) (host : η)

theorem dispatch_unclaimed {line : String} (h : Action.route line = none) (w : World η σ) :
    d.dispatch p around host line w = (.done (.ok .notHandled), w) := by
  unfold dispatch
  rw [h]
  rfl

/-- The host is told who decompiles, whatever it makes of that. -/
def announcement : Call := .print (Action.identifier ++ "\n")

theorem dispatch_query {line : String} (h : Action.route line = some .configQuery)
    (w : World η σ) :
    ∃ event, let call := p host announcement { w with log := w.log.push event }
      d.dispatch p around host line w = (call.1.map fun _ => .ok .announced, call.2) := by
  refine ⟨dispatchingEvent line .configQuery, ?_⟩
  unfold dispatch
  rw [h]
  show Act.bind (p host announcement) _ _ = _
  unfold Act.bind
  rcases p host announcement _ with ⟨_ | _ | _ | _ | _, w'⟩ <;> rfl

/-- Only the announcement is for the host too. -/
theorem carryOut_forHost {action : Action} (h : action ≠ .configQuery) {w : World η σ}
    {dispatched : Dispatched}
    (hdone : (carryOut p d around host action w).1 = .done (.ok dispatched)) :
    ¬dispatched.ForHost := by
  cases action with
  | configQuery => exact absurd rfl h
  | usage =>
      obtain ⟨_, _, hlast⟩ := Act.bind_done hdone
      cases hlast
      exact nofun
  | update =>
      obtain ⟨_, _, hcall⟩ := Act.bind_done hdone
      obtain ⟨answer, _, hprint⟩ := Act.bind_done hcall
      cases answer with
      | error e => nomatch hprint
      | ok output =>
          obtain ⟨_, _, hlast⟩ := Act.bind_done hprint
          cases hlast
          exact nofun
  | decompile args =>
      obtain ⟨_, _, hrun⟩ := Act.bind_done hdone
      obtain ⟨outcome, _, hlast⟩ := Act.bind_done hrun
      cases outcome with
      | error e => nomatch hlast
      | ok outcome =>
          cases hlast
          exact nofun

theorem dispatch_forHost {line : String} {action : Action}
    (hroute : Action.route line = some action) (h : action ≠ .configQuery) {w : World η σ}
    {dispatched : Dispatched}
    (hdone : (d.dispatch p around host line w).1 = .done (.ok dispatched)) :
    ¬dispatched.ForHost := by
  unfold dispatch at hdone
  rw [hroute] at hdone
  obtain ⟨_, _, hcarried⟩ := Act.bind_done hdone
  exact d.carryOut_forHost p around host h hcarried

end Dispatcher

namespace Loop

open Dispatcher (announcement)

section Visits

variable (p : Port η σ) (out : Part σ Sink) (d : Dispatcher) (around : Surroundings) (host : η)
  (line : String) {w : World η σ}

/-- Passing a line to the host is the last that happens with it. -/
theorem watchExecute_forHost {dispatched : Dispatched} {w' : World η σ}
    (h : d.dispatch p around host line w = (.done (.ok dispatched), w'))
    (hhost : dispatched.ForHost) :
    let r := watchForward p out host line w'
    watchExecute p out d around host line w = (r.1,
      .dispatched line (d.calls p around host line w) (.done (.ok dispatched)) :: r.2) := by
  intro r
  have hdone : (watchDispatch p d around host line w).1.1 = .done (.ok dispatched) :=
    congrArg Prod.fst h
  have hmoments : (watchDispatch p d around host line w).2 =
      [.dispatched line (d.calls p around host line w) (.done (.ok dispatched))] := by
    rw [← hdone]
    rfl
  have hreport : reportOutcome line dispatched w' = (.done (), w') := by
    rcases hhost with rfl | rfl <;> rfl
  unfold watchExecute
  rw [Watched.bind_of_done _ hdone, hmoments,
    show (watchDispatch p d around host line w).1.2 = w' from congrArg Prod.snd h]
  dsimp only
  rw [Watched.bind_of_done _ (x := .plain (reportOutcome line dispatched))
    (show (reportOutcome line dispatched w').1 = .done () by rw [hreport]),
    if_pos (Dispatched.forHost_iff.mp hhost)]
  show _ = (r.1, _)
  simp only [Watched.plain, Watched.of, hreport]
  rfl

/-- A line that the dispatcher does not leave to the host is not passed on. -/
theorem watchExecute_kept (h : ∀ dispatched,
      (d.dispatch p around host line w).1 = .done (.ok dispatched) → ¬dispatched.ForHost)
    (answer : Exit (Except HostError String)) :
    .passed line answer ∉ (watchExecute p out d around host line w).2 := by
  have hhead : (watchExecute p out d around host line w).2.head? =
      some (.dispatched line (d.calls p around host line w)
        (d.dispatch p around host line w).1) := by
    rcases (d.dispatch p around host line w).1.done_or_broken with ⟨result, he⟩ | ⟨b, he⟩
    · unfold watchExecute
      rw [Watched.bind_of_done _ (x := watchDispatch p d around host line) he]
      rfl
    · unfold watchExecute
      rw [Watched.bind_of_broken _ (x := watchDispatch p d around host line) he]
      rfl
  have hleft : ∀ {calls dispatched rest}, (watchExecute p out d around host line w).2 =
      .dispatched line calls (.done (.ok dispatched)) :: rest → ¬dispatched.ForHost := by
    intro calls dispatched rest hms
    rw [hms] at hhead
    injection hhead with hhead
    injection hhead with _ _ hresult
    exact h dispatched hresult.symm
  rcases watchExecute_spec p out d around host line w with ⟨v, hline, -, hms⟩ | hstops
  · cases v with
    | failed => simp [hms, Visit.moments]
    | kept => simp [hms, Visit.moments]
    | passed line calls dispatched hhost text =>
        obtain rfl := hline
        exact absurd hhost (hleft hms)
  · generalize hms : (watchExecute p out d around host line w).2 = ms at hstops
    generalize (watchExecute p out d around host line w).1.1 = e at hstops
    cases hstops with
    | dispatching => simp
    | passing calls dispatched hhost => exact absurd hhost (hleft hms)
    | lost calls dispatched hhost => exact absurd hhost (hleft hms)
    | unwritten calls dispatched hhost => exact absurd hhost (hleft hms)

theorem passed_mem_watchForward (w : World η σ) :
    .passed line (p host (.cmd line) w).1 ∈ (watchForward p out host line w).2 := by
  let call : Watched Moment η σ (Except HostError String) :=
    .of (p host (.cmd line)) fun w => [.passed line (p host (.cmd line) w).1]
  unfold watchForward
  rcases (p host (.cmd line) w).1.done_or_broken with ⟨answer, hcall⟩ | ⟨b, hcall⟩
  · rw [Watched.bind_of_done _ (x := call) hcall]
    exact List.mem_cons_self
  · rw [Watched.bind_of_broken _ (x := call) hcall]
    exact List.mem_cons_self

/-- Behind the call of the host only the output is touched. -/
theorem forward_host {κ : Type} {g : σ → κ} (hg : ∀ sink s, g (out.put sink s) = g s)
    (w : World η σ) :
    g (forward p out host line w).2.host = g (p host (.cmd line) w).2.host := by
  unfold forward
  rw [Act.bind_apply]
  unfold Act.bind
  rcases p host (.cmd line) w with ⟨answer | _ | _ | _ | _, w'⟩
  case done =>
    cases answer with
    | error e => rfl
    | ok text =>
        show g ((emit out text >>= _) w').2.host = _
        rw [Act.bind_apply]
        unfold Act.bind emit
        dsimp only
        cases ((out.get w'.host).emit text).1 <;> exact hg _ _
  all_goals rfl

end Visits

/-! ## A turn of the loop -/

/-- A line that the loop executes for a host behind the overlay. -/
structure Turn (η τ : Type) where
  dispatcher : Dispatcher
  /-- The wrapped host. -/
  inner : Call → τ → Reaction η τ (Line η) Verdict
  out : Part τ Sink
  around : Surroundings
  host : η
  line : String
  world : World η (τ × Settings)

/-- Whose a line is. -/
inductive Owner where
  | dispatcher
  | overlay
  | wrapped

namespace Turn

variable (t : Turn η τ)

/-- The overlay before the wrapped host, which lists the calls that reach it. -/
def port : Port η ((τ × List Call) × Settings) :=
  t.dispatcher.port fun _ => overlaid (listing t.inner)

def start : World η ((τ × List Call) × Settings) :=
  { t.world with host := ((t.world.host.1, []), t.world.host.2) }

def run : (Exit (Except LoopError Unit) × World η ((τ × List Call) × Settings)) × List Moment :=
  watchExecute t.port t.out.carry.carry t.dispatcher t.around t.host t.line t.start

def moments : List Moment := t.run.2

/-- The calls that reach the wrapped host. -/
def reached : List Call := t.run.1.2.host.1.2

/-- The wrapped host comes back from the announcement. -/
def Announces : Prop :=
  ∃ answer, (t.dispatcher.ask t.inner announcement { t.world with host := t.world.host.1 }).1 =
    .done answer

/-- The dispatcher keeps its lines from the host. The overlay has its lines from
the loop, which knows nothing of them, and keeps them from the wrapped host. -/
def Owns : Owner → Prop
  | .dispatcher =>
    (∃ action, Action.route t.line = some action ∧ action ≠ .configQuery) ∧
      ∀ answer, .passed t.line answer ∉ t.moments
  | .overlay =>
    ∃ x, SettingsCommand.parse t.line = some x ∧
      t.dispatcher.dispatch t.port t.around t.host t.line t.start =
        (.done (.ok .notHandled), t.start) ∧
      .passed t.line (.done (.ok (t.world.host.2.output x))) ∈ t.moments ∧ t.reached = []
  | .wrapped =>
    (∃ answer, .passed t.line answer ∈ t.moments) ∧ t.reached.count (.cmd t.line) = 1

variable {t}

theorem Owns.passed {o : Owner} (h : t.Owns o) (ho : o ≠ .dispatcher) :
    ∃ answer, .passed t.line answer ∈ t.moments := by
  cases o with
  | dispatcher => exact absurd rfl ho
  | overlay =>
      obtain ⟨_, -, -, hpassed, -⟩ := h
      exact ⟨_, hpassed⟩
  | wrapped => exact h.1

theorem owns_unique {o o' : Owner} (h : t.Owns o) (h' : t.Owns o') : o = o' := by
  have hdispatcher : ∀ {o}, t.Owns .dispatcher → t.Owns o → o = .dispatcher := by
    intro o h h'
    by_contra ho
    obtain ⟨answer, hpassed⟩ := h'.passed ho
    exact h.2 answer hpassed
  have hoverlay : t.Owns .overlay → ¬t.Owns .wrapped := by
    rintro ⟨_, -, -, -, hreached⟩ ⟨-, hcount⟩
    rw [hreached] at hcount
    nomatch hcount
  cases o with
  | dispatcher => exact (hdispatcher h h').symm
  | overlay =>
      cases o' with
      | dispatcher => exact hdispatcher h' h
      | overlay => rfl
      | wrapped => exact absurd h' (hoverlay h)
  | wrapped =>
      cases o' with
      | dispatcher => exact hdispatcher h' h
      | overlay => exact absurd h (hoverlay h')
      | wrapped => rfl

variable (t)

/-- A call that passes the overlay reaches the wrapped host, and comes to what it
comes to there. -/
theorem port_passes {c : Call} (hc : c.settings? = none)
    (w : World η ((τ × List Call) × Settings)) (log : Array Log.Event) :
    let r := t.port t.host c w
    r.1 = (t.dispatcher.ask t.inner c { w with host := w.host.1.1, log }).1 ∧
      r.2.host.1.2 = w.host.1.2 ++ [c] := by
  intro r
  obtain ⟨hexit, -, ⟨hlisted, -⟩, -⟩ := t.dispatcher.ask_passed (listing t.inner) hc
    (t := w.trap) (b := w.host.2) { w with host := w.host.1 } w ⟨⟨rfl, rfl⟩, rfl, rfl, [], rfl, rfl⟩
  obtain ⟨halone, ⟨-, hseen⟩, -⟩ := t.dispatcher.ask_listing t.inner c
    (t := w.trap) (v := { w with host := w.host.1.1, log })
    (u := { w with host := w.host.1 }) ⟨⟨rfl, rfl⟩, rfl, rfl, [], rfl, rfl⟩
  exact ⟨hexit.symm.trans halone.symm, (congrArg Prod.snd hlisted).symm.trans hseen⟩

/-- A line that the dispatcher left is passed on, and its call is the last that can
reach the wrapped host. -/
theorem passed_of_dispatch {dispatched : Dispatched} {w : World η ((τ × List Call) × Settings)}
    (h : t.dispatcher.dispatch t.port t.around t.host t.line t.start =
      (.done (.ok dispatched), w)) (hhost : dispatched.ForHost) :
    let call := t.port t.host (.cmd t.line) w
    .passed t.line call.1 ∈ t.moments ∧ t.reached = call.2.host.1.2 := by
  intro call
  have hrun : t.run = _ := watchExecute_forHost t.port t.out.carry.carry t.dispatcher t.around
    t.host t.line h hhost
  unfold moments reached
  rw [hrun]
  refine ⟨List.mem_cons_of_mem _ (passed_mem_watchForward ..), ?_⟩
  dsimp only
  rw [show (watchForward t.port t.out.carry.carry t.host t.line w).1 = _ from
    congrFun (watchForward_act ..) w]
  exact forward_host t.port t.out.carry.carry t.host t.line (g := fun s => s.1.2)
    (fun _ _ => rfl) w

theorem owns_claimed {action : Action} (hroute : Action.route t.line = some action)
    (h : action ≠ .configQuery) : t.Owns .dispatcher :=
  ⟨⟨action, hroute, h⟩, watchExecute_kept _ _ _ _ _ _ fun _ hdone =>
    t.dispatcher.dispatch_forHost t.port t.around t.host hroute h hdone⟩

theorem owns_recognised {x : SettingsCommand} (hroute : Action.route t.line = none)
    (hx : SettingsCommand.parse t.line = some x) : t.Owns .overlay := by
  have hdispatch := t.dispatcher.dispatch_unclaimed t.port t.around t.host hroute t.start
  obtain ⟨hpassed, hreached⟩ := t.passed_of_dispatch hdispatch (.inl rfl)
  have hcall : t.port t.host (.cmd t.line) t.start = _ :=
    t.dispatcher.ask_of_settings (listing t.inner) (c := .cmd t.line) hx t.start
  rw [hcall] at hpassed hreached
  exact ⟨x, hx, hdispatch, hpassed, hreached⟩

theorem owns_passed (hroute : Action.route t.line = none)
    (hparse : SettingsCommand.parse t.line = none) : t.Owns .wrapped := by
  have hdispatch := t.dispatcher.dispatch_unclaimed t.port t.around t.host hroute t.start
  obtain ⟨hpassed, hreached⟩ := t.passed_of_dispatch hdispatch (.inl rfl)
  rw [(t.port_passes (c := .cmd t.line) hparse t.start #[]).2] at hreached
  exact ⟨⟨_, hpassed⟩, by rw [hreached]; simp [start]⟩

/-- The announcement is all that reaches a wrapped host before the question does. -/
theorem dispatch_asked (hroute : Action.route t.line = some .configQuery) :
    ∃ w, t.dispatcher.dispatch t.port t.around t.host t.line t.start =
        ((t.dispatcher.ask t.inner announcement { t.world with host := t.world.host.1 }).1.map
          fun _ => .ok .announced, w) ∧
      w.host.1.2 = [announcement] := by
  obtain ⟨event, hdispatch⟩ :=
    t.dispatcher.dispatch_query t.port t.around t.host hroute t.start
  obtain ⟨hexit, hlisted⟩ := t.port_passes (c := announcement) rfl
    { t.start with log := t.start.log.push event } t.world.log
  exact ⟨_, by rw [hdispatch, hexit]; rfl, hlisted⟩

theorem owns_asked (hasks : Action.AsksWho t.line) (h : t.Announces) :
    t.Owns .wrapped ∧ t.reached = [announcement, .cmd t.line] := by
  have hroute := Action.route_eq_configQuery_iff.mpr hasks
  obtain ⟨w, hdispatch, hlisted⟩ := t.dispatch_asked hroute
  obtain ⟨answer, hanswer⟩ := h
  rw [hanswer] at hdispatch
  obtain ⟨hpassed, hreached⟩ := t.passed_of_dispatch hdispatch (.inr rfl)
  have hparse : SettingsCommand.parse t.line = none := Action.parse_of_route (by simp [hroute])
  rw [(t.port_passes (c := .cmd t.line) hparse w #[]).2, hlisted] at hreached
  exact ⟨⟨⟨_, hpassed⟩, by rw [hreached]; simp [announcement]⟩, hreached⟩

/-- A wrapped host that does not come back from the announcement is not asked. -/
theorem reached_unannounced (hasks : Action.AsksWho t.line) (h : ¬t.Announces) :
    t.reached = [announcement] := by
  obtain ⟨w, hdispatch, hlisted⟩ :=
    t.dispatch_asked (Action.route_eq_configQuery_iff.mpr hasks)
  unfold Announces at h
  rcases (t.dispatcher.ask t.inner announcement
    { t.world with host := t.world.host.1 }).1.done_or_broken with ⟨answer, he⟩ | ⟨b, he⟩
  · exact absurd ⟨answer, he⟩ h
  · have hbroken : (watchDispatch t.port t.dispatcher t.around t.host t.line t.start).1.1 =
        b.broken := by
      show (t.dispatcher.dispatch ..).1 = _
      rw [hdispatch, he]
      rcases b with ⟨⟨⟩⟩ | _ | _ | _ | _ <;> rfl
    unfold reached run watchExecute
    rw [Watched.bind_of_broken _ hbroken,
      show (watchDispatch t.port t.dispatcher t.around t.host t.line t.start).1.2 = w from
        congrArg Prod.snd hdispatch]
    exact hlisted

end Turn

/-- Every line has one owner, in all settings and with any host behind the overlay.

No line is recognised both by the dispatcher and as a settings command. A line is
the dispatcher's and stays there; or it is a settings command, of which the
dispatcher takes no notice and the wrapped host sees nothing; or it reaches the
wrapped host as it is, once. The question who decompiles is the wrapped host's, and
the announcement reaches it first. The one line that may be nobody's is that
question, if the wrapped host does not come back from the announcement. -/
theorem one_owner (t : Turn η τ) :
    (Action.route t.line ≠ none → SettingsCommand.parse t.line = none) ∧
      ((Action.AsksWho t.line → t.Announces) → ∃! o, t.Owns o) ∧
      (Action.AsksWho t.line → t.Announces →
        t.Owns .wrapped ∧ t.reached = [announcement, .cmd t.line]) ∧
      (Action.AsksWho t.line → ¬t.Announces → t.reached = [announcement]) := by
  refine ⟨Action.parse_of_route, fun h => ?_, t.owns_asked, t.reached_unannounced⟩
  have hone : ∀ {o}, t.Owns o → ∃! o, t.Owns o :=
    fun ho => ⟨_, ho, fun _ h => Turn.owns_unique h ho⟩
  cases hroute : Action.route t.line with
  | some action =>
      by_cases haction : action = .configQuery
      · have hasks : Action.AsksWho t.line :=
          Action.route_eq_configQuery_iff.mp (hroute.trans (congrArg some haction))
        exact hone (t.owns_asked hasks (h hasks)).1
      · exact hone (t.owns_claimed hroute haction)
  | none =>
      cases hparse : SettingsCommand.parse t.line with
      | some x => exact hone (t.owns_recognised hroute hparse)
      | none => exact hone (t.owns_passed hroute hparse)

/-- A host that fails all commands is asked who decompiles. -/
def asked : Turn Unit Nat where
  dispatcher := roomyDispatcher
  inner := Settings.refusing
  out := ⟨fun _ => {}, fun _ n => n⟩
  around := default
  host := ()
  line := "e cmd.pdc=?"
  world := ⟨(0, {}), {}, ⟨.contain, {}, false⟩, #[], {}⟩

theorem one_owner_asked :
    Action.AsksWho asked.line ∧ asked.Announces ∧ (∃! o, asked.Owns o) ∧ asked.Owns .wrapped ∧
      asked.reached = [announcement, .cmd "e cmd.pdc=?"] := by
  have hasks : Action.AsksWho asked.line := ⟨by decide, by decide, by decide⟩
  have hannounces : asked.Announces := ⟨.ok "", rfl⟩
  have howner := one_owner asked
  exact ⟨hasks, hannounces, howner.2.1 fun _ => hannounces, howner.2.2.1 hasks hannounces⟩

/-- A host that panics when it is to print. -/
def unasked : Turn Unit Nat where
  __ := asked
  inner
    | .cmd _, n => .reply (.ok "asked\n") (n + 1)
    | .print _, n => .panic (.text "boom") n

/-- The panic is past the dispatcher before the question reaches anyone. -/
theorem one_owner_unasked :
    Action.AsksWho unasked.line ∧ unasked.reached = [announcement] ∧ ∀ o, ¬unasked.Owns o := by
  have hasks : Action.AsksWho unasked.line := ⟨by decide, by decide, by decide⟩
  have hroute := Action.route_eq_configQuery_iff.mpr hasks
  have hreached : unasked.reached = [announcement] := by
    refine unasked.reached_unannounced hasks ?_
    rintro ⟨answer, hdone⟩
    nomatch hdone
  refine ⟨hasks, hreached, fun o howns => ?_⟩
  cases o with
  | dispatcher =>
      obtain ⟨⟨action, haction, hclaimed⟩, -⟩ := howns
      exact hclaimed (Option.some.inj (haction.symm.trans hroute))
  | overlay =>
      obtain ⟨_, -, -, -, hnone⟩ := howns
      nomatch hreached.symm.trans hnone
  | wrapped =>
      have hcount := howns.2
      rw [hreached] at hcount
      nomatch hcount

end Loop

end DecBridge
