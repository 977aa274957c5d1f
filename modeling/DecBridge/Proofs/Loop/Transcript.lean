import DecBridge.Proofs.Loop.Detached
import DecBridge.Proofs.Loop.Process
import DecBridge.Proofs.Pipe.Transcript

/-!
# What the disassembler receives

The whole process, from its start to the request to leave. The loop calls the
host for its moments and for nothing else, and the host sends what is not a
settings command. So the disassembler receives the lines of these commands, in
the order of the calls, and behind them the request to leave
(`Program.disassembler_receives`).

The record is kept by a coupling of the loop with the loop that lists its calls
(`Workbench.Told`, `Loop.executeAll_coupled`): each call that is listed adds the
lines that were taken of it. It speaks of a disassembler that reads to the end;
once it reads no longer, nothing is said.
-/

namespace DecBridge

open Act (Coupled)

open Host (Call Part)

open Output (Fault Sink)

/-! ## The loop side by side -/

namespace Loop

variable {η σ τ : Type} {S : σ → τ → Prop} {p : Port η σ} {q : Port η τ} {out : Part σ Sink}
  {out' : Part τ Sink}

theorem reportOutcome_coupled (line : String) (dispatched : Dispatched) :
    Coupled (.ofHosts η S) (reportOutcome line dispatched) (reportOutcome line dispatched) := by
  cases dispatched with
  | session outcome =>
      cases outcome with
      | completed => exact Coupled.pure _
      | _ => exact Coupled.note _
  | _ => exact Coupled.pure _

theorem complain_coupled (text : String) :
    Coupled (.ofHosts η S) (complain text) (complain text) := by
  rintro w w' ⟨hhost, hlink, htrap, hlog, hengines⟩
  have hsink := congrArg (fun t : Trap => { t with sink := (t.sink.write (text ++ "\n")).2 }) htrap
  exact ⟨rfl, .inl trivial, hhost, hlink, hsink, hlog, hengines⟩

variable (hp : Port.Coupled (.ofHosts η S) p q)
  (hout : ∀ {s : σ} {t : τ}, S s t →
    out.get s = out'.get t ∧ ∀ sink, S (out.put sink s) (out'.put sink t))

include hout in
theorem emit_coupled (text : String) :
    Coupled (.ofHosts η S) (emit out text) (emit out' text) := by
  rintro w w' ⟨hhost, hrest⟩
  obtain ⟨hget, hput⟩ := hout hhost
  unfold emit
  rw [hget]
  exact ⟨rfl, .inl trivial, hput _, hrest⟩

include hp hout

theorem forward_coupled (host : η) (line : String) :
    Coupled (.ofHosts η S) (forward p out host line) (forward q out' host line) := by
  refine (hp host (.cmd line)).bind ?_
  rintro (e | text)
  · exact Coupled.pure _
  · refine (emit_coupled hout text).bind ?_
    rintro (_ | fault)
    · exact Coupled.pure _
    · exact Coupled.pure _

theorem execute_coupled (d : Dispatcher) (around : Surroundings) (host : η) (line : String) :
    Coupled (.ofHosts η S) (execute p out d around host line)
      (execute q out' d around host line) := by
  refine (Dispatcher.dispatch_coupled hp d around host line).bind ?_
  rintro (e | dispatched)
  · exact (Coupled.note _).bind fun _ => (complain_coupled _).bind fun _ => Coupled.pure _
  · refine (reportOutcome_coupled line dispatched).bind fun _ => ?_
    split
    · exact forward_coupled hp hout host line
    · exact Coupled.pure _

/-- The loop looks at nothing of the host but its answers and its output. -/
theorem executeAll_coupled (d : Dispatcher) (around : Surroundings) (host : η)
    (lines : List (Except Fault String)) :
    Coupled (.ofHosts η S) (executeAll p out d around host lines)
      (executeAll q out' d around host lines) := by
  induction lines with
  | nil => exact Coupled.pure _
  | cons line rest ih =>
      cases line with
      | error fault => exact Coupled.pure _
      | ok line =>
          refine (execute_coupled hp hout d around host line).bind ?_
          rintro (e | _)
          · exact Coupled.pure _
          · exact ih

end Loop

/-! ## Calls and the record -/

/-- The text that a call sends, unless it is a settings command. -/
def forwarded? : Call → Option String
  | .cmd text => if SettingsCommand.parse text = none then some text else none
  | .print _ => none

namespace Workbench

variable {γ : Type} {c : Child γ}

theorem port_print (host : Unit) (text : String) (w : World Unit (Workbench γ)) :
    (port c host (.print text) w).2.host.pipe = (w.host.pipe.print text).1 := by
  show ((Pipe.react c pipePart (.print text) w.host).perform _ w).2.host.pipe = _
  rw [Pipe.react]
  dsimp only
  rw [Host.Reaction.perform_notes]
  rfl

theorem port_recognised (host : Unit) {text : String} {x : SettingsCommand}
    (h : SettingsCommand.parse text = some x) (w : World Unit (Workbench γ)) :
    (port c host (.cmd text) w).2.host.pipe = w.host.pipe := by
  show ((roster c () (.cmd text) w.host).perform _ w).2.host.pipe = _
  rw [roster_recognised h, Host.Reaction.perform_notes]
  rfl

theorem port_passed (host : Unit) {text : String} (h : SettingsCommand.parse text = none)
    (w : World Unit (Workbench γ)) :
    (port c host (.cmd text) w).2.host.pipe = (w.host.pipe.cmd c text).2.1 := by
  show ((roster c () (.cmd text) w.host).perform _ w).2.host.pipe = _
  rw [roster_passed h, Pipe.react, show pipePart.get w.host = w.host.pipe from rfl]
  rcases w.host.pipe.cmd c text with ⟨answer | _, p, events⟩
  · dsimp only
    rw [Host.Reaction.perform_notes]
    rfl
  · dsimp only
    rw [Host.Reaction.perform_notes]
    rfl

/-- The disassembler reads no longer, or it has received the commands among the
calls that were listed. -/
def Told (c : Child γ) (p : Pipe γ) (s : Workbench γ) (t : Workbench γ × List Call) : Prop :=
  s = t.1 ∧ (s.pipe.running = none ∨ ∃ record,
    record.map Prod.fst = t.2.filterMap forwarded? ∧ Pipe.Transcript c p record s.pipe)

theorem Told.call {p : Pipe γ} {calls : List Call} {w : World Unit (Workbench γ)}
    (h : Told c p w.host (w.host, calls)) (host : Unit) (call : Call) :
    Told c p (port c host call w).2.host ((port c host call w).2.host, calls ++ [call]) := by
  refine ⟨rfl, ?_⟩
  rw [List.filterMap_append]
  obtain ⟨-, h⟩ := h
  cases call with
  | print text =>
      have hconsole : ∃ console, (w.host.pipe.print text).1 = { w.host.pipe with console } := by
        unfold Pipe.print
        rcases w.host.pipe.console.emit text with ⟨_ | fault, console⟩ <;> exact ⟨console, rfl⟩
      obtain ⟨console, hprint⟩ := hconsole
      rw [port_print, hprint]
      rcases h with hgone | ⟨record, hrecord, htranscript⟩
      · exact .inl hgone
      · exact .inr ⟨record, by simp [hrecord, forwarded?], htranscript.shown console⟩
  | cmd text =>
      cases hparse : SettingsCommand.parse text with
      | some x =>
          rw [port_recognised host hparse]
          simpa [forwarded?, hparse] using h
      | none =>
          rw [port_passed host hparse]
          rcases h with hgone | ⟨record, hrecord, htranscript⟩
          · exact .inl (Pipe.exchangeAll_gone hgone _)
          · rcases Pipe.exchangeAll_takes c (Pipe.commandLines text) w.host.pipe with
              hgone | ⟨taken, htakes⟩
            · exact .inl hgone
            · exact .inr ⟨_, by simp [hrecord, forwarded?, hparse], htranscript.command htakes⟩

theorem port_told (p : Pipe γ) :
    Port.Coupled (.ofHosts Unit (Told c p)) (port c) (port c).noting := by
  rintro host call ⟨s, link, trap, log, engines⟩ ⟨⟨s', calls⟩, link', trap', log', engines'⟩
    ⟨htold, hlink, htrap, hlog, hengines⟩
  obtain rfl : s = s' := htold.1
  dsimp only at hlink htrap hlog hengines
  subst hlink htrap hlog hengines
  have hcall := Told.call (w := ⟨s, link, trap, log, engines⟩) htold host call
  exact ⟨rfl, .inl trivial, hcall, rfl, rfl, rfl, rfl⟩

end Workbench

/-! ## The program -/

namespace Program

open DecBridge.Bundle (Locator)

open Text (encode lineFeed)

variable {γ : Type} {m : Machine γ} {arguments : List String}

/-- The disassembler was sent these lines, each with one line feed behind it, and
it sees them as these lines. -/
def Report.Received (r : Report) (lines : List String) : Prop :=
  ∃ text, r.received = some text ∧
    encode text = lines.flatMap (fun line => encode line ++ [lineFeed]) ∧
    Text.cutAt lineFeed (encode text) = lines.map encode ++ [[]]

theorem Report.Received.of_sent {r : Report} {p : Pipe γ} {lines : List String}
    (hr : r.received = some p.received) (hsent : p.sent.toList = lines)
    (hlines : ∀ line ∈ lines, '\n' ∉ line.toList) : r.Received lines := by
  have hencoded := Pipe.encode_received hsent
  refine ⟨_, hr, hencoded, ?_⟩
  rw [hencoded]
  exact Pipe.cutAt_encoded hlines

theorem lineFeed_notMem_quit : '\n' ∉ Pipe.quitCommand.toList := by decide

namespace Started

variable (s : Started m arguments)

theorem calls_eq : s.calls = s.moments.flatMap Loop.Moment.calls := by
  exact congrArg (fun r => r.2.host.2)
    (Loop.watchAll_lists (Workbench.port s.child) Workbench.outputPart s.dispatcher
      (surroundings m) () s.lines s.start [])

theorem told : Workbench.Told s.child s.pipe s.watched.1.2.host
    (s.watched.1.2.host, s.calls) := by
  have hout : ∀ {b : Workbench γ} {t : Workbench γ × List Call},
      Workbench.Told s.child s.pipe b t →
        Workbench.outputPart.get b = Workbench.outputPart.carry.get t ∧
        ∀ sink, Workbench.Told s.child s.pipe (Workbench.outputPart.put sink b)
          (Workbench.outputPart.carry.put sink t) := by
    rintro b ⟨_, calls⟩ ⟨rfl, hgone | ⟨record, hrecord, htranscript⟩⟩
    · exact ⟨rfl, fun sink => ⟨rfl, .inl hgone⟩⟩
    · exact ⟨rfl, fun sink => ⟨rfl, .inr ⟨record, hrecord, htranscript.shown sink⟩⟩⟩
  obtain ⟨-, -, htold, -⟩ := Loop.executeAll_coupled (Workbench.port_told s.pipe) hout
    s.dispatcher (surroundings m) () s.lines s.start
    { s.start with host := (s.start.host, []) } ⟨⟨rfl, .inr ⟨[], rfl, .start⟩⟩, rfl, rfl, rfl, rfl⟩
  rw [← s.watched_act] at htold
  exact ⟨rfl, htold.2⟩

theorem pipe_sent : s.pipe.sent = #[] :=
  Pipe.awaitReady_ready (Programs.launch_opened s.launched)

theorem detached : Loop.Detached (Workbench.port s.child) s.dispatcher (surroundings m) ()
    (Loop.watchAll (Workbench.port s.child) Workbench.outputPart s.dispatcher (surroundings m) ()
      s.lines) :=
  Loop.watchAll_detached (fun h c w _ => ⟨rfl, Workbench.port_stays h c w⟩)
    (fun h c w => .inr (congrArg Link.slot (Workbench.port_stays h c w).link)) s.lines

/-- When the loop is over, nobody holds the host any more, whatever engines were given up. -/
theorem retained_false (h : s.exit ≠ .killed) : retained s.watched.1.2 = false := by
  have hslot : s.watched.1.2.link.slot = none := (s.detached s.start rfl).2.resolve_left h
  unfold retained Link.isAttached
  rw [hslot]
  rfl

theorem last_sent {n : Nat} (hends : (run m arguments).ending = .code n) {g : γ}
    (hreads : s.disassembler.running = some g) :
    s.last.host.pipe.sent.toList = s.disassembler.sent.toList ++ [Pipe.quitCommand] := by
  have hending : endingOf s.exit = .code n := by
    rw [s.run_eq] at hends
    exact hends
  have hreleased := s.retained_false
  unfold last
  cases hexit : s.exit with
  | killed =>
      rw [hexit] at hending
      cases hending
  | stalled =>
      rw [hexit] at hending
      cases hending
  | done result =>
      unfold closing
      rw [hreleased (by rw [hexit]; nofun)]
      exact Pipe.close_sent hreads
  | panicked q =>
      unfold closing
      rw [hreleased (by rw [hexit]; nofun)]
      exact Pipe.close_sent hreads
  | terminated =>
      rw [hexit] at hending
      cases hending

/-- A line is dispatched while nobody is in charge, and its commands are those of
the dispatcher. -/
theorem dispatched_spec {line : String} {calls : List Call}
    {result : Exit (Except DispatchError Dispatched)}
    (h : .dispatched line calls result ∈ s.moments) :
    ∃ w : World Unit (Workbench γ), w.link.slot = none ∧
      calls = s.dispatcher.calls (Workbench.port s.child) (surroundings m) () line w ∧
      result = (s.dispatcher.dispatch (Workbench.port s.child) (surroundings m) () line w).1 ∧
      calls.filterMap Call.command? =
        s.dispatcher.commands (Workbench.port s.child) (surroundings m) () line w := by
  obtain ⟨w, hw, rfl, hresult⟩ := (s.detached s.start rfl).1 _ h
  exact ⟨w, hw, rfl, hresult,
    s.dispatcher.calls_commands (fun h c w _ => ⟨rfl, Workbench.port_stays h c w⟩) _ () line w⟩

end Started

/-- A program whose disassembler closed its output before it was ready. -/
theorem run_unready {i : CommandLine.Invocation} {config : Config} {filter : Log.Filter}
    {c : Child γ} {e : Host.HostError} {p : Pipe γ} {events : List Log.Event}
    (hread : CommandLine.Invocation.read (CommandLine.split arguments).rest = .ok i)
    (hload : m.load (CommandLine.split arguments).config = .ok config)
    (hfilter : Log.Filter.read config.logFilter = .ok filter)
    (hlaunch : m.programs.launch config.r2Binary i.binary m.output =
      (.opened c (.failed e p), events)) :
    (run m arguments).ending = .code 1 ∧ (run m arguments).received = some p.received := by
  unfold run
  simp only [hread, hload, hfilter]
  unfold runWith
  simp only [hlaunch, and_self]

/-- What a disassembler receives from its start to its end.

If the program ends by itself and the request to leave can be written, then every
write before succeeded too, and the disassembler received the commands among the
calls of the host, in the order of the calls: of each all lines that are not blank,
or the lines up to the one whose reply was cut off. The calls are those of the
moments of the loop. A line that is dispatched issues the command that updates the
scripts or, in a session, those of the scripts; a line that is passed on is a
command itself. Behind all that the disassembler received the request to leave, and
nothing after it. One that closes its output before it is ready receives nothing
but the request. -/
theorem disassembler_receives (m : Machine γ) (arguments : List String) :
    (∀ (s : Started m arguments) (n : Nat), (run m arguments).ending = .code n →
      (s.disassembler.send s.child Pipe.quitCommand).1 = none →
      s.calls = s.moments.flatMap Loop.Moment.calls ∧
      (∀ line calls result, .dispatched line calls result ∈ s.moments →
        ∃ w : World Unit (Workbench γ), w.link.slot = none ∧
          calls = s.dispatcher.calls (Workbench.port s.child) (surroundings m) () line w ∧
          result = (s.dispatcher.dispatch (Workbench.port s.child) (surroundings m) () line w).1 ∧
          calls.filterMap Call.command? =
            s.dispatcher.commands (Workbench.port s.child) (surroundings m) () line w) ∧
      ∃ record : List (String × List String),
        record.map Prod.fst = s.calls.filterMap forwarded? ∧
        Pipe.Transcript s.child s.pipe record s.disassembler ∧
        (run m arguments).Received (record.flatMap Prod.snd ++ [Pipe.quitCommand])) ∧
    (∀ (i : CommandLine.Invocation) (config : Config) (filter : Log.Filter) (c : Child γ)
      (e : Host.HostError) (p : Pipe γ) (events : List Log.Event),
      CommandLine.Invocation.read (CommandLine.split arguments).rest = .ok i →
      m.load (CommandLine.split arguments).config = .ok config →
      Log.Filter.read config.logFilter = .ok filter →
      m.programs.launch config.r2Binary i.binary m.output = (.opened c (.failed e p), events) →
      ((Pipe.fresh c config.r2Binary i.binary m.output).send c Pipe.quitCommand).1 = none →
      (run m arguments).ending = .code 1 ∧
      (run m arguments).Received [Pipe.quitCommand]) := by
  constructor
  · intro s n hends hwritten
    refine ⟨s.calls_eq, fun _ _ _ => s.dispatched_spec, ?_⟩
    obtain ⟨g, hreads⟩ := Pipe.running_of_send hwritten
    obtain ⟨-, hgone | ⟨record, hrecord, htranscript⟩⟩ := s.told
    · rw [show s.watched.1.2.host.pipe.running = some g from hreads] at hgone
      cases hgone
    · have hreceived : (run m arguments).received = some s.last.host.pipe.received := by
        rw [s.run_eq]
      refine ⟨record, hrecord, htranscript, .of_sent hreceived ?_ ?_⟩
      · rw [s.last_sent hends hreads, show s.disassembler.sent.toList = _ from htranscript.sent,
          s.pipe_sent, List.nil_append]
      · intro line hline
        rcases List.mem_append.mp hline with hline | hline
        · exact (htranscript.mem_lines line hline).1
        · rw [List.mem_singleton.mp hline]
          exact lineFeed_notMem_quit
  · intro i config filter c e p events hread hload hfilter hlaunch hwritten
    obtain ⟨g, hreads⟩ := Pipe.running_of_send hwritten
    have hsent := Pipe.awaitReady_failed hreads (Programs.launch_opened hlaunch)
    obtain ⟨hending, hreceived⟩ := run_unready hread hload hfilter hlaunch
    refine ⟨hending, .of_sent hreceived hsent ?_⟩
    intro line hline
    rw [List.mem_singleton.mp hline]
    exact lineFeed_notMem_quit

/-- A disassembler that closes its output in the middle of a reply and reads on. -/
def fading : Child Nat where
  start := .waits [0x2e, 0] 0
  step n line := if line = "b" then .mutes [0x2e] n else .waits [0x2e, 0] n

/-- A disassembler that closes its output at once and reads on. -/
def muted : Child Nat where
  start := .mutes [] 0
  step n _ := .mutes [] n

/-- The interpreter, but what scripts leave of the memory is too little for a call. -/
def exhausted : Engine where
  __ := roomy
  call _ _ s := .done (.error .noMemory, s)
  call_keeps _ _ _ := rfl

/-- A machine with the other disassembler. -/
def mute : Machine Nat := machineOf roomy muted [] [] ""

/-- A script that issues a command before its entry point is called. -/
def seeking : String := "r2cmd('s'); function r2dec_main(args) \x7b \x7d"

/-- A machine with that engine and that script. -/
def failing : Machine Nat :=
  machineOf exhausted fading [(Bundle.rootVariable, "/")]
    [("r2dec-duk.js", .file (encode seeking))] ""

/-- The arguments of the machine: how much memory there is, what to do if the engine fails, and
four lines. -/
def fourLines : List String :=
  ["pdw", "--memory-limit", "1000000", "--fatal-policy", "contain", "target", "-c", "pdwu",
    "-c", "pdw", "-c", "e pdw.theme", "-c", "a\nb\nc"]

def failingStart : Started failing fourLines where
  invocation := ⟨"target", ["pdwu", "pdw", "e pdw.theme", "a\nb\nc"]⟩
  config := { memoryLimit := some 1000000, fatalPolicy := .contain }
  filter := ⟨[{ level := some .info }]⟩
  child := fading
  pipe := readyPipe
  events := [Pipe.spawningEvent "r2" "target", Pipe.readyEvent "."]
  read := rfl
  loaded := machineOf_load rfl rfl (by decide +kernel)
    (p := ⟨[("memory-limit", "1000000"), ("fatal-policy", "contain")], none⟩) rfl rfl rfl
  filtered := rfl
  launched := by
    show Programs.launch failing.programs "r2" "target" {} = _
    unfold Programs.launch
    rw [show failing.programs.find "r2" "target" = _ from machineOf_find]
    rfl

theorem failing_locator : failingStart.dispatcher.roots.locator (surroundings failing) =
    ⟨filesOf [("r2dec-duk.js", .file (Text.encode seeking))], some ⟨"/", .environment⟩⟩ := by
  have hroot : (surroundings failing).env.resolve none = some ⟨"/", .environment⟩ := by
    decide +kernel
  exact congrArg (Locator.mk _) hroot

theorem failing_runs :
    failingStart.exit = .done (.error (.host .closed)) ∧
      failingStart.watched.1.2.engines.abandoned = 1 ∧
      failingStart.calls.filterMap Call.command? =
        ["!r2pm -ci r2dec-wasm", "s", "e pdw.theme", "a\nb\nc"] ∧
      failingStart.disassembler.sent.toList = ["!r2pm -ci r2dec-wasm", "s", "a", "b"] ∧
      (failingStart.disassembler.send fading Pipe.quitCommand).1 = none := by
  have hbootstrap : (failingStart.dispatcher.roots.locator (surroundings failing)).load
      failingStart.dispatcher.options.bootstrap = .error (.notFound "require.js" "/") := by
    rw [failing_locator]
    exact Locator.load_top_of_none rfl (by decide +kernel) rfl
  have hentry : (failingStart.dispatcher.roots.locator (surroundings failing)).load
      failingStart.dispatcher.options.entry = .ok seeking := by
    rw [failing_locator]
    exact Locator.load_top_of_some rfl (by decide +kernel) rfl (by decide)
  unfold Started.disassembler Started.exit Started.calls
  rw [failingStart.watched_act,
    show failingStart.lines = [.ok "pdwu", .ok "pdw", .ok "e pdw.theme", .ok "a\nb\nc"] from rfl]
  simp only [Loop.executeAll]
  unfold Loop.execute Dispatcher.dispatch Dispatcher.carryOut Session.run Session.runAttached
    Session.drive Session.evaluate
  rw [hbootstrap, hentry]
  decide +kernel

/-- Four lines: the scripts are updated; a session issues a command, and then its
engine fails and is given up; a settings command is answered by the overlay; and of
three lines the second is the last that is received, since its reply is cut off.
Another disassembler never gets ready, and is asked to leave. -/
theorem disassembler_receives_fading :
    ((run failing fourLines).ending = .code 1 ∧
      failingStart.watched.1.2.engines.abandoned = 1 ∧
      (run failing fourLines).Received ["!r2pm -ci r2dec-wasm", "s", "a", "b", "q!"]) ∧
    ((run mute ["pdw", "target"]).ending = .code 1 ∧
      (run mute ["pdw", "target"]).Received ["q!"]) := by
  obtain ⟨hexit, habandoned, -, hsent, hreads⟩ := failing_runs
  have hending : (run failing fourLines).ending = .code 1 := by
    rw [failingStart.run_eq, hexit]
    rfl
  constructor
  · refine ⟨hending, habandoned, ?_⟩
    obtain ⟨-, -, record, -, htranscript, hreceived⟩ :=
      (disassembler_receives failing fourLines).1 failingStart 1 hending hreads
    have hlines : record.flatMap Prod.snd = ["!r2pm -ci r2dec-wasm", "s", "a", "b"] := by
      rw [← hsent]
      exact htranscript.sent.symm
    rw [hlines] at hreceived
    exact hreceived
  · obtain ⟨p, events, hlaunch⟩ : ∃ p events, mute.programs.launch "r2" "target" {} =
        (.opened muted (.failed .closed p), events) := by
      unfold Programs.launch
      rw [show mute.programs.find "r2" "target" = _ from machineOf_find]
      exact ⟨_, _, rfl⟩
    exact (disassembler_receives mute ["pdw", "target"]).2 ⟨"target", []⟩ {}
      ⟨[{ level := some .info }]⟩ muted .closed p events rfl
      (machineOf_load rfl rfl (by decide +kernel) (p := ⟨[], none⟩) rfl rfl rfl) rfl hlaunch rfl

end Program

end DecBridge
