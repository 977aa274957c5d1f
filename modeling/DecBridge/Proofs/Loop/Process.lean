import DecBridge.Config.Load
import DecBridge.Program.Started
import DecBridge.Proofs.Files.Walk
import DecBridge.Proofs.Loop.Accounts
import DecBridge.Proofs.Loop.Calm
import DecBridge.Proofs.Loop.Lines
import DecBridge.Proofs.Pipe.Synchrony
import DecBridge.Proofs.Session.Scripted

/-!
# The loop of the program

The program as a whole, once it got as far as its loop (`Program.Started`). Its
host is a workbench, whose console is the output of the program, so the moments of
the loop account for the output and the diagnostics.

`Program.loop_executes_lines` puts this together with the lines that are executed
and with what happens to each, and adds how the program ends.
-/

namespace DecBridge

open CommandLine (Invocation)

open Output (Fault Sink)

/-! ## Configurations without a file -/

namespace Config

variable {fs : Files.FileSystem}

theorem loadFile_of_notFound {path : String} (h : fs.find path = .error .notFound) :
    loadFile fs path = .ok none := by
  unfold loadFile look
  rw [h]

theorem load_of_search {env : Environment} {arguments : List String}
    {p : CommandLine.Parsed} {config : Config}
    (hread : grammar.read arguments.tail = .ok p)
    (hsearch : search fs (candidates fs env (pathOfFlags? p)) = {})
    (hlayers : ofLayers (layers (ofFlags p) env none) = .ok config) :
    load fs env arguments = .ok config := by
  unfold load
  simp only [hread, hsearch, hlayers]
  rfl

end Config

theorem Programs.launch_opened {γ : Type} {ps : Programs γ} {program target : String}
    {console : Sink} {c : Child γ} {o : Pipe.Opening γ} {events : List Log.Event}
    (h : ps.launch program target console = (.opened c o, events)) :
    ((Pipe.fresh c program target console).awaitReady c).1 = o := by
  unfold launch at h
  cases hfind : ps.find program target with
  | error fault =>
      rw [hfind] at h
      cases h
  | ok c' =>
      rw [hfind] at h
      obtain ⟨hopened, -⟩ := Prod.mk.inj h
      obtain ⟨rfl, ho⟩ := Launch.opened.inj hopened
      exact ho

/-! ## The program -/

namespace Program

variable {γ : Type}

/-- The end of the program leaves everything as it is or closes the disassembler. -/
theorem closing_cases (c : Child γ) (e : Exit (Except Loop.LoopError Unit))
    (w : World Unit (Workbench γ)) :
    closing c e w = w ∨ closing c e w =
      { w with
        host := { w.host with pipe := (w.host.pipe.close c).1 }
        log := w.log ++ (w.host.pipe.close c).2.toArray } := by
  unfold closing
  cases e with
  | killed => exact .inl rfl
  | stalled => exact .inl rfl
  | done result => exact ite_eq_or_eq _ _ _
  | panicked q => exact ite_eq_or_eq _ _ _
  | terminated => exact ite_eq_or_eq _ _ _

theorem closing_spec (c : Child γ) (e : Exit (Except Loop.LoopError Unit))
    (w : World Unit (Workbench γ)) :
    (closing c e w).host.pipe.console = w.host.pipe.console ∧ (closing c e w).trap = w.trap := by
  rcases closing_cases c e w with h | h
  · rw [h]
    exact ⟨rfl, rfl⟩
  · rw [h]
    exact ⟨Pipe.close_console c w.host.pipe, rfl⟩

namespace Started

variable {m : Machine γ} {arguments : List String} (s : Started m arguments)

theorem pipe_console : s.pipe.console = m.output :=
  Pipe.ready_console s.child (Prod.ext (Programs.launch_opened s.launched) rfl)

theorem watched_act : s.watched.1 = Loop.executeAll (Workbench.port s.child)
    Workbench.outputPart s.dispatcher (surroundings m) () s.lines s.start :=
  congrFun (Loop.watchAll_act (Workbench.port s.child) Workbench.outputPart _ _ () s.lines) s.start

theorem last_spec :
    s.last.host.pipe.console = s.watched.1.2.host.pipe.console ∧
      s.last.trap = s.watched.1.2.trap :=
  closing_spec s.child s.exit s.watched.1.2

theorem run_eq : run m arguments =
    { ending := endingOf s.exit
      output := s.last.host.pipe.console
      diagnostics := s.last.trap.sink.text ++ ((failureOf? s.exit).map Failure.line).getD ""
      log := s.last.log.toList.filter s.filter.passes
      format := s.config.logFormat
      received := some s.last.host.pipe.received } := by
  have hwork : work m s.config s.invocation s.child s.pipe s.events = (s.exit, s.last) := by
    unfold last exit
    rw [s.watched_act]
    rfl
  unfold run
  dsimp only
  rw [s.read]
  dsimp only
  rw [s.loaded]
  dsimp only
  rw [s.filtered]
  dsimp only
  unfold runWith
  rw [s.launched]
  dsimp only
  rw [hwork]

theorem exit_calm (q : Payload) : s.exit ≠ .panicked q := by
  have hcalm : ∀ h c, (Workbench.port s.child h c).Calm := by
    intro h c w q
    rcases (Workbench.port_spec (c := s.child) h c w).exit with hexit | ⟨answer, hexit⟩
    · rw [hexit]
      rintro ⟨⟩
    · rw [hexit]
      rintro ⟨⟩
  unfold exit
  rw [s.watched_act]
  exact Loop.executeAll_calm hcalm _ _ _ () s.lines s.start q

theorem accounts : Loop.Accounts s.start s.watched :=
  Loop.watchAll_accounted _ _ () s.lines s.start

theorem output_text (h : m.output.behaviour = .sound) :
    (run m arguments).output.text =
      m.output.text ++ String.join (s.moments.flatMap Loop.Moment.shown) := by
  have hshown : s.pipe.console.Grows s.watched.1.2.host.pipe.console
      (s.moments.flatMap Loop.Moment.shown) := s.accounts.shown
  rw [s.pipe_console] at hshown
  rw [s.run_eq, s.last_spec.1]
  exact (hshown h).2

/-- With commands on the command line the input is not looked at. -/
theorem run_input (h : s.invocation.commands ≠ []) (input : Text.Bytes) :
    run { m with input } arguments = run m arguments := by
  let s' : Started { m with input } arguments := { s with }
  have hlines : s'.lines = s.lines :=
    (Loop.lines_of_commands h input).trans (Loop.lines_of_commands h m.input).symm
  have hwatched : s'.watched = s.watched := by
    show Loop.watchAll _ _ _ _ () s'.lines s'.start = _
    rw [hlines]
    rfl
  rw [s'.run_eq, s.run_eq]
  unfold last exit
  rw [hwatched]

end Started

/-- How the program ends, by how its loop did; `noted` is what was noted before. -/
def Concludes (noted : String) (r : Report) : Exit (Except Loop.LoopError Unit) → Prop
  | .done (.ok ()) => r.ending = .code 0 ∧ r.diagnostics = noted
  | .done (.error e) => r.ending = .code 1 ∧ r.diagnostics = noted ++ (e.message ++ "\n")
  | .stalled => r.ending = .stalled ∧ r.diagnostics = noted
  | .terminated | .killed => r.ending = .aborted
  | .panicked _ => False

theorem Started.concludes {m : Machine γ} {arguments : List String} (s : Started m arguments) :
    Concludes (String.join (s.moments.flatMap Loop.Moment.noted)) (run m arguments) s.exit := by
  have hpanic := s.exit_calm
  have hnoted : s.exit.Lasts →
      s.last.trap.sink.text = String.join (s.moments.flatMap Loop.Moment.noted) := by
    intro hlasts
    rw [s.last_spec.2, (s.accounts.noted hlasts rfl).2]
    exact String.empty_append
  rw [s.run_eq]
  cases hexit : s.exit with
  | done result =>
      have htext := hnoted (by rw [hexit]; trivial)
      rw [htext]
      cases result with
      | ok _ => exact ⟨rfl, String.append_empty⟩
      | error e => exact ⟨rfl, rfl⟩
  | stalled =>
      rw [hnoted (by rw [hexit]; trivial)]
      exact ⟨rfl, String.append_empty⟩
  | terminated => rfl
  | killed => rfl
  | panicked q => exact hpanic q hexit

/-- The lines of the loop are the commands of the command line as they are, or what
`Selects` takes from the input. Whatever the hosts do, each line is dispatched once
and passed on once or not at all, and the host is called for nothing else. The
program has put out, in this order, what was printed and what the host put out for
the lines that were passed to it, and it ends by how the loop did. -/
theorem loop_executes_lines :
    (∀ (i : Invocation) (input : Text.Bytes),
      (i.commands ≠ [] → Loop.lines i input = i.commands.map .ok) ∧
      (i.commands = [] →
        Loop.Selects ((Text.cutAt 10 input).map Loop.commandOf) (Loop.lines i input))) ∧
    (∀ {η σ : Type} (p : Port η σ) (out : Host.Part σ Sink) (d : Dispatcher)
      (around : Surroundings) (host : η) (lines : List (Except Fault String)) (w : World η σ),
      let r := Loop.watchAll p out d around host lines w
      r.1 = Loop.executeAll p out d around host lines w ∧
      Loop.Course lines r.2 r.1.1 ∧
      Loop.executeAll p.noting out.carry d around host lines { w with host := (w.host, []) } =
        (r.1.1, { r.1.2 with host := (r.1.2.host, r.2.flatMap Loop.Moment.calls) }) ∧
      ((∀ h c, (p h c).Calm) → ∀ q, r.1.1 ≠ .panicked q)) ∧
    (∀ {γ : Type} (m : Machine γ) (arguments : List String) (s : Started m arguments),
      Loop.Course s.lines s.moments s.exit ∧
      (s.invocation.commands ≠ [] → ∀ input, run { m with input } arguments = run m arguments) ∧
      (m.output.behaviour = .sound → (run m arguments).output.text =
        m.output.text ++ String.join (s.moments.flatMap Loop.Moment.shown)) ∧
      Concludes (String.join (s.moments.flatMap Loop.Moment.noted)) (run m arguments) s.exit) := by
  refine ⟨fun i input => ⟨fun h => Loop.lines_of_commands h input,
    fun h => Loop.lines_of_input h input⟩, ?_, ?_⟩
  · intro η σ p out d around host lines w r
    have hact : r.1 = Loop.executeAll p out d around host lines w :=
      congrFun (Loop.watchAll_act p out d around host lines) w
    refine ⟨hact, Loop.watchAll_course p out d around host lines w,
      Loop.watchAll_lists p out d around host lines w [], fun hp q => ?_⟩
    rw [hact]
    exact Loop.executeAll_calm hp out d around host lines w q
  · intro γ m arguments s
    exact ⟨Loop.watchAll_course _ _ _ _ () s.lines s.start, s.run_input, s.output_text,
      s.concludes⟩

/-! ## A program that runs to its end -/

/-- The files of a machine: its disassembler, and others at the top. -/
def filesOf (others : List (String × Files.Node)) : Files.FileSystem :=
  ⟨("bin", .dir [("r2", .file [])]) :: others, []⟩

/-- A machine with that disassembler. -/
def machineOf (E : Engine) (c : Child Nat) (env : List (String × String))
    (others : List (String × Files.Node)) (input : String) : Machine Nat where
  programs :=
    { files := filesOf others
      searchPath := ["/bin"]
      started := fun names => if names = ["bin", "r2"] then some fun _ => c else none }
  env
  home := none
  engine := E
  load arguments := (Config.load (filesOf others) env arguments).mapError Config.LoadError.message
  input := Text.encode input
  output := {}

section Machine

variable {E : Engine} {c : Child Nat} {env : List (String × String)}
  {others : List (String × Files.Node)} {input : String}

theorem walk_missing {first : String} (hname : Files.IsName first) (hbin : first ≠ "bin")
    (hothers : others.lookup first = none) (rest : List String) :
    Files.walk false (filesOf others).top Files.mostLinks [] ("" :: first :: rest) =
      .error .notFound := by
  have hother : (first == "bin") = false := beq_eq_false_iff_ne.mpr hbin
  have hlookup : (filesOf others).top.lookup first = none := by
    simp only [filesOf, List.lookup_cons, hother, hothers]
  rw [Files.walk_skip _ _ _ _ _ (.inl rfl), Files.walk_name _ _ _ _ _ hname, Files.here_nil,
    hlookup]

theorem loadFile_missing (hetc : others.lookup "etc" = none)
    (hhome : others.lookup ".pdw.toml" = none) {path : String}
    (h : path ∈ ["/etc/xdg/pdw/config.toml", "/etc/xdg/.pdw.toml", "/.pdw.toml"]) :
    Config.loadFile (filesOf others) path = .ok none := by
  have hname : Files.IsName "etc" := ⟨by decide, by decide, by decide, by decide⟩
  have hfile : Files.IsName ".pdw.toml" := ⟨by decide, by decide, by decide, by decide⟩
  apply Config.loadFile_of_notFound
  simp only [List.mem_cons, List.not_mem_nil, or_false] at h
  rcases h with rfl | rfl | rfl
  · rw [Files.FileSystem.find_eq_walk _ (by decide +kernel)]
    exact walk_missing hname (by decide) hetc ["xdg", "pdw", "config.toml"]
  · rw [Files.FileSystem.find_eq_walk _ (by decide +kernel)]
    exact walk_missing hname (by decide) hetc ["xdg", ".pdw.toml"]
  · rw [Files.FileSystem.find_eq_walk _ (by decide +kernel)]
    exact walk_missing hfile (by decide) hhome []

/-- Without a configuration file the flags and the environment decide. -/
theorem machineOf_load (hetc : others.lookup "etc" = none)
    (hhome : others.lookup ".pdw.toml" = none)
    (hpaths : Config.candidates (filesOf others) env none =
      [⟨"/etc/xdg/pdw/config.toml", false⟩, ⟨"/etc/xdg/.pdw.toml", false⟩, ⟨"/.pdw.toml", false⟩])
    {arguments : List String} {p : CommandLine.Parsed} {config : Config}
    (hread : Config.grammar.read arguments.tail = .ok p) (hpath : Config.pathOfFlags? p = none)
    (hlayers : Config.ofLayers (Config.layers (Config.ofFlags p) env none) = .ok config) :
    (machineOf E c env others input).load arguments = .ok config := by
  have hsearch : Config.search (filesOf others)
      (Config.candidates (filesOf others) env (Config.pathOfFlags? p)) = {} := by
    rw [hpath, hpaths]
    simp [Config.search, loadFile_missing hetc hhome]
  show (Config.load (filesOf others) env arguments).mapError _ = _
  rw [Config.load_of_search hread hsearch hlayers]
  rfl

theorem machineOf_find :
    (machineOf E c env others input).programs.find "r2" "target" = .ok c := by
  have hbin : Files.IsName "bin" := ⟨by decide, by decide, by decide, by decide⟩
  have hr2 : Files.IsName "r2" := ⟨by decide, by decide, by decide, by decide⟩
  have hwalk : Files.walk false (filesOf others).top Files.mostLinks [] ["", "bin", "r2"] =
      .ok (.file ["bin", "r2"] []) := by
    rw [Files.walk_skip _ _ _ _ _ (.inl rfl), Files.walk_name _ _ _ _ _ hbin]
    show Files.walk _ _ _ [⟨"bin", [("r2", .file [])]⟩] ["r2"] = _
    rw [Files.walk_name _ _ _ _ _ hr2]
    rfl
  have hfind : (filesOf others).find "/bin/r2" = .ok (.file ["bin", "r2"] []) := by
    rw [Files.FileSystem.find_eq_walk _ (by decide +kernel)]
    exact hwalk
  have hpath : (machineOf E c env others input).programs.atPath "/bin/r2" =
      .ok fun _ => c := by
    unfold Programs.atPath
    rw [show (machineOf E c env others input).programs.files = filesOf others from rfl, hfind]
    rfl
  unfold Programs.find
  rw [if_neg (by decide +kernel), if_neg (by decide +kernel), if_neg (by decide +kernel),
    if_neg (by decide +kernel)]
  show (Programs.search (machineOf E c env others input).programs "r2" false ["/bin"]).map _ = _
  unfold Programs.search
  rw [show Files.join "/bin" "r2" = "/bin/r2" by decide +kernel, hpath]
  rfl

end Machine

/-- The pipe to that disassembler, once it is ready. -/
def readyPipe : Pipe Nat :=
  { program := "r2", target := "target", running := some 0, unread := [], sent := #[], console := {} }

/-- A machine whose disassembler answers by dots. -/
def dotted : Machine Nat := machineOf roomy Pipe.dots [] [] " e cmd.pdc=? \n\nx\nq\ny\n"

def dottedStart : Started dotted ["pdw", "target"] where
  invocation := ⟨"target", []⟩
  config := {}
  filter := ⟨[{ level := some .info }]⟩
  child := Pipe.dots
  pipe := readyPipe
  events := [Pipe.spawningEvent "r2" "target", Pipe.readyEvent "."]
  read := rfl
  loaded := machineOf_load rfl rfl (by decide +kernel) (p := ⟨[], none⟩) rfl rfl rfl
  filtered := rfl
  launched := by
    show Programs.launch dotted.programs "r2" "target" {} = _
    unfold Programs.launch
    rw [show dotted.programs.find "r2" "target" = _ from machineOf_find]
    rfl

theorem loop_executes_lines_dotted :
    dotted.output.behaviour = .sound ∧
    dottedStart.lines = [.ok "e cmd.pdc=?", .ok "x"] ∧
    (run dotted ["pdw", "target"]).output.text = "r2dec-wasm\n..." ∧
    (run dotted ["pdw", "target"]).diagnostics = "" ∧
    (run dotted ["pdw", "target"]).ending = .code 0 := by
  obtain ⟨-, -, houtput, hends⟩ := loop_executes_lines.2.2 dotted ["pdw", "target"] dottedStart
  have hshown : dottedStart.moments.flatMap Loop.Moment.shown = ["r2dec-wasm\n", ".", ".."] := by
    decide +kernel
  have hnoted : dottedStart.moments.flatMap Loop.Moment.noted = [] := by decide +kernel
  have hexit : dottedStart.exit = .done (.ok ()) := by decide +kernel
  have htext := houtput rfl
  rw [hshown] at htext
  rw [hexit, hnoted] at hends
  exact ⟨rfl, by decide +kernel, htext, hends.2, hends.1⟩

end Program

end DecBridge
