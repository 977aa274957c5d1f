import DecBridge.Dispatch
import DecBridge.Proofs.World.Carried

/-!
# Sessions side by side

Every function of a session and of a dispatcher is coupled with itself when
the ports are (`drive_coupled`, `run_coupled`, `Dispatcher.dispatch_coupled`):
nothing in them looks at the states of the hosts. Up to `drive` this holds for
any coupling, and for what comes after it the coupling has to go through the
trap and the making of engines (`Through`), and for a dispatcher
through whole sessions (`Dispatcher.dispatch_coupled_of`). One that relates the
states of the hosts and nothing else does.
-/

namespace DecBridge

open DecBridge.Bundle (Locator)

open Host (Call HostError)

open Act (Coupled)

open Engine (Failure Outcome)

open Script (Answer Request Run)

variable {η σ τ α : Type} {C : Coupling η σ τ} {p : Port η σ} {q : Port η τ} (E : Engine)

namespace Session

/-! ## Callbacks -/

theorem hostFailure_coupled (function : String) (e : HostError) :
    Coupled C (hostFailure function e) (hostFailure function e) :=
  (Coupled.note _).bind fun _ => Coupled.pure _

theorem perform_ask (l : Locator) (r : Request) (resume : Answer → Run α) :
    perform p l (.ask r resume) =
      serveSafely p l r >>= fun answer => perform p l (resume answer) := by
  funext w
  show _ = Act.bind _ _ _
  rw [perform]
  unfold Act.bind
  dsimp only
  rcases serveSafely p l r w with ⟨_ | _ | _ | _ | _, w'⟩ <;> rfl

/-- Handing back changes nothing. -/
theorem handBack_world (r : Crossed E α) (w : World η σ) : (handBack E r w).2 = w := by
  obtain ⟨(v | _ | message) | a, s⟩ := r
  case error.thrown =>
      unfold handBack
      dsimp only
      cases E.kept s <;> rfl
  all_goals rfl

theorem handBack_coupled (r : Crossed E α) : Coupled C (handBack E r) (handBack E r) := by
  obtain ⟨(v | _ | message) | a, s⟩ := r
  case error.thrown =>
      unfold handBack
      dsimp only
      cases E.kept s with
      | none => exact Coupled.pure _
      | some payload => exact Coupled.exit (.inr trivial)
  all_goals exact Coupled.pure _

section

variable (hp : Port.Coupled C p q)
include hp

theorem serveCommand_coupled (command : String) :
    Coupled C (serveCommand p command) (serveCommand q command) := by
  refine (Coupled.note _).bind fun _ => (Link.call_coupled hp (.cmd command)).bind ?_
  rintro (e | text)
  · exact hostFailure_coupled _ e
  · exact Coupled.pure _

theorem servePrint_coupled (line : String) :
    Coupled C (servePrint p line) (servePrint q line) := by
  refine (Link.print_coupled hp line).bind ?_
  rintro (e | _)
  · exact hostFailure_coupled _ e
  · exact Coupled.pure _

theorem serveLookup_coupled (l : Locator) (form : Lookup) (name : String) :
    Coupled C (serveLookup p l form name) (serveLookup q l form name) := by
  refine (Coupled.notes _).bind fun _ => ?_
  cases form.find l name with
  | ok text => exact Coupled.pure _
  | error e =>
      refine (Coupled.note _).bind fun _ => (Link.print_coupled hp _).bind ?_
      rintro (dropped | _)
      · exact (Coupled.note _).bind fun _ => Coupled.pure _
      · exact Coupled.pure _

theorem serve_coupled (l : Locator) (r : Request) :
    Coupled C (serve p l r) (serve q l r) := by
  cases r with
  | command text => exact serveCommand_coupled hp text
  | load name => exact serveLookup_coupled hp l .file name
  | require name => exact serveLookup_coupled hp l .module name
  | print line => exact servePrint_coupled hp line

theorem serveSafely_coupled (l : Locator) (r : Request) :
    Coupled C (serveSafely p l r) (serveSafely q l r) := by
  refine (serve_coupled hp l r).catching.bind ?_
  rintro (payload | answer)
  · exact Coupled.pure _
  · exact Coupled.pure _

theorem perform_coupled (l : Locator) (x : Run α) :
    Coupled C (perform p l x) (perform q l x) := by
  induction x with
  | done a => exact Coupled.pure a
  | stalled => exact Coupled.exit (.inr trivial)
  | ask r resume ih =>
      rw [perform_ask, perform_ask]
      exact (serveSafely_coupled hp l r).bind ih

/-! ## The stages of a session -/

theorem print_coupled (text : String) :
    Coupled C (print p text) (print q text) := by
  refine (Link.print_coupled hp text).bind ?_
  rintro (e | _)
  · exact Coupled.note _
  · exact Coupled.pure _

theorem reportException_coupled (stage message : String) :
    Coupled C (reportException p stage message) (reportException q stage message) :=
  (Coupled.note _).bind fun _ => print_coupled hp _

theorem crossing_coupled (l : Locator) (x : Outcome E.State E.Value α) :
    Coupled C (crossing E p l x) (crossing E q l x) :=
  (perform_coupled hp l x).bind fun r => handBack_coupled E r

theorem readPart_coupled (l : Locator) (v : E.Value) (key : String) (s : E.State) :
    Coupled C (readPart E p l v key s) (readPart E q l v key s) := by
  refine (crossing_coupled E hp l _).bind ?_
  rintro ⟨f | text, s⟩
  · exact Coupled.pure _
  · exact Coupled.pure _

theorem describe_coupled (l : Locator) (v : E.Value) (s : E.State) :
    Coupled C (describe E p l v s) (describe E q l v s) := by
  unfold describe
  split
  · exact (readPart_coupled E hp l v _ s).bind fun r =>
      (readPart_coupled E hp l v _ r.2).bind fun _ => Coupled.pure _
  · exact Coupled.pure _

theorem scriptError_coupled (l : Locator) (stage : String) (f : Failure E.Value) (s : E.State) :
    Coupled C (scriptError E p l stage f s) (scriptError E q l stage f s) := by
  cases f with
  | noMemory => exact Coupled.pure _
  | refused message => exact (reportException_coupled hp _ message).bind fun _ => Coupled.pure _
  | thrown v =>
      exact (describe_coupled E hp l v s).bind fun r =>
        (reportException_coupled hp _ r.1).bind fun _ => Coupled.pure _

theorem evaluate_coupled (l : Locator) (name : String) (s : E.State) :
    Coupled C (evaluate E p l name s) (evaluate E q l name s) := by
  refine (Coupled.notes _).bind fun _ => ?_
  cases l.load name with
  | error e => exact (Coupled.note _).bind fun _ => Coupled.pure _
  | ok source =>
      refine (crossing_coupled E hp l _).bind ?_
      rintro ⟨f | _, s⟩
      · exact (scriptError_coupled E hp l name f s).proceed fun _ => Coupled.pure _
      · exact Coupled.pure _

theorem failEntryPoint_coupled (l : Locator) (o : SessionOptions) (f : Failure E.Value)
    (s : E.State) : Coupled C (failEntryPoint E p l o f s) (failEntryPoint E q l o f s) :=
  (scriptError_coupled E hp l _ f s).proceed fun _ => Coupled.pure _

theorem invoke_coupled (l : Locator) (o : SessionOptions) (args : List String) (main : E.Value)
    (s : E.State) : Coupled C (invoke E p l o args main s) (invoke E q l o args main s) := by
  unfold invoke
  split
  · exact (Coupled.note _).bind fun _ => (print_coupled hp _).bind fun _ => Coupled.pure _
  · refine (crossing_coupled E hp l _).bind ?_
    rintro ⟨f | _, s⟩
    · exact failEntryPoint_coupled E hp l o f s
    · exact Coupled.pure _

theorem callEntryPoint_coupled (l : Locator) (o : SessionOptions) (args : List String)
    (s : E.State) : Coupled C (callEntryPoint E p l o args s) (callEntryPoint E q l o args s) := by
  refine (crossing_coupled E hp l _).bind ?_
  rintro ⟨f | main, s⟩
  · exact failEntryPoint_coupled E hp l o f s
  · exact invoke_coupled E hp l o args main s

theorem drive_coupled (l : Locator) (o : SessionOptions) (args : List String) (s : E.State) :
    Coupled C (drive E p l o args s) (drive E q l o args s) := by
  unfold drive
  cases E.install s with
  | error reason => exact Coupled.pure _
  | ok s =>
      exact (Coupled.note _).bind fun _ => (evaluate_coupled E hp l _ s).proceed fun s =>
        (evaluate_coupled E hp l _ s).proceed fun s => callEntryPoint_coupled E hp l o args s

end

/-! ## Whole sessions -/

/-- What a coupling has to go through besides the engine and the calls of hosts, if it is to go
through whole sessions once they are attached. -/
structure Through (C : Coupling η σ τ) : Prop where
  newEngine : ∀ E o, Coupled C (Session.newEngine E o) (Session.newEngine E o)
  trip : ∀ message : String, Coupled C (Trap.trip (some message)) (Trap.trip (some message))
  abandon : Coupled C Session.abandon Session.abandon

theorem conclude_coupled (hC : Through C)
    (r : Except Payload (Except String SessionOutcome)) : Coupled C (conclude r) (conclude r) := by
  have hfinish : ∀ outcome, Coupled C (finish outcome) (finish outcome) :=
    fun _ => (Coupled.note _).bind fun _ => Coupled.pure _
  have hfault : ∀ message, Coupled C (fault message >>= finish) (fault message >>= finish) :=
    fun message => Coupled.bind ((hC.trip message).bind fun _ => hC.abandon.bind fun _ =>
      Coupled.pure _) hfinish
  rcases r with payload | message | outcome
  · exact hfault _
  · exact hfault _
  · exact hfinish outcome

theorem runAttached_coupled_of (hC : Through C) (hp : Port.Coupled C p q)
    (l : Locator) (o : SessionOptions) (args : List String) :
    Coupled C (runAttached E p l o args) (runAttached E q l o args) := by
  refine (hC.newEngine E o).bind ?_
  rintro (reason | s)
  · exact Coupled.pure _
  · exact (Coupled.note _).bind fun _ => (drive_coupled E hp l o args s).catching.bind fun _ =>
      conclude_coupled hC _

section OfHosts

variable {S : σ → τ → Prop}

theorem ofHosts_through : Through (Coupling.ofHosts η S) where
  newEngine E o := by
    rintro w w' ⟨hhost, hlink, htrap, hlog, hengines⟩
    unfold newEngine
    rw [hengines]
    exact ⟨rfl, .inl trivial, hhost, hlink, htrap, hlog, rfl⟩
  trip message := Trap.trip_coupled (some message)
  abandon := by
    rintro w w' ⟨hhost, hlink, htrap, hlog, hengines⟩
    refine ⟨rfl, .inl trivial, hhost, hlink, htrap, hlog, ?_⟩
    show Engines.mk _ _ = Engines.mk _ _
    rw [hengines]

theorem run_coupled (hp : Port.Coupled (.ofHosts η S) p q) (l : Locator) (o : SessionOptions)
    (host : η) (args : List String) :
    Coupled (.ofHosts η S) (run E p l o host args) (run E q l o host args) := by
  refine (Link.attach_coupled host).bind ?_
  rintro (e | guard)
  · exact Coupled.pure _
  · exact (runAttached_coupled_of E ofHosts_through hp l o args).afterwards
      (Link.release_coupled guard)

end OfHosts

end Session

/-! ## Dispatching -/

namespace Dispatcher

section

variable (hp : Port.Coupled C p q) (d : Dispatcher)
  (hrun : ∀ l o host args,
    Coupled C (Session.run d.engine p l o host args) (Session.run d.engine q l o host args))
include hp hrun

theorem carryOut_coupled_of (around : Surroundings) (host : η)
    (action : Action) :
    Coupled C (carryOut p d around host action) (carryOut q d around host action) := by
  cases action with
  | configQuery => exact (hp host _).bind fun _ => Coupled.pure _
  | usage => exact (hp host _).bind fun _ => Coupled.pure _
  | update =>
      refine (Coupled.note _).bind fun _ => (hp host _).bind ?_
      rintro (e | output)
      · exact Coupled.pure _
      · exact (hp host _).bind fun _ => Coupled.pure _
  | decompile args =>
      refine (Coupled.notes _).bind fun _ => (hrun _ _ host args).bind ?_
      rintro (e | outcome)
      · exact Coupled.pure _
      · exact Coupled.pure _

theorem dispatch_coupled_of (around : Surroundings) (host : η) (line : String) :
    Coupled C (dispatch p d around host line) (dispatch q d around host line) := by
  unfold dispatch
  cases Action.route line with
  | none => exact Coupled.pure _
  | some action =>
      exact (Coupled.note _).bind fun _ => carryOut_coupled_of hp d hrun around host action

end

theorem dispatch_coupled {S : σ → τ → Prop} (hp : Port.Coupled (.ofHosts η S) p q)
    (d : Dispatcher) (around : Surroundings) (host : η) (line : String) :
    Coupled (.ofHosts η S) (dispatch p d around host line)
      (dispatch q d around host line) :=
  dispatch_coupled_of hp d (Session.run_coupled d.engine hp) around host line

end Dispatcher

end DecBridge
