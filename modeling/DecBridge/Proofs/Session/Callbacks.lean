import DecBridge.Proofs.Dispatch.Seen
import DecBridge.Proofs.Script.Units
import DecBridge.Proofs.Session.Staging

/-!
# Effects of callbacks

What a call of a callback does outside of the engine, and how it ends. `Meets`
has the ways to end: the script gets a value or an error of a kind, a panic of
the host is thrown and kept, or nothing goes on because the host does not come
back.

A callback takes its text first, and throws without a request if there is none
(`nativeRule_run_of_raise`). Then it makes a single request, which is served by at most one call
of the host in charge (`command_meets`, `lookup_meets`, `print_meets`). Only the
methods of the console run code of the script before their request: they coerce
their arguments from left to right, and `Coerces` and `Refuses` say what comes of it.
-/

namespace DecBridge

open DecBridge.Bundle (Locator)

open Host (Call HostError)

open Script (Abrupt Answer Eval ErrorKind Heap Native Request Run Str Value)

variable {η σ α β : Type}

namespace Script

/-! ## Errors -/

/-- The value is an error of this kind. The engine has room for a part of a message. -/
def Heap.IsError (h : Heap) (v : Value) (kind : ErrorKind) (message : String) : Prop :=
  ∃ r o, v = .object r ∧ h.objects[r]? = some o ∧ o.kind = .error ∧ o.proto = some kind.proto ∧
    o.own? (.name "message") =
      some (.hidden (.ofString (buffered Eval.messageRoom message)))

theorem raise_isError (kind : ErrorKind) (message : String) (h : Heap) :
    ∃ v h', (Eval.raise kind message : Eval α).run h = .done (.error (.thrown v), h') ∧
      h'.IsError v kind message := by
  let text := Value.ofString (buffered Eval.messageRoom message)
  let o : Object := ⟨some kind.proto, .error, [(.name "message", .hidden text),
    (.name "stack", .hidden (.ofString (Eval.trace 0 h)))]⟩
  have hpush : (h.objects.push o)[h.objects.size]? = some o := Array.getElem?_push_size
  exact ⟨_, _, rfl, h.objects.size, o, rfl, hpush, rfl, rfl, rfl⟩

theorem Heap.IsError.kind_eq {h : Heap} {v : Value} {kind kind' : ErrorKind}
    {message message' : String} (he : h.IsError v kind message) (he' : h.IsError v kind' message') :
    kind = kind' := by
  obtain ⟨r, o, rfl, ho, -, hproto, -⟩ := he
  obtain ⟨_, o', heq, ho', -, hproto', -⟩ := he'
  cases heq
  obtain rfl : o = o' := Option.some.inj (ho.symm.trans ho')
  have hproto := Option.some.inj (hproto.symm.trans hproto')
  cases kind <;> cases kind' <;> first | rfl | nomatch hproto

theorem bind_run_of_error {x : Eval α} {f : α → Eval β} {h h' : Heap} {e : Abrupt}
    (hx : x.run h = .done (.error e, h')) : (x >>= f).run h = .done (.error e, h') := by
  show (x.run h).bind _ = _
  rw [hx]
  rfl

/-! ## Texts for callbacks -/

/-- What a callback asks for that takes a text. -/
def Native.request? : Native → Option (String → Request)
  | .command => some .command
  | .load => some .load
  | .require => some .require
  | _ => none

theorem nativeRule_of_request {g : Native} {request : String → Request}
    (hg : g.request? = some request) (ev : Script.Evaluator) (this : Value) (args : List Value) :
    nativeRule ev g this args =
      (do answered (← Eval.ask (request (← textArgument g.name args)))) := by
  cases g <;> cases hg <;> rfl

theorem outsideText_of_toText {s : Str} {text : String} (h : s.toText = .ok text) :
    outsideText s = pure text := by
  unfold outsideText
  rw [h]

/-- What is said of a text whose first unpaired surrogate is at this offset. -/
def conversionFailure (offset : Nat) : String :=
  "Conversion from string failed: invalid utf-8 sequence of 1 bytes from index " ++ toString offset

section

variable {function : String} {args : List Value}

theorem textArgument_of_text {s : Str} {text : String} (hargs : args.head? = some (.text s))
    (htext : s.toText = .ok text) : textArgument function args = pure text := by
  unfold textArgument
  rw [hargs]
  exact outsideText_of_toText htext

/-- A text with an unpaired surrogate cannot be handed over. -/
theorem textArgument_unpaired {s : Str} {offset : Nat} (hargs : args.head? = some (.text s))
    (htext : s.toText = .error offset) :
    textArgument function args = Eval.raise .type (conversionFailure offset) := by
  unfold textArgument
  rw [hargs]
  show outsideText s = _
  unfold outsideText
  rw [htext]
  rfl

theorem textArgument_missing (h : ∀ s, args.head? ≠ some (.text s)) :
    textArgument function args =
      Eval.raise .type (function ++ ": expected a string argument") := by
  unfold textArgument
  split
  · next s hargs => exact absurd hargs (h s)
  · rfl

end

/-- Without a text a callback that takes one throws at once and asks for nothing. -/
theorem nativeRule_run_of_raise {g : Native} {request : String → Request}
    (hg : g.request? = some request) (ev : Script.Evaluator) (this : Value) {args : List Value}
    {message : String} (hargs : textArgument g.name args = Eval.raise .type message) (h : Heap) :
    ∃ v h', (nativeRule ev g this args).run h = .done (.error (.thrown v), h') ∧
      h'.IsError v .type message := by
  obtain ⟨v, h', hraise, herror⟩ := raise_isError (α := String) .type message h
  rw [← hargs] at hraise
  rw [nativeRule_of_request hg]
  exact ⟨v, h', bind_run_of_error hraise, herror⟩

end Script

/-! ## Nobody in charge -/

namespace Link

variable {p : Port η σ} {w : World η σ} (hw : w.link.slot = none)
include hw

theorem call_detached_then (c : Call) (f : Except HostError String → Act η σ α) :
    (Link.call p c >>= f) w = f (.error .noActiveHost) w := by
  rw [Act.bind_apply]
  unfold Act.bind Link.call
  rw [hw]

theorem print_detached_then (text : String) (f : Except HostError Unit → Act η σ α) :
    (Link.print p text >>= f) w = f (.error .noActiveHost) w := by
  rw [Act.bind_apply]
  unfold Act.bind Link.print
  rw [hw]

end Link

namespace Session

/-! ## How calls end -/

variable {p : Port η σ} {l : Locator} {s s₁ s' : State Heap η σ} {cs ds : List Call}

/-- Carried out from `s`, the evaluation makes these calls and ends in this way. -/
def Ends (p : Port η σ) (l : Locator) (x : Eval α) (s : State Heap η σ) (cs : List Call)
    (e : Exit (Except Abrupt α × Heap)) : Prop :=
  ∃ w, perform p.noting l (x.run s.engine) (s.world.listing []) = (e, World.listing w cs)

/-- The evaluation makes these calls and gives the script what it is to see of an
answer: a text or nothing as a value, a refusal as an error, and a panic as
something thrown, while the panic is kept. -/
def Gives (p : Port η σ) (l : Locator) (x : Eval Value) (s : State Heap η σ) (cs : List Call) :
    Answer → Prop
  | .text text => ∃ s', Goes p l x s cs (.ok (.ofString text)) s'
  | .nothing => ∃ s', Goes p l x s cs (.ok .undefined) s'
  | .refused kind message =>
    ∃ v s', Goes p l x s cs (.error (.thrown v)) s' ∧ s'.engine.IsError v kind message
  | .panicked q => ∃ s', Goes p l x s cs (.error (.thrown .panic)) s' ∧ s'.engine.kept = some q

/-- The evaluation makes these calls and then meets with this from the outside. -/
def Meets (p : Port η σ) (l : Locator) (x : Eval Value) (s : State Heap η σ) (cs : List Call) :
    Exit Answer → Prop
  | .done answer => Gives p l x s cs answer
  | .panicked q => Gives p l x s cs (.panicked q)
  | .terminated => Ends p l x s cs .terminated
  | .killed => Ends p l x s cs .killed
  | .stalled => Ends p l x s cs .stalled

theorem Goes.unique {x : Eval α} {r r' : Except Abrupt α} {cs' : List Call}
    (h : Goes p l x s cs r s₁) (h' : Goes p l x s cs' r' s') : r = r' ∧ s₁ = s' := by
  obtain ⟨hexit, hworld⟩ := Prod.mk.inj (h.symm.trans h')
  obtain ⟨rfl, hheap⟩ := Prod.mk.inj (Exit.done.inj hexit)
  obtain ⟨hworld, -⟩ := World.listing_inj hworld
  obtain ⟨heap, world⟩ := s₁
  obtain ⟨heap', world'⟩ := s'
  cases hheap
  cases hworld
  exact ⟨rfl, rfl⟩

theorem Ends.bind {x : Eval α} {f : α → Eval β} {a : α} {e : Exit (Except Abrupt β × Heap)}
    (hx : Goes p l x s cs (.ok a) s₁) (hf : Ends p l (f a) s₁ ds e) :
    Ends p l (x >>= f) s (cs ++ ds) e := by
  obtain ⟨w, hf⟩ := hf
  -- behind the calls of the first, the second does what it does with an empty list
  obtain ⟨e', w', ds', hfirst, hthen⟩ :=
    (perform_appends p l ((f a).run s₁.engine)).apply s₁.world cs
  obtain ⟨rfl, hworld⟩ := Prod.mk.inj (hfirst.symm.trans hf)
  obtain ⟨rfl, rfl⟩ := World.listing_inj hworld
  refine ⟨w', ?_⟩
  show perform p.noting l ((x.run s.engine).bind _) _ = _
  rw [perform_bind, Act.bind_apply]
  unfold Act.bind
  rw [show perform p.noting l (x.run s.engine) (s.world.listing []) = _ from hx]
  exact hthen

theorem Gives.bind {x : Eval α} {f : α → Eval Value} {a : α} {answer : Answer}
    (hf : Gives p l (f a) s₁ ds answer) (hx : Goes p l x s cs (.ok a) s₁) :
    Gives p l (x >>= f) s (cs ++ ds) answer := by
  have hthen : ∀ {r s'}, Goes p l (f a) s₁ ds r s' → Goes p l (x >>= f) s (cs ++ ds) r s' :=
    fun h => Goes.bind_iff.mpr (.inl ⟨_, _, _, _, hx, h, rfl⟩)
  cases answer with
  | text text =>
      obtain ⟨s', h⟩ := hf
      exact ⟨s', hthen h⟩
  | nothing =>
      obtain ⟨s', h⟩ := hf
      exact ⟨s', hthen h⟩
  | refused kind message =>
      obtain ⟨v, s', h, herror⟩ := hf
      exact ⟨v, s', hthen h, herror⟩
  | panicked q =>
      obtain ⟨s', h, hkept⟩ := hf
      exact ⟨s', hthen h, hkept⟩

theorem Meets.bind {x : Eval α} {f : α → Eval Value} {a : α} {e : Exit Answer}
    (hx : Goes p l x s cs (.ok a) s₁) (hf : Meets p l (f a) s₁ ds e) :
    Meets p l (x >>= f) s (cs ++ ds) e := by
  cases e with
  | done answer => exact Gives.bind hf hx
  | panicked q =>
      have hgives : Gives p l (f a) s₁ ds (.panicked q) := hf
      exact hgives.bind hx
  | terminated => exact Ends.bind hx hf
  | killed => exact Ends.bind hx hf
  | stalled => exact Ends.bind hx hf

/-! ## Requests -/

/-- A callback meets with what serving its request comes to. -/
theorem ask_meets {r : Request} {e : Exit Answer} {w : World η σ}
    (hserve : serve p.noting l r (s.world.listing []) = (e, w.listing cs)) :
    Meets p l (do Script.answered (← Eval.ask r)) s cs e := by
  have hanswer : ∀ {answer r' h'},
      serveSafely p.noting l r (s.world.listing []) = (.done answer, w.listing cs) →
      (Script.answered answer).run { s.engine with kept := answer.keeping s.engine.kept } =
        .done (r', h') →
      Goes p l (do Script.answered (← Eval.ask r)) s cs r' ⟨h', w⟩ := by
    intro answer r' h' hserved hrun
    show perform p.noting l (.ask r _) _ = _
    rw [perform_ask, Act.bind_apply]
    unfold Act.bind
    rw [hserved]
    show perform p.noting l ((Script.answered answer).run _) _ = _
    rw [hrun]
    rfl
  have hbroken : ∀ {b : Exit Empty},
      serveSafely p.noting l r (s.world.listing []) = (b.broken, w.listing cs) →
      Ends p l (do Script.answered (← Eval.ask r)) s cs b.broken := by
    intro b hserved
    refine ⟨w, ?_⟩
    show perform p.noting l (.ask r _) _ = _
    rw [perform_ask, Act.bind_apply]
    unfold Act.bind
    rw [hserved]
    rcases b with ⟨⟨⟩⟩ | _ | _ | _ | _ <;> rfl
  have hsafe := serveSafely_eq (p := p.noting) l r (s.world.listing [])
  rw [hserve] at hsafe
  cases e with
  | done answer =>
      cases answer with
      | text text => exact ⟨_, hanswer hsafe rfl⟩
      | nothing => exact ⟨_, hanswer hsafe rfl⟩
      | refused kind message =>
          obtain ⟨v, h', hraise, herror⟩ := Script.raise_isError kind message s.engine
          exact ⟨v, _, hanswer hsafe hraise, herror⟩
      | panicked q => exact ⟨_, hanswer hsafe rfl, rfl⟩
  | panicked q => exact ⟨_, hanswer hsafe rfl, rfl⟩
  | terminated => exact hbroken (b := .terminated) hsafe
  | killed => exact hbroken (b := .killed) hsafe
  | stalled => exact hbroken (b := .stalled) hsafe

/-! ## Serving a request -/

/-- A host is called once, and then something is made of its answer. -/
theorem calls_host (host : η) {c : Call} {f : Except HostError String → Act η (σ × List Call) β}
    {g : Except HostError String → β}
    (hf : ∀ answer (w : World η σ), ∃ w' : World η σ,
      f answer (w.listing [c]) = (.done (g answer), w'.listing [c])) (w : World η σ) :
    ∃ w' : World η σ, (p.noting host c >>= f) (w.listing []) =
      ((p host c w).1.map g, w'.listing [c]) := by
  have hcall : p.noting host c (w.listing []) = ((p host c w).1, (p host c w).2.listing [c]) := rfl
  rw [Act.bind_apply]
  unfold Act.bind
  rw [hcall]
  generalize p host c w = r
  obtain ⟨e, w'⟩ := r
  cases e with
  | done answer => exact hf answer w'
  | _ => exact ⟨w', rfl⟩

theorem hostFailure_listing (function : String) (e : HostError) (w : World η σ) (cs : List Call) :
    ∃ w' : World η σ, hostFailure function e (w.listing cs) =
      (.done (.refused .internal (function ++ ": " ++ e.message)), w'.listing cs) :=
  ⟨w.noted _, rfl⟩

/-- What a script gets for a command. -/
def commandAnswer : Except HostError String → Answer
  | .ok text => .text text
  | .error e => .refused .internal (Script.hostCommandName ++ ": " ++ e.message)

/-- What a script gets for a script that was not found. -/
def Lookup.refusal (form : Lookup) (e : Bundle.LocateError) : Answer :=
  .refused .type (form.function ++ ": " ++ e.message)

section Attached

variable {host : η} {w : World η σ} (hw : w.link.slot = some host)
include hw

theorem serveCommand_attached (text : String) :
    ∃ w' : World η σ, serveCommand p.noting text (w.listing []) =
      ((p host (.cmd text) (w.noted (commandEvent text))).1.map commandAnswer,
        w'.listing [.cmd text]) := by
  obtain ⟨w', hcall⟩ := calls_host (p := p) host (c := .cmd text)
    (f := fun
      | .ok text => return .text text
      | .error e => hostFailure Script.hostCommandName e) (g := commandAnswer)
    (fun
      | .ok _, w => ⟨w, rfl⟩
      | .error e, w => hostFailure_listing Script.hostCommandName e w _)
    (w.noted (commandEvent text))
  refine ⟨w', ?_⟩
  rw [← hcall]
  exact Link.call_then (w := (w.noted (commandEvent text)).listing []) hw _ _

theorem servePrint_attached (line : String) :
    ∃ w' : World η σ, servePrint p.noting line (w.listing []) =
      ((p host (.print line) w).1.map fun _ => .nothing, w'.listing [.print line]) := by
  obtain ⟨w', hcall⟩ := calls_host (p := p) host (c := .print line)
    (f := fun _ => return Answer.nothing) (g := fun _ => .nothing) (fun _ w => ⟨w, rfl⟩) w
  refine ⟨w', ?_⟩
  rw [← hcall]
  exact Link.print_then (w := w.listing []) hw line _

/-- Where a lookup stands that has failed. -/
def Lookup.failed (form : Lookup) (l : Locator) (name : String) (e : Bundle.LocateError)
    (w : World η σ) : World η σ :=
  (w.notedAll (form.events l name)).noted (form.failedEvent name e)

theorem serveLookup_attached {form : Lookup} {name : String} {e : Bundle.LocateError}
    (hfind : form.find l name = .error e) :
    ∃ w' : World η σ, serveLookup p.noting l form name (w.listing []) =
      ((p host (.print (form.diagnostic name)) (form.failed l name e w)).1.map fun _ =>
        form.refusal e, w'.listing [.print (form.diagnostic name)]) := by
  obtain ⟨w', hcall⟩ := calls_host (p := p) host (c := .print (form.diagnostic name))
    (f := fun _ => return form.refusal e) (g := fun _ => form.refusal e) (fun _ w => ⟨w, rfl⟩)
    (form.failed l name e w)
  refine ⟨w', ?_⟩
  rw [← hcall]
  unfold serveLookup
  rw [hfind]
  exact Link.print_then (w := (form.failed l name e w).listing []) hw _ _

end Attached

section Detached

variable {w : World η σ} (hw : w.link.slot = none)
include hw

/-! Without a host in charge nothing but the log is touched. -/

theorem serveCommand_detached (text : String) :
    ∃ log, serveCommand p text w =
      (.done (commandAnswer (.error .noActiveHost)), { w with log := log }) :=
  ⟨_, Link.call_detached_then (w := w.noted (commandEvent text)) hw _ _⟩

theorem servePrint_detached (line : String) :
    ∃ log, servePrint p line w =
      (.done (.refused .internal (Script.consoleName ++ ": " ++ HostError.noActiveHost.message)),
        { w with log := log }) :=
  ⟨_, Link.print_detached_then hw _ _⟩

theorem serveLookup_detached {form : Lookup} {name : String} {e : Bundle.LocateError}
    (hfind : form.find l name = .error e) :
    ∃ log, serveLookup p l form name w = (.done (form.refusal e), { w with log := log }) := by
  unfold serveLookup
  rw [hfind]
  exact ⟨_, Link.print_detached_then (w := form.failed l name e w) hw _ _⟩

end Detached

theorem serveLookup_found {form : Lookup} {name text : String} (hfind : form.find l name = .ok text)
    (w : World η σ) :
    ∃ log, serveLookup p l form name w = (.done (.text text), { w with log := log }) := by
  unfold serveLookup
  rw [hfind]
  exact ⟨_, rfl⟩

theorem serve_detached {w : World η σ} (hw : w.link.slot = none) (r : Request) :
    ∃ answer log, serve p l r w = (.done answer, { w with log := log }) := by
  have hlookup : ∀ form name,
      ∃ answer log, serveLookup p l form name w = (.done answer, { w with log := log }) := by
    intro form name
    cases hfind : form.find l name with
    | ok text => exact ⟨_, serveLookup_found hfind w⟩
    | error e => exact ⟨_, serveLookup_detached hw hfind⟩
  cases r with
  | command text => exact ⟨_, serveCommand_detached hw text⟩
  | load name => exact hlookup .file name
  | require name => exact hlookup .module name
  | print line => exact ⟨_, servePrint_detached hw line⟩

theorem perform_detached (x : Run α) {w : World η σ} (hw : w.link.slot = none) :
    ∃ log, (perform p l x w).2 = { w with log := log } := by
  induction x generalizing w with
  | done a => exact ⟨w.log, rfl⟩
  | stalled => exact ⟨w.log, rfl⟩
  | ask r resume ih =>
      obtain ⟨answer, log, hserve⟩ := serve_detached (p := p) (l := l) hw r
      have hsafe := serveSafely_eq (p := p) l r w
      rw [hserve] at hsafe
      obtain ⟨log', hlast⟩ := ih answer (w := { w with log := log }) hw
      rw [perform_ask, Act.bind_apply]
      unfold Act.bind
      rw [hsafe]
      exact ⟨log', hlast⟩

/-- Evaluations leave the host that is in charge there. -/
theorem Goes.slot (hp : p.Steady) {x : Eval α} {r : Except Abrupt α} (h : Goes p l x s cs r s') :
    s'.world.link.slot = s.world.link.slot := by
  cases hslot : s.world.link.slot with
  | some host =>
      have hsteady : Act.Steady (perform p.noting l (x.run s.engine)) := .of_coupled fun hl =>
        perform_coupled ((Port.noting_steady hp).coupled hl) l (x.run s.engine)
      exact Act.Makes.slot hsteady h hslot
  | none =>
      obtain ⟨log, hlast⟩ := perform_detached (p := p.noting) (l := l) (x.run s.engine)
        (w := s.world.listing []) hslot
      rw [show perform p.noting l (x.run s.engine) (s.world.listing []) = _ from h] at hlast
      exact (congrArg (fun w : World η (σ × List Call) => w.link.slot) hlast).trans hslot

/-- Nobody is called if nobody is in charge. -/
theorem Goes.calls_of_detached {x : Eval α} {r : Except Abrupt α} (h : Goes p l x s cs r s')
    (hslot : s.world.link.slot = none) : cs = [] := by
  obtain ⟨log, hlast⟩ := perform_detached (p := p.noting) (l := l) (x.run s.engine)
    (w := s.world.listing []) hslot
  rw [show perform p.noting l (x.run s.engine) (s.world.listing []) = _ from h] at hlast
  exact congrArg (fun w : World η (σ × List Call) => w.host.2) hlast

/-! ## Callbacks that take a text -/

/-- The function that scripts call for a lookup. -/
def Lookup.native : Lookup → Native
  | .file => .load
  | .module => .require

section Taking

variable {ev : Script.Evaluator} {this : Value} {args : List Value} {str : Str} {text : String}
  (hargs : args.head? = some (.text str)) (htext : str.toText = .ok text)
include hargs htext

theorem nativeRule_meets {g : Native} {request : String → Request} (hg : g.request? = some request)
    {e : Exit Answer} {w : World η σ}
    (hserve : serve p.noting l (request text) (s.world.listing []) = (e, w.listing cs)) :
    Meets p l (Script.nativeRule ev g this args) s cs e := by
  rw [Script.nativeRule_of_request hg, Script.textArgument_of_text hargs htext]
  exact ask_meets hserve

theorem command_meets {host : η} (hslot : s.world.link.slot = some host) :
    Meets p l (Script.nativeRule ev .command this args) s [.cmd text]
      ((p host (.cmd text) (s.world.noted (commandEvent text))).1.map commandAnswer) := by
  obtain ⟨w, hserve⟩ := serveCommand_attached (p := p) hslot text
  exact nativeRule_meets hargs htext (g := .command) rfl hserve

theorem command_detached (hslot : s.world.link.slot = none) :
    Gives p l (Script.nativeRule ev .command this args) s []
      (commandAnswer (.error .noActiveHost)) := by
  obtain ⟨log, hserve⟩ := serveCommand_detached (p := p.noting) (w := s.world.listing []) hslot text
  exact nativeRule_meets hargs htext (g := .command) (w := { s.world with log }) rfl hserve

theorem lookup_meets (form : Lookup) {e : Exit Answer} {w : World η σ}
    (hserve : serveLookup p.noting l form text (s.world.listing []) = (e, w.listing cs)) :
    Meets p l (Script.nativeRule ev form.native this args) s cs e := by
  cases form with
  | file => exact nativeRule_meets hargs htext (g := .load) rfl hserve
  | module => exact nativeRule_meets hargs htext (g := .require) rfl hserve

theorem lookup_found (form : Lookup) {content : String} (hfind : form.find l text = .ok content) :
    Gives p l (Script.nativeRule ev form.native this args) s [] (.text content) := by
  obtain ⟨log, hserve⟩ := serveLookup_found (p := p.noting) hfind (s.world.listing [])
  exact lookup_meets hargs htext form (w := { s.world with log }) hserve

theorem lookup_failed (form : Lookup) {e : Bundle.LocateError} (hfind : form.find l text = .error e)
    {host : η} (hslot : s.world.link.slot = some host) :
    Meets p l (Script.nativeRule ev form.native this args) s [.print (form.diagnostic text)]
      ((p host (.print (form.diagnostic text)) (form.failed l text e s.world)).1.map fun _ =>
        form.refusal e) := by
  obtain ⟨w, hserve⟩ := serveLookup_attached (p := p) hslot hfind
  exact lookup_meets hargs htext form hserve

theorem lookup_detached (form : Lookup) {e : Bundle.LocateError}
    (hfind : form.find l text = .error e) (hslot : s.world.link.slot = none) :
    Gives p l (Script.nativeRule ev form.native this args) s [] (form.refusal e) := by
  obtain ⟨log, hserve⟩ :=
    serveLookup_detached (p := p.noting) (w := s.world.listing []) hslot hfind
  exact lookup_meets hargs htext form (w := { s.world with log }) hserve

end Taking

/-! ## The console -/

/-- These are the texts of the values, made from left to right. -/
inductive Coerces (p : Port η σ) (l : Locator) (ev : Script.Evaluator) :
    List Value → State Heap η σ → List Call → List String → State Heap η σ → Prop
  | nil {s : State Heap η σ} : Coerces p l ev [] s [] [] s
  | cons {v rest s cs str part s₁ ds parts s₂}
      (htext : Goes p l (Script.toText ev v) s cs (.ok str) s₁)
      (hpart : str.toText = .ok part) (hrest : Coerces p l ev rest s₁ ds parts s₂) :
      Coerces p l ev (v :: rest) s (cs ++ ds) (part :: parts) s₂

/-- One of the values has no text, or none that can be handed to the outside. -/
inductive Refuses (p : Port η σ) (l : Locator) (ev : Script.Evaluator) :
    List Value → State Heap η σ → List Call → Abrupt → State Heap η σ → Prop
  | abrupt {v rest s cs e s₁} (htext : Goes p l (Script.toText ev v) s cs (.error e) s₁) :
      Refuses p l ev (v :: rest) s cs (if s₁.engine.kept.isSome then .thrown .panic else e) s₁
  | unpaired {v rest s cs str s₁ e s₂} (htext : Goes p l (Script.toText ev v) s cs (.ok str) s₁)
      (hpart : Goes p l (Script.outsideText str) s₁ [] (.error e) s₂) :
      Refuses p l ev (v :: rest) s cs e s₂
  | later {v rest s cs str part s₁ ds e s₂}
      (htext : Goes p l (Script.toText ev v) s cs (.ok str) s₁)
      (hpart : str.toText = .ok part) (hrest : Refuses p l ev rest s₁ ds e s₂) :
      Refuses p l ev (v :: rest) s (cs ++ ds) e s₂

/-- On behalf of the outside an exception is a panic again while one is kept. -/
theorem goes_crossing {x : Eval α} {r : Except Abrupt α} :
    Goes p l (Script.crossing x) s cs r s' ↔
      (∃ a, r = .ok a ∧ Goes p l x s cs (.ok a) s') ∨
      ∃ e, r = .error (if s'.engine.kept.isSome then .thrown .panic else e) ∧
        Goes p l x s cs (.error e) s' := by
  let rethrow (e : Abrupt) : Eval α :=
    Eval.inspect (fun h => h.kept.isSome) >>= fun kept =>
      if kept then Eval.throw .panic else Eval.abrupt e
  have hrun : ∀ e h, (rethrow e).run h =
      .done (.error (if h.kept.isSome then .thrown .panic else e), h) := by
    intro e h
    show (if h.kept.isSome then Eval.throw .panic else Eval.abrupt e : Eval α).run h = _
    split <;> rfl
  unfold Script.crossing
  rw [Goes.bind_iff]
  constructor
  · rintro (⟨cs₁, r', s₁, cs₂, hattempt, hthen, rfl⟩ | ⟨e, -, hattempt⟩)
    · obtain ⟨_, heq, hx⟩ := goes_attempt.mp hattempt
      cases heq
      cases r' with
      | ok a =>
          obtain ⟨rfl, rfl, rfl⟩ := goes_pure.mp hthen
          rw [List.append_nil]
          exact .inl ⟨a, rfl, hx⟩
      | error e =>
          obtain ⟨rfl, rfl, rfl⟩ := (Goes.of_run (hrun e s₁.engine)).mp hthen
          rw [List.append_nil]
          exact .inr ⟨e, rfl, hx⟩
    · obtain ⟨_, heq, -⟩ := goes_attempt.mp hattempt
      nomatch heq
  · rintro (⟨a, rfl, hx⟩ | ⟨e, rfl, hx⟩)
    · exact .inl ⟨cs, .ok a, s', [], goes_attempt.mpr ⟨_, rfl, hx⟩,
        goes_pure.mpr ⟨rfl, rfl, rfl⟩, (List.append_nil cs).symm⟩
    · exact .inl ⟨cs, .error e, s', [], goes_attempt.mpr ⟨_, rfl, hx⟩,
        (Goes.of_run (hrun e s'.engine)).mpr ⟨rfl, rfl, rfl⟩, (List.append_nil cs).symm⟩

theorem goes_outsideText {str : Str} {r : Except Abrupt String}
    (h : Goes p l (Script.outsideText str) s cs r s') :
    cs = [] ∧ ((∃ part, str.toText = .ok part ∧ r = .ok part ∧ s' = s) ∨ ∃ e, r = .error e) := by
  unfold Script.outsideText at h
  cases htext : str.toText with
  | ok part =>
      rw [htext] at h
      obtain ⟨rfl, rfl, rfl⟩ := goes_pure.mp h
      exact ⟨rfl, .inl ⟨part, rfl, rfl, rfl⟩⟩
  | error offset =>
      rw [htext] at h
      obtain ⟨v, h', hraise⟩ := raise_run (α := String) .type _ s.engine
      obtain ⟨rfl, rfl, rfl⟩ := (Goes.of_run hraise).mp h
      exact ⟨rfl, .inr ⟨_, rfl⟩⟩

section Coercing

variable {ev : Script.Evaluator} {v : Value} {rest args : List Value} {str : Str}
  {r : Except Abrupt (List String)}

theorem goes_first (htext : Goes p l (Script.toText ev v) s cs (.ok str) s₁)
    (hthen : Goes p l
      (do
        let part ← Script.outsideText str
        return part :: (← Script.consoleParts ev rest))
      s₁ ds r s') :
    Goes p l (Script.consoleParts ev (v :: rest)) s (cs ++ ds) r s' :=
  Goes.bind_iff.mpr (.inl ⟨_, _, _, _, goes_crossing.mpr (.inl ⟨_, rfl, htext⟩), hthen, rfl⟩)

theorem goes_later {part : String} (htext : Goes p l (Script.toText ev v) s cs (.ok str) s₁)
    (hpart : str.toText = .ok part)
    (hrest : Goes p l (do return part :: (← Script.consoleParts ev rest)) s₁ ds r s') :
    Goes p l (Script.consoleParts ev (v :: rest)) s (cs ++ ds) r s' := by
  refine goes_first htext ?_
  rw [Script.outsideText_of_toText hpart]
  exact hrest

theorem Coerces.goes {parts : List String} (h : Coerces p l ev args s cs parts s') :
    Goes p l (Script.consoleParts ev args) s cs (.ok parts) s' := by
  induction h with
  | nil => exact goes_pure.mpr ⟨rfl, rfl, rfl⟩
  | cons htext hpart _ ih =>
      exact goes_later htext hpart (Goes.bind_iff.mpr (.inl
        ⟨_, _, _, [], ih, goes_pure.mpr ⟨rfl, rfl, rfl⟩, (List.append_nil _).symm⟩))

theorem Refuses.goes {e : Abrupt} (h : Refuses p l ev args s cs e s') :
    Goes p l (Script.consoleParts ev args) s cs (.error e) s' := by
  induction h with
  | abrupt htext =>
      exact Goes.bind_iff.mpr (.inr ⟨_, rfl, goes_crossing.mpr (.inr ⟨_, rfl, htext⟩)⟩)
  | @unpaired _ _ _ cs _ _ _ _ htext hpart =>
      rw [← List.append_nil cs]
      exact goes_first htext (Goes.bind_iff.mpr (.inr ⟨_, rfl, hpart⟩))
  | later htext hpart _ ih =>
      exact goes_later htext hpart (Goes.bind_iff.mpr (.inr ⟨_, rfl, ih⟩))

/-- Values that are coerced either all have a text or there is one that has none. -/
theorem coerces_or_refuses (h : Goes p l (Script.consoleParts ev args) s cs r s') :
    (∃ parts, r = .ok parts ∧ Coerces p l ev args s cs parts s') ∨
      ∃ e, r = .error e ∧ Refuses p l ev args s cs e s' := by
  induction args generalizing s cs r with
  | nil =>
      obtain ⟨rfl, rfl, rfl⟩ := goes_pure.mp h
      exact .inl ⟨[], rfl, .nil⟩
  | cons v rest ih =>
      unfold Script.consoleParts at h
      obtain ⟨cs₁, str, s₁, cs₂, hcross, hthen, rfl⟩ | ⟨e, rfl, hcross⟩ := Goes.bind_iff.mp h
      · obtain ⟨_, heq, htext⟩ | ⟨_, heq, -⟩ := goes_crossing.mp hcross
        all_goals cases heq
        obtain ⟨cs₃, part, s₂, cs₄, hout, hrest, rfl⟩ | ⟨e, rfl, hout⟩ := Goes.bind_iff.mp hthen
        · obtain ⟨rfl, ⟨_, hpart, heq, rfl⟩ | ⟨_, heq⟩⟩ := goes_outsideText hout
          all_goals cases heq
          obtain ⟨cs₅, parts, s₃, cs₆, hparts, hlast, rfl⟩ | ⟨e, rfl, hparts⟩ :=
            Goes.bind_iff.mp hrest
          · obtain ⟨rfl, rfl, rfl⟩ := goes_pure.mp hlast
            obtain ⟨_, heq, hcoerces⟩ | ⟨_, heq, -⟩ := ih hparts
            all_goals cases heq
            rw [List.append_nil]
            exact .inl ⟨part :: parts, rfl, .cons htext hpart hcoerces⟩
          · obtain ⟨_, heq, -⟩ | ⟨_, heq, hrefuses⟩ := ih hparts
            all_goals cases heq
            exact .inr ⟨e, rfl, .later htext hpart hrefuses⟩
        · obtain ⟨rfl, -⟩ := goes_outsideText hout
          rw [List.append_nil]
          exact .inr ⟨e, rfl, .unpaired htext hout⟩
      · obtain ⟨_, heq, -⟩ | ⟨e', heq, htext⟩ := goes_crossing.mp hcross
        all_goals cases heq
        exact .inr ⟨_, rfl, .abrupt htext⟩

end Coercing

section Console

variable {ev : Script.Evaluator} {this : Value} {args : List Value} {parts : List String}
  {method : String}

theorem console_serves (hcoerces : Coerces p l ev args s cs parts s₁) {e : Exit Answer}
    {w : World η σ} (hserve : servePrint p.noting (Script.consoleLine parts) (s₁.world.listing []) =
      (e, w.listing ds)) :
    Meets p l (Script.nativeRule ev (.console method) this args) s (cs ++ ds) e :=
  Meets.bind (f := fun parts => do
      Script.answered (← Eval.ask (.print (Script.consoleLine parts))))
    hcoerces.goes
    (ask_meets (r := .print (Script.consoleLine parts)) hserve)

theorem console_meets (hcoerces : Coerces p l ev args s cs parts s₁) {host : η}
    (hslot : s₁.world.link.slot = some host) :
    Meets p l (Script.nativeRule ev (.console method) this args) s
      (cs ++ [.print (Script.consoleLine parts)])
      ((p host (.print (Script.consoleLine parts)) s₁.world).1.map fun _ => .nothing) := by
  obtain ⟨w, hserve⟩ := servePrint_attached (p := p) hslot (Script.consoleLine parts)
  exact console_serves hcoerces hserve

theorem console_detached (hcoerces : Coerces p l ev args s cs parts s₁)
    (hslot : s₁.world.link.slot = none) :
    Gives p l (Script.nativeRule ev (.console method) this args) s (cs ++ [])
      (.refused .internal (Script.consoleName ++ ": " ++ HostError.noActiveHost.message)) := by
  obtain ⟨log, hserve⟩ := servePrint_detached (p := p.noting) (w := s₁.world.listing []) hslot
    (Script.consoleLine parts)
  exact console_serves hcoerces (w := { s₁.world with log }) hserve

theorem console_refuses {e : Abrupt} (hrefuses : Refuses p l ev args s cs e s₁) :
    Goes p l (Script.nativeRule ev (.console method) this args) s cs (.error e) s₁ :=
  Goes.bind_iff.mpr (.inr ⟨e, rfl, hrefuses.goes⟩)

/-- A method that comes back has coerced its arguments, or one of them refused. -/
theorem console_coerces {r : Except Abrupt Value}
    (h : Goes p l (Script.nativeRule ev (.console method) this args) s cs r s') :
    (∃ cs₁ parts s₁, Coerces p l ev args s cs₁ parts s₁) ∨
      ∃ e, r = .error e ∧ Refuses p l ev args s cs e s' := by
  obtain ⟨cs₁, parts, s₁, _, hparts, -, -⟩ | ⟨e, rfl, hparts⟩ := Goes.bind_iff.mp h
  · obtain ⟨_, -, hcoerces⟩ | ⟨_, heq, -⟩ := coerces_or_refuses hparts
    · exact .inl ⟨cs₁, _, s₁, hcoerces⟩
    · nomatch heq
  · obtain ⟨_, heq, -⟩ | ⟨_, heq, hrefuses⟩ := coerces_or_refuses hparts
    all_goals cases heq
    exact .inr ⟨e, rfl, hrefuses⟩

end Console

/-- Hosts do not look at the log. -/
theorem port_exit_of_log (d : Dispatcher)
    (roster : Host.Roster η σ (Dispatcher.Line η) Dispatcher.Verdict) (host : η) (c : Call)
    (w : World η σ) (log : Array Log.Event) :
    (d.port roster host c { w with log }).1 = (d.port roster host c w).1 := by
  have hseen : Port.Coupled (.seen η Eq w.trap w.trap) (d.port roster) (d.port roster) :=
    Dispatcher.port_seen ⟨rfl, rfl⟩ d fun host c s _ hs => hs ▸ .refl (roster host c s)
  exact (hseen host c { w with log } w ⟨rfl, rfl, rfl, [], rfl, rfl⟩).1

/-- A symbol has no text. -/
theorem refuses_symbol (ev : Script.Evaluator) (id : Nat) (label : String) (rest : List Value)
    (hfree : s.engine.kept = none) :
    ∃ v s', Refuses p l ev (.symbol id label :: rest) s [] (.thrown v) s' ∧
      s'.engine.IsError v .type "cannot convert symbol to string" := by
  obtain ⟨v, h, hraise, herror⟩ :=
    Script.raise_isError (α := Str) .type "cannot convert symbol to string" s.engine
  have htext : Goes p l (Script.toText ev (.symbol id label)) s [] (.error (.thrown v))
      ⟨h, s.world⟩ := (Goes.of_run hraise).mpr ⟨rfl, rfl, rfl⟩
  have hkept : h.kept = none := by
    have hkeeps :=
      (Eval.raise .type "cannot convert symbol to string" : Eval Str).keeps s.engine
    rw [hraise] at hkeeps
    exact hkeeps.trans hfree
  have hrefuses : Refuses p l ev (.symbol id label :: rest) s [] _ ⟨h, s.world⟩ := .abrupt htext
  rw [hkept] at hrefuses
  exact ⟨v, _, hrefuses, herror⟩

theorem installed_kept : Heap.kept installed = none :=
  (Script.withCallbacks_kept _).trans (Script.newHeap_kept _ _)

/-- What callbacks do outside of the engine, whoever is in charge, and how they end.

A callback that takes a text throws a type error and asks for nothing if it is
given none. A command reaches the host as it is, and what the host answers is what
the script gets. A loader issues no command: it gives the text of the file, or the
host prints one line about the file and a type error is thrown. A method of the
console coerces its arguments, which may make calls of its own, and has the host
print them on a line. Nothing is printed and no command issued if nobody is in
charge; then a command and a method of the console throw an internal error, and a
loader does not miss the line. A method of the console that comes back has coerced all
of its arguments, or one of them refused and it threw before it looked for a host. -/
theorem callback_effects (d : Dispatcher)
    (roster : Host.Roster η σ (Dispatcher.Line η) Dispatcher.Verdict) (l : Locator)
    (ev : Script.Evaluator) (this : Value) (args : List Value) (s : State Heap η σ) :
    let p := d.port roster
    let call := fun g => Script.nativeRule ev g this args
    (∀ g request, g.request? = some request → (∀ str, args.head? ≠ some (.text str)) →
      ∃ v h, (call g).run s.engine = .done (.error (.thrown v), h) ∧
        h.IsError v .type (g.name ++ ": expected a string argument")) ∧
    (∀ str text, args.head? = some (.text str) → str.toText = .ok text →
      (match s.world.link.slot with
        | none => Gives p l (call .command) s []
            (.refused .internal ("r2cmd: " ++ HostError.noActiveHost.message))
        | some host => Meets p l (call .command) s [.cmd text]
            ((p host (.cmd text) s.world).1.map fun
              | .ok reply => .text reply
              | .error e => .refused .internal ("r2cmd: " ++ e.message))) ∧
      ∀ form : Lookup,
        match form.find l text, s.world.link.slot with
        | .ok content, _ => Gives p l (call form.native) s [] (.text content)
        | .error e, none => Gives p l (call form.native) s []
            (.refused .type (form.function ++ ": " ++ e.message))
        | .error e, some host => Meets p l (call form.native) s [.print (form.diagnostic text)]
            ((p host (.print (form.diagnostic text)) s.world).1.map fun _ =>
              .refused .type (form.function ++ ": " ++ e.message))) ∧
    (∀ g request str offset, g.request? = some request → args.head? = some (.text str) →
      str.toText = .error offset → ∃ v h, (call g).run s.engine = .done (.error (.thrown v), h) ∧
        h.IsError v .type (Script.conversionFailure offset)) ∧
    (∀ method parts cs s₁, Coerces p l ev args s cs parts s₁ →
      match s.world.link.slot with
      | none => cs = [] ∧ Gives p l (call (.console method)) s []
          (.refused .internal ("console: " ++ HostError.noActiveHost.message))
      | some host => Meets p l (call (.console method)) s
          (cs ++ [.print (" ".intercalate parts ++ "\n")])
          ((p host (.print (" ".intercalate parts ++ "\n")) s₁.world).1.map fun _ => .nothing)) ∧
    (∀ method e cs s₁, Refuses p l ev args s cs e s₁ →
      Goes p l (call (.console method)) s cs (.error e) s₁) ∧
    ∀ method cs r s', Goes p l (call (.console method)) s cs r s' →
      (∃ cs₁ parts s₁, Coerces p l ev args s cs₁ parts s₁) ∨
        ∃ e, r = .error e ∧ Refuses p l ev args s cs e s' := by
  intro p call
  have hp : p.Steady := (d.port_alike_busy roster).left
  refine ⟨fun g request hg hargs => Script.nativeRule_run_of_raise hg ev this
      (Script.textArgument_missing hargs) s.engine, fun str text hargs htext => ⟨?_, fun form => ?_⟩,
    fun g request str offset hg hargs htext => Script.nativeRule_run_of_raise hg ev this
      (Script.textArgument_unpaired hargs htext) s.engine, fun method parts cs s₁ hcoerces => ?_,
    fun method e cs s₁ => console_refuses, fun method cs r s' => console_coerces⟩
  · cases hslot : s.world.link.slot with
    | none => exact command_detached hargs htext hslot
    | some host =>
        show Meets p l _ s _ ((d.port roster host (.cmd text) s.world).1.map _)
        rw [← port_exit_of_log d roster host (.cmd text) s.world
          (s.world.noted (commandEvent text)).log]
        exact command_meets hargs htext hslot
  · cases hfind : form.find l text with
    | ok content => exact lookup_found hargs htext form hfind
    | error e =>
        cases hslot : s.world.link.slot with
        | none => exact lookup_detached hargs htext form hfind hslot
        | some host =>
            show Meets p l _ s _ ((d.port roster host (.print _) s.world).1.map _)
            rw [← port_exit_of_log d roster host (.print _) s.world
              (form.failed l text e s.world).log]
            exact lookup_failed hargs htext form hfind hslot
  · have hgoes := hcoerces.goes
    cases hslot : s.world.link.slot with
    | none =>
        obtain rfl := hgoes.calls_of_detached hslot
        exact ⟨rfl, console_detached hcoerces ((hgoes.slot hp).trans hslot)⟩
    | some host => exact console_meets hcoerces ((hgoes.slot hp).trans hslot)

/-- Callbacks with a host in charge that answers every call. -/
theorem callback_effects_attentive :
    let s : State Heap Unit Unit := ⟨installed, Link.attachedWorld () idle⟩
    let l := scripted ""
    let call := fun g args => Script.nativeRule Script.evaluator g .undefined args
    (∃ v h, (call .command [.bool true]).run s.engine = .done (.error (.thrown v), h) ∧
      h.IsError v .type "r2cmd: expected a string argument") ∧
    Gives attentivePort l (call .command [.ofString "pd"]) s [.cmd "pd"] (.text "") ∧
    (∃ v h, (call .load [.text ⟨1, .flat [0xd800]⟩]).run s.engine = .done (.error (.thrown v), h) ∧
      h.IsError v .type (Script.conversionFailure 0)) ∧
    Gives attentivePort l (call (.console "log") [.ofString "a", .bool true]) s
      [.print "a true\n"] .nothing ∧
    ∃ v s', Goes attentivePort l (call (.console "log") [.symbol 0 "s"]) s []
      (.error (.thrown v)) s' := by
  intro s l call
  have heffects := fun args => callback_effects roomyDispatcher attentive l
    Script.evaluator .undefined args s
  have htext : ∀ str : Str, Goes attentivePort l (pure str) s [] (.ok str) s :=
    fun str => goes_pure.mpr ⟨rfl, rfl, rfl⟩
  have hlast : Coerces attentivePort l Script.evaluator [.bool true] s ([] ++ []) ["true"] s :=
    .cons (htext (.ofString "true")) (Str.toText_ofString _) .nil
  have hcoerces : Coerces attentivePort l Script.evaluator [.ofString "a", .bool true] s
      ([] ++ []) ["a", "true"] s :=
    .cons (htext (.ofString "a")) (Str.toText_ofString _) hlast
  obtain ⟨v, s', hrefuses, -⟩ := refuses_symbol (p := attentivePort) (l := l)
    Script.evaluator (s := s) 0 "s" [] installed_kept
  refine ⟨?_, ?_, ?_, ?_, v, s', ?_⟩
  · exact (heffects [.bool true]).1 .command _ rfl nofun
  · exact ((heffects [.ofString "pd"]).2.1 _ "pd" rfl (Str.toText_ofString _)).1
  · refine (heffects _).2.2.1 .load _ _ 0 rfl rfl ?_
    unfold Str.toText Str.units
    rw [Script.Rope.layOut, Script.Rope.layOut]
    rfl
  · exact (heffects _).2.2.2.1 "log" _ _ _ hcoerces
  · exact (heffects _).2.2.2.2.1 "log" _ _ _ hrefuses

/-- The console says that a symbol has no text before it notices that nobody is in
charge. -/
theorem console_symbol_detached :
    let s : State Heap Unit Unit := ⟨installed, idle⟩
    let call := Script.nativeRule Script.evaluator (.console "log") .undefined [.symbol 0 "s"]
    s.world.link.slot = none ∧
      (∃ v s', Goes attentivePort (scripted "") call s [] (.error (.thrown v)) s' ∧
        s'.engine.IsError v .type "cannot convert symbol to string") ∧
      ∀ cs message, ¬Gives attentivePort (scripted "") call s cs (.refused .internal message) := by
  intro s call
  obtain ⟨v, s', hrefuses, herror⟩ := refuses_symbol (p := attentivePort) (l := scripted "")
    Script.evaluator (s := s) 0 "s" [] installed_kept
  have hgoes : Goes attentivePort (scripted "") call s [] (.error (.thrown v)) s' :=
    console_refuses hrefuses
  refine ⟨rfl, ⟨v, _, hgoes, herror⟩, ?_⟩
  rintro cs message ⟨v', _, hgoes', herror'⟩
  obtain ⟨heq, rfl⟩ := hgoes.unique hgoes'
  cases heq
  nomatch herror.kind_eq herror'

end Session

end DecBridge
