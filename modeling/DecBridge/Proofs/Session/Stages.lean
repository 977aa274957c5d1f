import DecBridge.Proofs.Session.Evaluations

/-!
# The stages of a session

A session evaluates the bootstrap script, then the entry script, and then enters
the entry point. `Evaluates` and `Enters` say what such a stage does: the calls
it makes of the host, the state it leaves to the next stage, and for the last one
the outcome of the session. They are put together from operations of the engine
(`Crosses`) and from texts that the session prints, and each is equivalent to the
function of the session that carries the stage out (`evaluate_makes_iff`,
`callEntryPoint_makes_iff`).

All operations of the engine are followed up in the same way: a failure is put
into words (`Words`) and reported, and otherwise the stage goes on
(`crossing_then_iff`). Putting an exception into words takes operations of the
engine again, and whatever they do, the words are found; a panic of the host that
is kept meanwhile waits on.
-/

namespace DecBridge

open DecBridge.Bundle (Locator)

open Host (Call)

variable {η σ α β : Type}

def World.noted (w : World η σ) (e : Log.Event) : World η σ := { w with log := w.log.push e }

def World.notedAll (w : World η σ) (es : List Log.Event) : World η σ :=
  { w with log := w.log ++ es.toArray }

theorem Act.makes_note_then {e : Log.Event} {f : Unit → Act η (σ × List Call) α}
    {w w' : World η σ} {cs : List Call} {a : α} :
    (Act.note e >>= f).Makes w cs a w' ↔ (f ()).Makes (w.noted e) cs a w' :=
  Iff.rfl

theorem Act.makes_notes_then {es : List Log.Event} {f : Unit → Act η (σ × List Call) α}
    {w w' : World η σ} {cs : List Call} {a : α} :
    (Act.notes es >>= f).Makes w cs a w' ↔ (f ()).Makes (w.notedAll es) cs a w' :=
  Iff.rfl

namespace Session

open Engine (Failure Outcome)

variable {E : Engine} {p : Port η σ} {l : Locator} {s s' : State E.State η σ} {cs : List Call}

/-! ## Texts of the session -/

/-- The host takes a text. -/
def Prints (p : Port η σ) (host : η) (text : String) (w w' : World η σ) : Prop :=
  ∃ answer, p host (.print text) w = (.done answer, w')

/-- The exception of a stage is logged, and the host takes what is said of it. -/
def Reported (p : Port η σ) (host : η) (stage message : String) (w w' : World η σ) : Prop :=
  Prints p host (exceptionReport message) (w.noted (exceptionEvent stage message)) w'

theorem print_makes_iff {host : η} {text : String} {w w' : World η σ}
    (hw : w.link.slot = some host) {u : Unit} :
    (print p.noting text).Makes w cs u w' ↔ Prints p host text w w' ∧ cs = [.print text] := by
  have hprint : print p.noting text (w.listing []) =
      (p.noting host (.print text) >>= fun _ => pure ()) (w.listing []) :=
    Link.print_then (w := w.listing []) hw text _
  unfold Act.Makes Prints
  rw [hprint]
  show Act.bind _ _ _ = _ ↔ _
  unfold Act.bind Port.noting World.listing
  dsimp only
  obtain ⟨e, v⟩ := p host (.print text) w
  cases e with
  | done answer =>
      constructor
      · intro h
        obtain ⟨rfl, rfl⟩ := World.listing_inj (Prod.mk.inj h).2
        exact ⟨⟨answer, rfl⟩, rfl⟩
      · rintro ⟨⟨_, heq⟩, rfl⟩
        cases heq
        rfl
  | panicked q => simp
  | terminated => simp
  | killed => simp
  | stalled => simp

theorem report_makes_iff {host : η} {stage message : String} {w w' : World η σ}
    (hw : w.link.slot = some host) {u : Unit} :
    (reportException p.noting stage message).Makes w cs u w' ↔
      Reported p host stage message w w' ∧ cs = [.print (exceptionReport message)] :=
  print_makes_iff (w := w.noted (exceptionEvent stage message)) hw

theorem report_appends (stage message : String) :
    (reportException p.noting stage message).Appends :=
  fun ds => reportException_coupled (p.noting_shifted ds) stage message

/-- A report ends a stage, whatever the stage then leaves. -/
theorem report_then_makes_iff {host : η} {stage message : String} {w w' : World η σ} {a b : α}
    (hw : w.link.slot = some host) :
    (reportException p.noting stage message >>= fun _ => pure a).Makes w cs b w' ↔
      b = a ∧ Reported p host stage message w w' ∧ cs = [.print (exceptionReport message)] := by
  rw [Act.Makes.map_iff (report_appends stage message)]
  constructor
  · rintro ⟨_, rfl, hreport⟩
    exact ⟨rfl, (report_makes_iff hw).mp hreport⟩
  · rintro ⟨rfl, hreport⟩
    exact ⟨(), rfl, (report_makes_iff hw).mpr hreport⟩

/-! ## Failures in words -/

/-- A part of an error is read; there is no text if reading it fails. -/
inductive Reads (E : Engine) (p : Port η σ) (l : Locator) (v : E.Value) (key : String)
    (s : State E.State η σ) : List Call → Option String → State E.State η σ → Prop
  | found {cs text s'} (hread : Crosses E p l (E.read v key) s cs (.ok text) s') :
      Reads E p l v key s cs text s'
  | failed {cs f s'} (hread : Crosses E p l (E.read v key) s cs (.error f) s') :
      Reads E p l v key s cs none s'

/-- The words for what an operation ended with in place of a value. For want of
memory there are none. -/
inductive Words (E : Engine) (p : Port η σ) (l : Locator) (s : State E.State η σ) :
    Failure E.Value → List Call → String → State E.State η σ → Prop
  | refused {message} : Words E p l s (.refused message) [] message s
  | error {v cs message s₁ ds stack s₂} (hkind : E.isError s.engine v = true)
      (hmessage : Reads E p l v "message" s cs message s₁)
      (hstack : Reads E p l v "stack" s₁ ds stack s₂) :
      Words E p l s (.thrown v) (cs ++ ds) (Engine.errorWords message stack) s₂
  | other {v} (hkind : E.isError s.engine v = false) :
      Words E p l s (.thrown v) [] (E.shown s.engine v) s

/-- The operation fails, and that is put into words. -/
inductive Throws (E : Engine) (p : Port η σ) (l : Locator)
    (x : E.State → Outcome E.State E.Value α) (s : State E.State η σ) :
    List Call → String → State E.State η σ → Prop
  | intro {cs f s₁ ds m s₂} (hfails : Crosses E p l x s cs (.error f) s₁)
      (hwords : Words E p l s₁ f ds m s₂) : Throws E p l x s (cs ++ ds) m s₂

theorem readPart_appends (v : E.Value) (key : String) (t : E.State) :
    (readPart E p.noting l v key t).Appends :=
  fun ds => readPart_coupled E (p.noting_shifted ds) l v key t

theorem readPart_makes_iff {v : E.Value} {key : String} {text : Option String} {t : E.State}
    {w' : World η σ} :
    (readPart E p.noting l v key s.engine).Makes s.world cs (text, t) w' ↔
      Reads E p l v key s cs text ⟨t, w'⟩ := by
  unfold readPart
  rw [Act.Makes.bind_iff (crossing_appends _) (by rintro ⟨f | text, t⟩ <;> exact .pure _)]
  constructor
  · rintro ⟨cs₁, ⟨f | found, t₁⟩, w₁, cs₂, hread, hthen, rfl⟩
    · obtain ⟨heq, rfl, rfl⟩ := Act.makes_pure.mp hthen
      obtain ⟨rfl, rfl⟩ := Prod.mk.inj heq
      rw [List.append_nil]
      exact .failed (crossing_makes_iff.mp hread)
    · obtain ⟨heq, rfl, rfl⟩ := Act.makes_pure.mp hthen
      obtain ⟨rfl, rfl⟩ := Prod.mk.inj heq
      rw [List.append_nil]
      exact .found (crossing_makes_iff.mp hread)
  · intro hreads
    cases hreads with
    | found hread =>
        exact ⟨cs, (.ok text, t), w', [], crossing_makes_iff.mpr hread,
          Act.makes_pure.mpr ⟨rfl, rfl, rfl⟩, (List.append_nil cs).symm⟩
    | failed hread =>
        exact ⟨cs, (.error _, t), w', [], crossing_makes_iff.mpr hread,
          Act.makes_pure.mpr ⟨rfl, rfl, rfl⟩, (List.append_nil cs).symm⟩

theorem describe_makes_iff {v : E.Value} {m : String} {t : E.State} {w' : World η σ} :
    (describe E p.noting l v s.engine).Makes s.world cs (m, t) w' ↔
      Words E p l s (.thrown v) cs m ⟨t, w'⟩ := by
  unfold describe
  cases hkind : E.isError s.engine v with
  | false =>
      rw [if_neg (by decide), Act.makes_pure]
      constructor
      · rintro ⟨heq, rfl, rfl⟩
        obtain ⟨rfl, rfl⟩ := Prod.mk.inj heq
        exact .other hkind
      · intro hwords
        cases hwords with
        | error hkind' => nomatch hkind.symm.trans hkind'
        | other => exact ⟨rfl, rfl, rfl⟩
  | true =>
      rw [if_pos rfl, Act.Makes.bind_iff (readPart_appends v _ _)
        fun r => (readPart_appends v _ _).bind fun _ => .pure _]
      constructor
      · rintro ⟨cs₁, ⟨message, t₁⟩, w₁, ds, hmessage, hthen, rfl⟩
        obtain ⟨⟨stack, t₂⟩, heq, hstack⟩ :=
          (Act.Makes.map_iff (readPart_appends v _ _)).mp hthen
        obtain ⟨rfl, rfl⟩ := Prod.mk.inj heq
        exact .error hkind (readPart_makes_iff.mp hmessage)
          (readPart_makes_iff (s := ⟨t₁, w₁⟩).mp hstack)
      · intro hwords
        cases hwords with
        | @error _ cs₁ message s₁ ds stack _ _ hmessage hstack =>
            exact ⟨cs₁, (message, s₁.engine), s₁.world, ds, readPart_makes_iff.mpr hmessage,
              (Act.Makes.map_iff (readPart_appends v _ _)).mpr
                ⟨(stack, t), rfl, readPart_makes_iff.mpr hstack⟩, rfl⟩
        | other hkind' => nomatch hkind.symm.trans hkind'

theorem describe_appends (v : E.Value) (t : E.State) : (describe E p.noting l v t).Appends :=
  fun ds => describe_coupled E (p.noting_shifted ds) l v t

theorem scriptError_appends (stage : String) (f : Failure E.Value) (t : E.State) :
    (scriptError E p.noting l stage f t).Appends :=
  fun ds => scriptError_coupled E (p.noting_shifted ds) l stage f t

theorem Reads.slot (hp : p.Steady) {v : E.Value} {key : String} {text : Option String} {host : η}
    (h : Reads E p l v key s cs text s') (hs : s.world.link.slot = some host) :
    s'.world.link.slot = some host := by
  cases h with
  | found hread => exact hread.slot hp hs
  | failed hread => exact hread.slot hp hs

theorem Words.slot (hp : p.Steady) {f : Failure E.Value} {m : String} {host : η}
    (h : Words E p l s f cs m s') (hs : s.world.link.slot = some host) :
    s'.world.link.slot = some host := by
  cases h with
  | refused => exact hs
  | error _ hmessage hstack => exact hstack.slot hp (hmessage.slot hp hs)
  | other => exact hs

/-- What a stage does about a failure: it is put into words, and these are reported. -/
theorem scriptError_makes_iff (hp : p.Steady) {host : η} {stage : String} {f : Failure E.Value}
    {m : String} {t : E.State} {w' : World η σ} (hs : s.world.link.slot = some host) :
    (scriptError E p.noting l stage f s.engine).Makes s.world cs (.ok (m, t)) w' ↔
      ∃ cs₁ w₁, Words E p l s f cs₁ m ⟨t, w₁⟩ ∧ Reported p host stage m w₁ w' ∧
        cs = cs₁ ++ [.print (exceptionReport m)] := by
  cases f with
  | noMemory =>
      refine Act.makes_pure.trans ⟨fun h => (nomatch h.1), ?_⟩
      rintro ⟨_, _, hwords, -⟩
      nomatch hwords
  | refused message =>
      refine (report_then_makes_iff hs).trans ?_
      constructor
      · rintro ⟨heq, hreport, rfl⟩
        obtain ⟨rfl, rfl⟩ := Prod.mk.inj (Except.ok.inj heq)
        exact ⟨[], s.world, .refused, hreport, rfl⟩
      · rintro ⟨_, _, hwords, hreport, rfl⟩
        cases hwords
        exact ⟨rfl, hreport, rfl⟩
  | thrown v =>
      unfold scriptError
      rw [Act.Makes.bind_iff (describe_appends v _)
        fun r => (report_appends stage r.1).bind fun _ => .pure _]
      constructor
      · rintro ⟨cs₁, ⟨message, t₁⟩, w₁, cs₂, hdescribe, hthen, rfl⟩
        have hwords := describe_makes_iff.mp hdescribe
        obtain ⟨heq, hreport, rfl⟩ := (report_then_makes_iff (hwords.slot hp hs)).mp hthen
        obtain ⟨rfl, rfl⟩ := Prod.mk.inj (Except.ok.inj heq)
        exact ⟨cs₁, w₁, hwords, hreport, rfl⟩
      · rintro ⟨cs₁, w₁, hwords, hreport, rfl⟩
        exact ⟨cs₁, (m, t), w₁, _, describe_makes_iff.mpr hwords,
          (report_then_makes_iff (hwords.slot hp hs)).mpr ⟨rfl, hreport, rfl⟩, rfl⟩

/-! ## Following up an operation -/

/-- An operation whose failure is reported, and what follows if it does not fail. -/
theorem crossing_then_iff (hp : p.Steady) {x : E.State → Outcome E.State E.Value α}
    {stage : String} {k : Crossed E α → Act η (σ × List Call) (Except String β)}
    {g : String × E.State → β} (hok : ∀ a t, (k (.ok a, t)).Appends)
    (herror : ∀ f t, k (.error f, t) =
      (scriptError E p.noting l stage f t).proceed fun r => return .ok (g r))
    {b : β} {w' : World η σ} {host : η} (hs : s.world.link.slot = some host) :
    (crossing E p.noting l (x s.engine) >>= k).Makes s.world cs (.ok b) w' ↔
      (∃ cs₁ a s₁ cs₂, Leads p l x s cs₁ (.ok a) s₁ ∧
        (k (.ok a, s₁.engine)).Makes s₁.world cs₂ (.ok b) w' ∧ cs = cs₁ ++ cs₂) ∨
      ∃ cs₁ m s₁, Throws E p l x s cs₁ m s₁ ∧ b = g (m, s₁.engine) ∧
        Reported p host stage m s₁.world w' ∧ cs = cs₁ ++ [.print (exceptionReport m)] := by
  have hk : ∀ r, (k r).Appends := by
    rintro ⟨f | a, t⟩
    · rw [herror]
      exact (scriptError_appends stage f t).proceed fun _ => .pure _
    · exact hok a t
  rw [Act.Makes.bind_iff (crossing_appends _) hk]
  constructor
  · rintro ⟨cs₁, ⟨f | a, t⟩, w₁, cs₂, hcross, hthen, rfl⟩
    · have hfails := crossing_makes_iff.mp hcross
      rw [herror] at hthen
      obtain ⟨cs₃, ⟨m, t₁⟩, w₂, cs₄, herr, hpure, rfl⟩ :=
        (Act.Makes.proceed_iff (scriptError_appends stage f t) fun _ => .pure _).mp hthen
      obtain ⟨heq, rfl, rfl⟩ := Act.makes_pure.mp hpure
      obtain rfl := Except.ok.inj heq
      obtain ⟨cs₅, w₃, hwords, hreport, rfl⟩ :=
        (scriptError_makes_iff (s := ⟨t, w₁⟩) hp (hfails.slot hp hs)).mp herr
      refine .inr ⟨cs₁ ++ cs₅, m, ⟨t₁, w₃⟩, .intro hfails hwords, rfl, hreport, ?_⟩
      rw [List.append_nil, List.append_assoc]
    · exact .inl ⟨cs₁, a, ⟨t, w₁⟩, cs₂, (crossing_makes_iff.mp hcross).leads, hthen, rfl⟩
  · rintro (⟨cs₁, a, s₁, cs₂, ha, hthen, rfl⟩ | ⟨_, m, s₁, hthrows, rfl, hreport, rfl⟩)
    · exact ⟨cs₁, (.ok a, s₁.engine), s₁.world, cs₂,
        crossing_makes_iff.mpr (crosses_ok.mpr ha), hthen, rfl⟩
    · obtain @⟨cs₁, f, s₂, ds, _, _, hfails, hwords⟩ := hthrows
      have herr := (scriptError_makes_iff (s := ⟨_, _⟩) hp (hfails.slot hp hs)).mpr
        ⟨ds, s₁.world, hwords, hreport, rfl⟩
      refine ⟨cs₁, (.error f, s₂.engine), s₂.world, ds ++ [.print (exceptionReport m)],
        crossing_makes_iff.mpr hfails, ?_, List.append_assoc ..⟩
      rw [herror]
      exact (Act.Makes.proceed_iff (scriptError_appends stage f _) fun _ => .pure _).mpr
        ⟨_, (m, s₁.engine), w', [], herr, Act.makes_pure.mpr ⟨rfl, rfl, rfl⟩,
          (List.append_nil _).symm⟩

/-! ## The scripts -/

/-- The state once a script was looked for. -/
def State.lookedUp {S : Type} (s : State S η σ) (l : Locator) (name : String) : State S η σ :=
  ⟨s.engine, s.world.notedAll (l.loadEvents name)⟩

/-- The stage of a script. One that cannot be loaded is skipped. Any other is
evaluated by the engine as it is then, and if that fails, it is reported and the
engine kept. -/
inductive Evaluates (E : Engine) (p : Port η σ) (l : Locator) (host : η) (name : String)
    (s : State E.State η σ) : List Call → State E.State η σ → Prop
  | skipped {e} (hload : l.load name = .error e) :
      Evaluates E p l host name s []
        ⟨s.engine, (s.lookedUp l name).world.noted (skippedEvent name e)⟩
  | finished {source cs s'} (hload : l.load name = .ok source)
      (hrun : Leads p l (E.evaluate source) (s.lookedUp l name) cs (.ok ()) s') :
      Evaluates E p l host name s cs s'
  | failed {source cs m s' w'} (hload : l.load name = .ok source)
      (hrun : Throws E p l (E.evaluate source) (s.lookedUp l name) cs m s')
      (hreport : Reported p host name m s'.world w') :
      Evaluates E p l host name s (cs ++ [.print (exceptionReport m)]) ⟨s'.engine, w'⟩

/-- Evaluating a script is its stage. -/
theorem evaluate_makes_iff (hp : p.Steady) {host : η} {name : String} {t : E.State}
    {w' : World η σ} (hs : s.world.link.slot = some host) :
    (evaluate E p.noting l name s.engine).Makes s.world cs (.ok t) w' ↔
      Evaluates E p l host name s cs ⟨t, w'⟩ := by
  unfold evaluate
  rw [Act.makes_notes_then]
  cases hload : l.load name with
  | error e =>
      dsimp only
      rw [Act.makes_note_then, Act.makes_pure]
      constructor
      · rintro ⟨heq, rfl, rfl⟩
        obtain rfl := Except.ok.inj heq
        exact .skipped hload
      · intro hstage
        cases hstage with
        | skipped hload' =>
            obtain rfl := Except.error.inj (hload.symm.trans hload')
            exact ⟨rfl, rfl, rfl⟩
        | finished hload' => nomatch hload.symm.trans hload'
        | failed hload' => nomatch hload.symm.trans hload'
  | ok source =>
      refine Iff.trans (crossing_then_iff (s := s.lookedUp l name) (g := Prod.snd) hp
        (fun _ _ => .pure _) (fun _ _ => rfl) hs) ?_
      constructor
      · rintro (⟨cs₁, _, s₁, cs₂, hrun, hpure, rfl⟩ | ⟨cs₁, m, s₁, hrun, rfl, hreport, rfl⟩)
        · obtain ⟨heq, rfl, rfl⟩ := Act.makes_pure.mp hpure
          obtain rfl := Except.ok.inj heq
          rw [List.append_nil]
          exact .finished hload hrun
        · exact .failed hload hrun hreport
      · intro hstage
        cases hstage with
        | skipped hload' => nomatch hload.symm.trans hload'
        | finished hload' hrun =>
            obtain rfl := Except.ok.inj (hload.symm.trans hload')
            exact .inl ⟨cs, (), _, [], hrun, Act.makes_pure.mpr ⟨rfl, rfl, rfl⟩,
              (List.append_nil cs).symm⟩
        | failed hload' hrun hreport =>
            obtain rfl := Except.ok.inj (hload.symm.trans hload')
            exact .inr ⟨_, _, _, hrun, rfl, hreport, rfl⟩

/-! ## The entry point -/

section Call

variable {main : E.Value} {args : List String}

end Call

end Session

end DecBridge
