import DecBridge.Proofs.Session.Course
import DecBridge.Proofs.World.Carried
import DecBridge.Script.Machine

/-!
# Operations and their calls

What a script does shows in the calls that reach the host, in order. Under a
port that lists its calls, `Act.Makes` says with what an action ends, in which
world, and which calls it made on the way. Actions that only append to the list
compose (`Makes.bind_iff`): the calls of two actions in a row are those of the
first and then those of the second.

`Leads` is this for an operation of an engine, from one state of the session to
another, and it opens along the way operations are put together. What crosses
from the engine is what the operation ended with, unless that is an exception
and a panic of the host is kept (`crossing_makes_iff`). `Goes` is the same for an
evaluation of the interpreter.
-/

namespace DecBridge

open DecBridge.Bundle (Locator)

open Host (Call)

open Act (Coupled)

variable {η σ α β : Type}

/-! ## Calls of actions -/

namespace Act

/-- From `w` the action ends with `a` in `w'`, and these are the calls that it
makes. -/
def Makes (x : Act η (σ × List Call) α) (w : World η σ) (cs : List Call) (a : α)
    (w' : World η σ) : Prop :=
  x (w.listing []) = (.done a, w'.listing cs)

/-- What was listed before stays in front, and nothing looks at it. -/
def Appends (x : Act η (σ × List Call) α) : Prop :=
  ∀ ds, Coupled (.ofHosts η fun s t => t = (s.1, ds ++ s.2)) x x

theorem Appends.apply {x : Act η (σ × List Call) α} (hx : x.Appends) (w : World η σ)
    (ds : List Call) : ∃ (e : Exit α) (w' : World η σ) (cs : List Call),
      x (w.listing []) = (e, w'.listing cs) ∧
        x (w.listing ds) = (e, w'.listing (ds ++ cs)) := by
  have hstart : (Coupling.ofHosts η fun s t => t = (s.1, ds ++ s.2)).holds
      (w.listing []) (w.listing ds) := ⟨by simp [World.listing], rfl, rfl, rfl, rfl⟩
  obtain ⟨e, v, v', hx, hx', -, hhost, hlink, htrap, hlog, hengines⟩ := (hx ds).ends hstart
  refine ⟨e, { v with host := v.host.1 }, v.host.2, hx, hx'.trans (Prod.ext rfl ?_)⟩
  rw [World.mk.injEq]
  exact ⟨hhost, hlink.symm, htrap.symm, hlog.symm, hengines.symm⟩

theorem Appends.pure (a : α) : Appends (Pure.pure a : Act η (σ × List Call) α) :=
  fun _ => Coupled.pure a

theorem Appends.bind {x : Act η (σ × List Call) α} {f : α → Act η (σ × List Call) β}
    (hx : x.Appends) (hf : ∀ a, (f a).Appends) : (x >>= f).Appends :=
  fun ds => (hx ds).bind fun a => hf a ds

@[simp]
theorem makes_pure {a b : α} {w w' : World η σ} {cs : List Call} :
    Makes (Pure.pure a) w cs b w' ↔ b = a ∧ cs = [] ∧ w' = w := by
  constructor
  · intro h
    obtain ⟨hexit, hworld⟩ := Prod.mk.inj h
    obtain ⟨rfl, rfl⟩ := World.listing_inj hworld
    exact ⟨(Exit.done.inj hexit).symm, rfl, rfl⟩
  · rintro ⟨rfl, rfl, rfl⟩
    rfl

theorem bind_assoc {γ : Type} (x : Act η σ α) (f : α → Act η σ β) (g : β → Act η σ γ) :
    (x >>= f) >>= g = x >>= fun a => f a >>= g := by
  funext w
  show Act.bind (Act.bind x f) g w = Act.bind x (fun a => Act.bind (f a) g) w
  unfold Act.bind
  rcases x w with ⟨_ | _ | _ | _ | _, w'⟩ <;> rfl

/-- The calls of two actions in a row are those of the first, then those of the
second. -/
theorem Makes.bind_iff {x : Act η (σ × List Call) α} {f : α → Act η (σ × List Call) β}
    (hx : x.Appends) (hf : ∀ a, (f a).Appends) {w w' : World η σ} {cs : List Call} {b : β} :
    Makes (x >>= f) w cs b w' ↔ ∃ cs₁ a w₁ cs₂, Makes x w cs₁ a w₁ ∧
      Makes (f a) w₁ cs₂ b w' ∧ cs = cs₁ ++ cs₂ := by
  show Act.bind x f (w.listing []) = _ ↔ _
  unfold Act.bind
  constructor
  · intro h
    obtain ⟨e, w₁, cs₁, hx, -⟩ := hx.apply w []
    rw [hx] at h
    cases e with
    | done a =>
        -- behind the list of the first, the second does what it does with an empty one
        obtain ⟨e, w₂, cs₂, hfirst, hthen⟩ := (hf a).apply w₁ cs₁
        obtain ⟨rfl, hworld⟩ := Prod.mk.inj (hthen.symm.trans h)
        obtain ⟨rfl, rfl⟩ := World.listing_inj hworld
        exact ⟨cs₁, a, w₁, cs₂, hx, hfirst, rfl⟩
    | panicked q => nomatch h
    | terminated => nomatch h
    | killed => nomatch h
    | stalled => nomatch h
  · rintro ⟨cs₁, a, w₁, cs₂, hx, hfirst, rfl⟩
    obtain ⟨e, w₂, cs₃, hagain, hthen⟩ := (hf a).apply w₁ cs₁
    obtain ⟨rfl, hworld⟩ := Prod.mk.inj (hagain.symm.trans hfirst)
    obtain ⟨rfl, rfl⟩ := World.listing_inj hworld
    rw [hx]
    exact hthen

theorem Makes.map_iff {x : Act η (σ × List Call) α} (hx : x.Appends) {f : α → β}
    {w w' : World η σ} {cs : List Call} {b : β} :
    Makes (x >>= fun a => Pure.pure (f a)) w cs b w' ↔ ∃ a, b = f a ∧ Makes x w cs a w' := by
  rw [Makes.bind_iff hx fun a => .pure (f a)]
  constructor
  · rintro ⟨cs₁, a, w₁, cs₂, hx, hpure, rfl⟩
    obtain ⟨rfl, rfl, rfl⟩ := makes_pure.mp hpure
    rw [List.append_nil]
    exact ⟨a, rfl, hx⟩
  · rintro ⟨a, rfl, hx⟩
    exact ⟨cs, a, w', [], hx, makes_pure.mpr ⟨rfl, rfl, rfl⟩, (List.append_nil cs).symm⟩

theorem Appends.proceed {ε : Type} {x : Act η (σ × List Call) (Except ε α)}
    {f : α → Act η (σ × List Call) (Except ε β)} (hx : x.Appends) (hf : ∀ a, (f a).Appends) :
    (x.proceed f).Appends :=
  fun ds => (hx ds).proceed fun a => hf a ds

/-- The second of two actions is reached only with a value of the first. -/
theorem Makes.proceed_iff {ε : Type} {x : Act η (σ × List Call) (Except ε α)}
    {f : α → Act η (σ × List Call) (Except ε β)} (hx : x.Appends) (hf : ∀ a, (f a).Appends)
    {w w' : World η σ} {cs : List Call} {b : β} :
    Makes (x.proceed f) w cs (.ok b) w' ↔ ∃ cs₁ a w₁ cs₂, Makes x w cs₁ (.ok a) w₁ ∧
      Makes (f a) w₁ cs₂ (.ok b) w' ∧ cs = cs₁ ++ cs₂ := by
  refine (Makes.bind_iff hx (by rintro (e | a) <;> first | exact .pure _ | exact hf _)).trans ?_
  constructor
  · rintro ⟨cs₁, e | a, w₁, cs₂, hx, hthen, rfl⟩
    · nomatch (makes_pure.mp hthen).1
    · exact ⟨cs₁, a, w₁, cs₂, hx, hthen, rfl⟩
  · rintro ⟨cs₁, a, w₁, cs₂, hx, hthen, rfl⟩
    exact ⟨cs₁, .ok a, w₁, cs₂, hx, hthen, rfl⟩

theorem Makes.slot {x : Act η (σ × List Call) α} (hx : Steady x) {w w' : World η σ}
    {cs : List Call} {a : α} (h : x.Makes w cs a w') {host : η} (hw : w.link.slot = some host) :
    w'.link.slot = some host := by
  have hstay := (hx (w.listing []) (Session.isAttached_of_slot hw)).2.link
  rw [h] at hstay
  exact (congrArg Link.slot hstay).trans hw

end Act

namespace Session

open Engine (Failure Outcome)

open Script (Abrupt Eval Heap Run)

/-! ## Carrying out runs -/

theorem perform_bind (p : Port η σ) (l : Locator) (x : Run α) (f : α → Run β) :
    perform p l (x.bind f) = perform p l x >>= fun a => perform p l (f a) := by
  rw [Run.bind_eq_andThen]
  induction x with
  | done a => rfl
  | stalled => rfl
  | ask r resume ih =>
      rw [Run.andThen, perform_ask, perform_ask, Act.bind_assoc]
      simp only [ih]

theorem perform_appends (p : Port η σ) (l : Locator) (x : Run α) :
    (perform p.noting l x).Appends :=
  fun ds => perform_coupled (p.noting_shifted ds) l x

/-- Where a session stands between two operations of its engine. -/
structure State (S η σ : Type) where
  engine : S
  world : World η σ

variable {S ρ ρ' : Type} {p : Port η σ} {l : Locator} {s s' : State S η σ} {cs : List Call}

/-- Carried out from `s`, the run makes these calls and ends with `r` in `s'`. -/
def Leads (p : Port η σ) (l : Locator) (x : S → Run (ρ × S)) (s : State S η σ) (cs : List Call)
    (r : ρ) (s' : State S η σ) : Prop :=
  (perform p.noting l (x s.engine)).Makes s.world cs (r, s'.engine) s'.world

theorem Leads.of_done {x : S → Run (ρ × S)} {r r' : ρ} {t : S}
    (hx : x s.engine = .done (r, t)) :
    Leads p l x s cs r' s' ↔ r' = r ∧ cs = [] ∧ s' = ⟨t, s.world⟩ := by
  unfold Leads
  rw [hx]
  show Act.Makes (pure (r, t)) _ _ _ _ ↔ _
  rw [Act.makes_pure]
  obtain ⟨engine, world⟩ := s'
  constructor
  · rintro ⟨heq, rfl, rfl⟩
    obtain ⟨rfl, rfl⟩ := Prod.mk.inj heq
    exact ⟨rfl, rfl, rfl⟩
  · rintro ⟨rfl, rfl, heq⟩
    cases heq
    exact ⟨rfl, rfl, rfl⟩

/-- A run in two parts makes the calls of both. -/
theorem Leads.bind_iff {x : S → Run (ρ × S)} {f : ρ × S → Run (ρ' × S)} {r : ρ'} :
    Leads p l (fun t => (x t).bind f) s cs r s' ↔
      ∃ cs₁ a s₁ cs₂, Leads p l x s cs₁ a s₁ ∧ Leads p l (fun t => f (a, t)) s₁ cs₂ r s' ∧
        cs = cs₁ ++ cs₂ := by
  unfold Leads
  rw [perform_bind, Act.Makes.bind_iff (perform_appends p l _) fun _ => perform_appends p l _]
  constructor
  · rintro ⟨cs₁, ⟨a, t⟩, w₁, cs₂, hx, hf, rfl⟩
    exact ⟨cs₁, a, ⟨t, w₁⟩, cs₂, hx, hf, rfl⟩
  · rintro ⟨cs₁, a, s₁, cs₂, hx, hf, rfl⟩
    exact ⟨cs₁, (a, s₁.engine), s₁.world, cs₂, hx, hf, rfl⟩

/-! ## Crossing into the engine -/

section Crossing

variable {E : Engine} {s s' : State E.State η σ}

/-- What crosses from the engine once the operation was carried out: what it
ended with. No panic of the host is kept that would go on in place of an
exception. -/
structure Crosses (E : Engine) (p : Port η σ) (l : Locator)
    (x : E.State → Outcome E.State E.Value α) (s : State E.State η σ) (cs : List Call)
    (r : Except (Failure E.Value) α) (s' : State E.State η σ) : Prop where
  leads : Leads p l x s cs r s'
  free : ∀ v, r = .error (.thrown v) → E.kept s'.engine = none

theorem crosses_ok {x : E.State → Outcome E.State E.Value α} {a : α} :
    Crosses E p l x s cs (.ok a) s' ↔ Leads p l x s cs (.ok a) s' :=
  ⟨fun h => h.leads, fun h => ⟨h, nofun⟩⟩

theorem handBack_makes_iff {r r' : Crossed E α} {w w' : World η σ} :
    Act.Makes (handBack E r) w cs r' w' ↔
      (r' = r ∧ cs = [] ∧ w' = w) ∧ ∀ v, r.1 = .error (.thrown v) → E.kept r.2 = none := by
  obtain ⟨(v | _ | message) | a, t⟩ := r
  case error.thrown =>
    unfold handBack
    dsimp only
    cases hkept : E.kept t with
    | none => exact Act.makes_pure.trans (iff_self_and.mpr fun _ _ _ => rfl)
    | some q =>
        constructor
        · intro h
          -- the panic goes on in place of the exception
          have hexit : (Exit.panicked q, w.listing []) = (Exit.done r', w'.listing cs) := h
          nomatch hexit
        · exact fun h => nomatch h.2 v rfl
  all_goals exact Act.makes_pure.trans (iff_self_and.mpr fun _ _ h => nomatch h)

theorem crossing_makes_iff {x : E.State → Outcome E.State E.Value α}
    {r : Except (Failure E.Value) α} {t : E.State} {w' : World η σ} :
    (crossing E p.noting l (x s.engine)).Makes s.world cs (r, t) w' ↔
      Crosses E p l x s cs r ⟨t, w'⟩ := by
  have happends : ∀ r : Crossed E α, (handBack E r : Act η (σ × List Call) _).Appends :=
    fun r ds => handBack_coupled E r
  unfold crossing
  rw [Act.Makes.bind_iff (perform_appends p l _) happends]
  constructor
  · rintro ⟨cs₁, r₁, w₁, cs₂, hx, hback, rfl⟩
    obtain ⟨⟨rfl, rfl, rfl⟩, hfree⟩ := handBack_makes_iff.mp hback
    rw [List.append_nil]
    exact ⟨hx, hfree⟩
  · rintro ⟨hx, hfree⟩
    exact ⟨cs, (r, t), w', [], hx, handBack_makes_iff.mpr ⟨⟨rfl, rfl, rfl⟩, hfree⟩,
      (List.append_nil cs).symm⟩

theorem crossing_appends (x : Outcome E.State E.Value α) : (crossing E p.noting l x).Appends :=
  fun ds => crossing_coupled E (p.noting_shifted ds) l x

theorem Crosses.slot (hp : p.Steady) {x : E.State → Outcome E.State E.Value α}
    {r : Except (Failure E.Value) α} {host : η} (h : Crosses E p l x s cs r s')
    (hs : s.world.link.slot = some host) : s'.world.link.slot = some host := by
  have hsteady : Act.Steady (crossing E p.noting l (x s.engine)) :=
    .of_coupled fun hl => crossing_coupled E ((Port.noting_steady hp).coupled hl) l _
  exact Act.Makes.slot hsteady (crossing_makes_iff.mpr h) hs

end Crossing

/-! ## Evaluations of the interpreter -/

section Goes

variable {s s' : State Heap η σ}

/-- Carried out from `s`, the evaluation makes these calls and ends with `r` in
`s'`. -/
def Goes (p : Port η σ) (l : Locator) (x : Eval α) (s : State Heap η σ) (cs : List Call)
    (r : Except Abrupt α) (s' : State Heap η σ) : Prop :=
  Leads p l x.run s cs r s'

theorem Goes.of_run {x : Eval α} {r r' : Except Abrupt α} {h : Heap}
    (hx : x.run s.engine = .done (r, h)) :
    Goes p l x s cs r' s' ↔ r' = r ∧ cs = [] ∧ s' = ⟨h, s.world⟩ :=
  Leads.of_done hx

@[simp]
theorem goes_pure {a : α} {r : Except Abrupt α} :
    Goes p l (pure a) s cs r s' ↔ r = .ok a ∧ cs = [] ∧ s' = s :=
  Goes.of_run rfl

/-- An evaluation in two parts ends with the second, or the first has no value. -/
theorem Goes.bind_iff {x : Eval α} {f : α → Eval β} {r : Except Abrupt β} :
    Goes p l (x >>= f) s cs r s' ↔
      (∃ cs₁ a s₁ cs₂, Goes p l x s cs₁ (.ok a) s₁ ∧ Goes p l (f a) s₁ cs₂ r s' ∧
        cs = cs₁ ++ cs₂) ∨
      ∃ e, r = .error e ∧ Goes p l x s cs (.error e) s' := by
  refine Leads.bind_iff.trans ?_
  constructor
  · rintro ⟨cs₁, e | a, s₁, cs₂, hx, hf, rfl⟩
    · obtain ⟨rfl, rfl, rfl⟩ := (Leads.of_done rfl).mp hf
      rw [List.append_nil]
      exact .inr ⟨e, rfl, hx⟩
    · exact .inl ⟨cs₁, a, s₁, cs₂, hx, hf, rfl⟩
  · rintro (⟨cs₁, a, s₁, cs₂, hx, hf, rfl⟩ | ⟨e, rfl, hx⟩)
    · exact ⟨cs₁, .ok a, s₁, cs₂, hx, hf, rfl⟩
    · exact ⟨cs, .error e, s', [], hx, (Leads.of_done rfl).mpr ⟨rfl, rfl, rfl⟩,
        (List.append_nil cs).symm⟩

theorem goes_attempt {x : Eval α} {r : Except Abrupt (Except Abrupt α)} :
    Goes p l (Eval.attempt x) s cs r s' ↔ ∃ e, r = .ok e ∧ Goes p l x s cs e s' := by
  refine Leads.bind_iff.trans ?_
  constructor
  · rintro ⟨cs₁, e, s₁, cs₂, hx, hf, rfl⟩
    obtain ⟨rfl, rfl, rfl⟩ := (Leads.of_done rfl).mp hf
    rw [List.append_nil]
    exact ⟨e, rfl, hx⟩
  · rintro ⟨e, rfl, hx⟩
    exact ⟨cs, e, s', [], hx, (Leads.of_done rfl).mpr ⟨rfl, rfl, rfl⟩,
      (List.append_nil cs).symm⟩

end Goes

end Session

end DecBridge
