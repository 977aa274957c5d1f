import DecBridge.World

/-!
# Two runs side by side

What an action does depends on the hosts only through the port it is given. A
`Coupling` relates the worlds of two runs, possibly with different states of
the hosts, and `Act.Coupled` says that two actions started in related worlds
end in the same way and in related worlds. The relation is closed under
everything actions are built from, so each function of the program contributes
one lemma about its own body, with the ports as the only thing that differs on
the two sides.

A coupling of a run with itself is an invariant. One that relates a run to the
same run over larger states says that what is added to the states is only
looked at, and `Coupling.ofHosts` is the kind that also goes through attaching,
releasing and the trap.
-/

namespace DecBridge

open Host (Call HostError)

/-- The program is still there: it goes on, unwinds from a panic, or waits. -/
def Exit.Lasts {α : Type} : Exit α → Prop
  | .terminated | .killed => False
  | _ => True

theorem Exit.Lasts.map {α β : Type} {e : Exit α} (h : e.Lasts) (f : α → β) :
    (e.map f).Lasts := by
  cases e with
  | done a => trivial
  | panicked q => trivial
  | stalled => trivial
  | terminated => exact h
  | killed => exact h

/-- What two runs have to do with each other. -/
structure Coupling (η σ τ : Type) where
  holds : World η σ → World η τ → Prop
  /-- Whether an action may end the program. -/
  fatal : Prop
  slot_eq : ∀ {w : World η σ} {w' : World η τ}, holds w w' → w.link.slot = w'.link.slot
  logged : ∀ {w : World η σ} {w' : World η τ}
    (f : Array Log.Event → Array Log.Event), holds w w' →
      holds { w with log := f w.log } { w' with log := f w'.log }

variable {η σ τ α β : Type} {C : Coupling η σ τ}

namespace Act

/-- From related worlds both actions end in the same way, in related worlds. -/
def Coupled (C : Coupling η σ τ) (x : Act η σ α) (y : Act η τ α) : Prop :=
  ∀ w w', C.holds w w' →
    (x w).1 = (y w').1 ∧ (C.fatal ∨ (x w).1.Lasts) ∧ C.holds (x w).2 (y w').2

theorem Coupled.pure (a : α) :
    Coupled C (Pure.pure a : Act η σ α) (Pure.pure a) :=
  fun _ _ hw => ⟨rfl, .inr trivial, hw⟩

theorem Coupled.exit {e : Exit α} (he : C.fatal ∨ e.Lasts) :
    Coupled C (Act.exit e) (Act.exit e) :=
  fun _ _ hw => ⟨rfl, he, hw⟩

theorem Coupled.note (e : Log.Event) : Coupled C (Act.note e) (Act.note e) :=
  fun _ _ hw => ⟨rfl, .inr trivial, C.logged (·.push e) hw⟩

theorem Coupled.notes (es : List Log.Event) :
    Coupled C (Act.notes es) (Act.notes es) :=
  fun _ _ hw => ⟨rfl, .inr trivial, C.logged (· ++ es.toArray) hw⟩

/-- How both actions end, from related worlds. -/
theorem Coupled.ends {x : Act η σ α} {y : Act η τ α} (h : Coupled C x y)
    {w : World η σ} {w' : World η τ} (hw : C.holds w w') :
    ∃ e v v', x w = (e, v) ∧ y w' = (e, v') ∧ (C.fatal ∨ e.Lasts) ∧ C.holds v v' := by
  obtain ⟨hexit, hlasts, hafter⟩ := h w w' hw
  exact ⟨(x w).1, (x w).2, (y w').2, rfl, Prod.ext hexit.symm rfl, hlasts, hafter⟩

theorem Coupled.bind {x : Act η σ α} {y : Act η τ α} {f : α → Act η σ β}
    {g : α → Act η τ β} (h : Coupled C x y) (hf : ∀ a, Coupled C (f a) (g a)) :
    Coupled C (x >>= f) (y >>= g) := by
  intro w w' hw
  obtain ⟨e, v, v', hx, hy, hlasts, hafter⟩ := h.ends hw
  show (Act.bind x f w).1 = (Act.bind y g w').1 ∧
    (C.fatal ∨ (Act.bind x f w).1.Lasts) ∧
    C.holds (Act.bind x f w).2 (Act.bind y g w').2
  unfold Act.bind
  rw [hx, hy]
  cases e with
  | done a => exact hf a v v' hafter
  | panicked q => exact ⟨rfl, .inr trivial, hafter⟩
  | stalled => exact ⟨rfl, .inr trivial, hafter⟩
  | terminated => exact ⟨rfl, hlasts, hafter⟩
  | killed => exact ⟨rfl, hlasts, hafter⟩

theorem Coupled.proceed {ε : Type} {x : Act η σ (Except ε α)} {y : Act η τ (Except ε α)}
    {f : α → Act η σ (Except ε β)} {g : α → Act η τ (Except ε β)} (h : Coupled C x y)
    (hf : ∀ a, Coupled C (f a) (g a)) : Coupled C (x.proceed f) (y.proceed g) := by
  refine h.bind ?_
  rintro (e | a)
  · exact Coupled.pure _
  · exact hf a

theorem Coupled.catching {x : Act η σ α} {y : Act η τ α} (h : Coupled C x y) :
    Coupled C x.catching y.catching := by
  intro w w' hw
  obtain ⟨e, v, v', hx, hy, hlasts, hafter⟩ := h.ends hw
  unfold Act.catching
  rw [hx, hy]
  cases e with
  | done a => exact ⟨rfl, .inr trivial, hafter⟩
  | panicked q => exact ⟨rfl, .inr trivial, hafter⟩
  | stalled => exact ⟨rfl, .inr trivial, hafter⟩
  | terminated => exact ⟨rfl, hlasts, hafter⟩
  | killed => exact ⟨rfl, hlasts, hafter⟩

theorem Coupled.afterwards {x : Act η σ α} {y : Act η τ α}
    {f : World η σ → World η σ} {g : World η τ → World η τ} (h : Coupled C x y)
    (hf : ∀ w w', C.holds w w' → C.holds (f w) (g w')) :
    Coupled C (x.afterwards f) (y.afterwards g) := by
  intro w w' hw
  obtain ⟨e, v, v', hx, hy, hlasts, hafter⟩ := h.ends hw
  unfold Act.afterwards
  rw [hx, hy]
  cases e with
  | killed => exact ⟨rfl, hlasts, hafter⟩
  | done a => exact ⟨rfl, hlasts, hf v v' hafter⟩
  | panicked q => exact ⟨rfl, hlasts, hf v v' hafter⟩
  | terminated => exact ⟨rfl, hlasts, hf v v' hafter⟩
  | stalled => exact ⟨rfl, hlasts, hf v v' hafter⟩

end Act

/-! ## Ports and the link -/

/-- Ports whose calls are coupled. -/
def Port.Coupled (C : Coupling η σ τ) (p : Port η σ) (q : Port η τ) : Prop :=
  ∀ h c, Act.Coupled C (p h c) (q h c)

namespace Link

variable {p : Port η σ} {q : Port η τ}

theorem call_coupled (hp : Port.Coupled C p q) (c : Call) :
    Act.Coupled C (call p c) (call q c) := by
  intro w w' hw
  unfold call
  rw [C.slot_eq hw]
  cases w'.link.slot with
  | none => exact ⟨rfl, .inr trivial, hw⟩
  | some h => exact hp h c w w' hw

theorem print_coupled (hp : Port.Coupled C p q) (text : String) :
    Act.Coupled C (print p text) (print q text) := by
  intro w w' hw
  unfold print
  rw [C.slot_eq hw]
  cases w'.link.slot with
  | none => exact ⟨rfl, .inr trivial, hw⟩
  | some h =>
      obtain ⟨hexit, hlasts, hafter⟩ := hp h (.print text) w w' hw
      refine ⟨?_, hlasts.imp_right fun hl => hl.map _, hafter⟩
      simp only [hexit]

end Link

/-! ## Couplings of the states of hosts -/

/-- The worlds differ in nothing but the states of the hosts, which are
related. -/
def Coupling.ofHosts (η : Type) (S : σ → τ → Prop) : Coupling η σ τ where
  holds w w' := S w.host w'.host ∧ w.link = w'.link ∧ w.trap = w'.trap ∧ w.log = w'.log ∧
    w.engines = w'.engines
  fatal := True
  slot_eq h := congrArg Link.slot h.2.1
  logged f h := ⟨h.1, h.2.1, h.2.2.1, congrArg f h.2.2.2.1, h.2.2.2.2⟩

section OfHosts

variable {S : σ → τ → Prop}

theorem Link.attach_coupled (host : η) :
    Act.Coupled (.ofHosts η S) (Link.attach host) (Link.attach host) := by
  rintro w w' ⟨hhost, hlink, htrap, hlog, hengines⟩
  unfold Link.attach
  rw [hlink]
  split
  · exact ⟨rfl, .inl trivial, hhost, hlink, htrap, hlog, hengines⟩
  · exact ⟨rfl, .inl trivial, hhost, rfl, htrap, by rw [hlog], hengines⟩

theorem Link.release_coupled (guard : Nat) (w : World η σ) (w' : World η τ)
    (hw : (Coupling.ofHosts η S).holds w w') :
    (Coupling.ofHosts η S).holds (Link.release guard w) (Link.release guard w') := by
  obtain ⟨hhost, hlink, htrap, hlog, hengines⟩ := hw
  unfold Link.release
  rw [hlink]
  split
  · exact ⟨hhost, rfl, htrap, by rw [hlog], hengines⟩
  · exact ⟨hhost, hlink, htrap, hlog, hengines⟩

theorem Trap.trip_coupled (message : Option String) :
    Act.Coupled (.ofHosts η S) (Trap.trip message) (Trap.trip message) := by
  rintro w w' ⟨hhost, hlink, htrap, hlog, hengines⟩
  unfold Trap.trip
  rw [htrap]
  dsimp only
  split
  · exact ⟨rfl, .inl trivial, hhost, hlink, rfl, by rw [hlog], hengines⟩
  · split
    · exact ⟨rfl, .inl trivial, hhost, hlink, rfl, by rw [hlog], hengines⟩
    · exact ⟨rfl, .inl trivial, hhost, hlink, rfl, by rw [hlog], hengines⟩

end OfHosts

end DecBridge
