import DecBridge.Proofs.World.Coupled

/-!
# Worlds in which a host is in charge

While a host is attached, nothing that goes through callbacks or through the
dispatcher touches the link or the trap, and none of it ends the program.
`Act.Alike` states that relationally: two actions that cannot be told apart
in any attached world, and that leave such a world attached as it was.

Likeness is being coupled by `Coupling.still`, for every link with a host and
every trap (`Alike.of_coupled`, `Alike.coupled`), so what is shown for any
coupling holds of it. Steadiness of a single action is likeness to itself
(`Act.Steady`).

Hosts that make requests are trees, and `Reaction.perform_alike` is the one
induction over them: if serving a request is alike for alike ports, so is
everything a host does with a call.
-/

namespace DecBridge

open Host (Call HostError Reaction)

variable {η σ α β : Type}

/-- A run beside itself, with this link and this trap all the time. -/
def Coupling.still (l : Link η) (t : Trap) : Coupling η σ σ where
  holds w w' := w = w' ∧ w.link = l ∧ w.trap = t
  fatal := False
  slot_eq h := congrArg (·.link.slot) h.1
  logged f h := ⟨congrArg (fun w : World η σ => { w with log := f w.log }) h.1, h.2⟩

namespace Act

/-- What is left of a world: the program is still there, and the link and the
trap are as they were. -/
structure Stays (w : World η σ) (r : Exit α × World η σ) : Prop where
  lasts : r.1.Lasts
  link : r.2.link = w.link
  trap : r.2.trap = w.trap

/-- Actions that cannot be told apart while a host is in charge, and that
leave link and trap alone then. -/
def Alike (x y : Act η σ α) : Prop :=
  ∀ w, w.link.isAttached = true → x w = y w ∧ Stays w (x w)

def Steady (x : Act η σ α) : Prop := Alike x x

theorem Stays.trans {w w' : World η σ} {r : Exit α × World η σ}
    (hlink : w'.link = w.link) (htrap : w'.trap = w.trap) (h : Stays w' r) :
    Stays w r :=
  ⟨h.lasts, h.link.trans hlink, h.trap.trans htrap⟩

theorem bind_apply (x : Act η σ α) (f : α → Act η σ β) (w : World η σ) :
    (x >>= f) w = Act.bind x f w := rfl

/-! ## Closure of likeness -/

theorem Alike.coupled {x y : Act η σ α} (h : Alike x y) {l : Link η} {t : Trap}
    (hl : l.isAttached = true) : Coupled (.still l t) x y := by
  rintro w w' ⟨rfl, hlink, htrap⟩
  obtain ⟨heq, hstay⟩ := h w (hlink ▸ hl)
  exact ⟨congrArg Prod.fst heq, .inr hstay.lasts, congrArg Prod.snd heq,
    hstay.link.trans hlink, hstay.trap.trans htrap⟩

theorem Alike.of_coupled {x y : Act η σ α}
    (h : ∀ {l : Link η} {t : Trap}, l.isAttached = true → Coupled (.still l t) x y) :
    Alike x y := by
  intro w hw
  obtain ⟨hexit, hlasts, heq, hlink, htrap⟩ := h hw w w ⟨rfl, rfl, rfl⟩
  exact ⟨Prod.ext hexit heq, hlasts.resolve_left id, hlink, htrap⟩

theorem Alike.left {x y : Act η σ α} (h : Alike x y) : Steady x :=
  fun w hw => ⟨rfl, (h w hw).2⟩

theorem Alike.pure (a : α) : Steady (Pure.pure a : Act η σ α) :=
  fun _ _ => ⟨rfl, trivial, rfl, rfl⟩

theorem Alike.exit {e : Exit α} (he : e.Lasts) : Steady (Act.exit e : Act η σ α) :=
  fun _ _ => ⟨rfl, he, rfl, rfl⟩

theorem Alike.note (e : Log.Event) : Steady (Act.note e : Act η σ Unit) :=
  fun _ _ => ⟨rfl, trivial, rfl, rfl⟩

theorem Alike.notes (es : List Log.Event) :
    Steady (Act.notes es : Act η σ Unit) :=
  fun _ _ => ⟨rfl, trivial, rfl, rfl⟩

theorem Alike.bind {x y : Act η σ α} {f g : α → Act η σ β} (h : Alike x y)
    (hf : ∀ a, Alike (f a) (g a)) : Alike (x >>= f) (y >>= g) :=
  .of_coupled fun hl => (h.coupled hl).bind fun a => (hf a).coupled hl

theorem Alike.catching {x y : Act η σ α} (h : Alike x y) :
    Alike x.catching y.catching :=
  .of_coupled fun hl => (h.coupled hl).catching

end Act

/-! ## Ports and the link -/

/-- Ports whose calls are alike. -/
def Port.Alike (p q : Port η σ) : Prop := ∀ h c, Act.Alike (p h c) (q h c)

def Port.Steady (p : Port η σ) : Prop := Port.Alike p p

theorem Port.Alike.coupled {p q : Port η σ} (h : Port.Alike p q) {l : Link η}
    {t : Trap} (hl : l.isAttached = true) : Port.Coupled (.still l t) p q :=
  fun host c => (h host c).coupled hl

theorem Port.Alike.left {p q : Port η σ} (h : Port.Alike p q) : p.Steady :=
  fun host c => (h host c).left

namespace Link

theorem call_reaching {p : Port η σ} {host : η} {w : World η σ}
    (hw : w.link.slot = some host) (c : Call) : Link.call p c w = p host c w := by
  unfold Link.call
  rw [hw]

theorem call_then {p : Port η σ} {host : η} {w : World η σ}
    (hw : w.link.slot = some host) (c : Call)
    (f : Except HostError String → Act η σ α) :
    (Link.call p c >>= f) w = (p host c >>= f) w := by
  show Act.bind _ _ w = Act.bind _ _ w
  unfold Act.bind
  rw [call_reaching hw]

theorem print_then {p : Port η σ} {host : η} {w : World η σ}
    (hw : w.link.slot = some host) (text : String)
    (f : Except HostError Unit → Act η σ α) :
    (Link.print p text >>= f) w =
      (p host (.print text) >>= fun _ => f (.ok ())) w := by
  show Act.bind _ _ w = Act.bind _ _ w
  unfold Act.bind Link.print
  rw [hw]
  dsimp only
  rcases p host (.print text) w with ⟨_ | _ | _ | _ | _, w'⟩ <;> rfl

/-- In an attached world nobody can be put in charge, and trying to changes
nothing. -/
theorem attach_of_attached {w : World η σ} (hw : w.link.isAttached = true)
    (h : η) : attach h w = (.done (.error .alreadyAttached), w) := by
  unfold attach
  rw [if_pos (show w.link.slot.isSome = true from hw)]

/-- The world once a host was put in charge. -/
def attachedWorld (host : η) (w : World η σ) : World η σ :=
  { w with
    link := { slot := some host, live := w.link.issued :: w.link.live,
              issued := w.link.issued + 1 }
    log := w.log.push attachedEvent }

theorem attach_of_detached {w : World η σ} (hw : w.link.slot = none) (host : η) :
    attach host w = (.done (.ok w.link.issued), attachedWorld host w) := by
  unfold attach
  rw [hw]
  rfl

end Link

/-! ## Hosts that make requests -/

/-- A request is served by calling the hosts as `inside` says they behave then,
and the answer is resumed in the world that is left. -/
theorem Host.Reaction.perform_request {ρ : Type}
    (serve : Port η σ → ρ → Act η σ α) (r : ρ) (s : σ)
    (inside : Host.Roster η σ ρ α) (resume : α → σ → Reaction η σ ρ α)
    (w : World η σ) :
    (Reaction.request r s inside resume).perform serve w =
      (serve (port serve inside) r >>= fun a w' =>
        (resume a w'.host).perform serve w') { w with host := s } := by
  show _ = Act.bind _ _ _
  rw [Reaction.perform]
  unfold Act.bind port
  dsimp only

theorem Host.Reaction.perform_alike {ρ : Type}
    {serve serve' : Port η σ → ρ → Act η σ α}
    (hserve : ∀ p q, Port.Alike p q → ∀ r, Act.Alike (serve p r) (serve' q r))
    (x : Reaction η σ ρ α) : Act.Alike (x.perform serve) (x.perform serve') := by
  induction x with
  | reply answer s => exact fun w _ => ⟨rfl, trivial, rfl, rfl⟩
  | panic payload s => exact fun w _ => ⟨rfl, trivial, rfl, rfl⟩
  | hang s => exact fun w _ => ⟨rfl, trivial, rfl, rfl⟩
  | note event next ih =>
      intro w hw
      obtain ⟨heq, hstay⟩ := ih { w with log := w.log.push event } hw
      exact ⟨heq, hstay.lasts, hstay.link, hstay.trap⟩
  | request r s inside resume ihInside ihResume =>
      intro w hw
      have hp : Port.Alike (port serve inside) (port serve' inside) :=
        fun h c w => ihInside h c w.host w
      have h := (hserve _ _ hp r).bind (g := fun a w => (resume a w.host).perform serve' w)
        fun a w => ihResume a w.host w
      obtain ⟨heq, hstay⟩ := h { w with host := s } hw
      rw [perform_request, perform_request]
      exact ⟨heq, hstay.lasts, hstay.link, hstay.trap⟩

theorem port_alike {ρ : Type} {serve serve' : Port η σ → ρ → Act η σ α}
    (hserve : ∀ p q, Port.Alike p q → ∀ r, Act.Alike (serve p r) (serve' q r))
    (roster : Host.Roster η σ ρ α) :
    Port.Alike (port serve roster) (port serve' roster) :=
  fun h c w => (roster h c w.host).perform_alike hserve w

end DecBridge
