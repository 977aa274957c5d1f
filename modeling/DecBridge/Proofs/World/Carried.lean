import DecBridge.Proofs.World.Attached
import DecBridge.World.Watched

/-!
# Hosts side by side

What a host does with a call is a tree, and two trees of the same shape that
leave related states behind (`Host.Reaction.Matches`) are carried out alike:
`Matches.perform_coupled` is the one induction over such pairs. It holds for
every coupling that relates the states of the hosts and lets related states
take their place (`Coupling.Over`).

A host matches itself, and it matches itself over larger states of which it
looks only at its own (`Reaction.carry`). What is carried along may be books,
settings or, with `Port.noting`, a list of the calls that are made through a
port. `Watched.Lists` says of an action with its moments that these are the
calls on that list.
-/

namespace DecBridge

open Host (Call Part Reaction)

open Act (Coupled)

variable {η σ τ ρ α β L : Type}

/-! ## Matching hosts -/

/-- Reactions that differ in the states they leave, which are related. -/
inductive Host.Reaction.Matches (S : σ → τ → Prop) :
    Reaction η σ ρ α → Reaction η τ ρ α → Prop
  | reply {answer s t} (h : S s t) : Matches S (.reply answer s) (.reply answer t)
  | panic {payload s t} (h : S s t) : Matches S (.panic payload s) (.panic payload t)
  | hang {s t} (h : S s t) : Matches S (.hang s) (.hang t)
  | note {event x y} (h : Matches S x y) : Matches S (.note event x) (.note event y)
  | request {r s t inside inside' resume resume'} (h : S s t)
      (hinside : ∀ host c s t, S s t → Matches S (inside host c s) (inside' host c t))
      (hresume : ∀ a s t, S s t → Matches S (resume a s) (resume' a t)) :
      Matches S (.request r s inside resume) (.request r t inside' resume')

theorem Host.Reaction.Matches.refl (x : Reaction η σ ρ α) : Matches Eq x x := by
  induction x with
  | reply answer s => exact .reply rfl
  | panic payload s => exact .panic rfl
  | hang s => exact .hang rfl
  | note event next ih => exact .note ih
  | request r s inside resume ihInside ihResume =>
      refine .request rfl ?_ ?_
      · rintro host c s _ rfl
        exact ihInside host c s
      · rintro a s _ rfl
        exact ihResume a s

/-- States of hosts count only as far as `S` says, and related states may take
their place. -/
structure Coupling.Over (C : Coupling η σ τ) (S : σ → τ → Prop) : Prop where
  host : ∀ {w : World η σ} {w' : World η τ}, C.holds w w' → S w.host w'.host
  put : ∀ {w : World η σ} {w' : World η τ} {s : σ} {t : τ}, C.holds w w' → S s t →
    C.holds { w with host := s } { w' with host := t }

theorem Coupling.ofHosts_over (S : σ → τ → Prop) : (Coupling.ofHosts η S).Over S :=
  ⟨fun hw => hw.1, fun hw hs => ⟨hs, hw.2⟩⟩

section Matches

variable {C : Coupling η σ τ} {S : σ → τ → Prop} (hC : C.Over S)
  {serve : Port η σ → ρ → Act η σ α} {serve' : Port η τ → ρ → Act η τ α}
  (hserve : ∀ inside inside', Port.Coupled C (port serve inside) (port serve' inside') →
    ∀ r, Coupled C (serve (port serve inside) r) (serve' (port serve' inside') r))
include hC hserve

theorem Host.Reaction.Matches.perform_coupled {x : Reaction η σ ρ α} {y : Reaction η τ ρ α}
    (h : Matches S x y) : Coupled C (x.perform serve) (y.perform serve') := by
  induction h with
  | reply h => exact fun w w' hw => ⟨rfl, .inr trivial, hC.put hw h⟩
  | panic h => exact fun w w' hw => ⟨rfl, .inr trivial, hC.put hw h⟩
  | hang h => exact fun w w' hw => ⟨rfl, .inr trivial, hC.put hw h⟩
  | @note event x y h ih => exact fun w w' hw => ih _ _ (C.logged (·.push event) hw)
  | @request r s t inside inside' resume resume' h hinside hresume ihInside ihResume =>
      intro w w' hw
      have hp : Port.Coupled C (port serve inside) (port serve' inside') :=
        fun host c v v' hv => ihInside host c _ _ (hC.host hv) v v' hv
      rw [perform_request, perform_request]
      exact (hserve _ _ hp r).bind (fun a v v' hv => ihResume a _ _ (hC.host hv) v v' hv)
        _ _ (hC.put hw h)

theorem port_matches {roster : Host.Roster η σ ρ α} {roster' : Host.Roster η τ ρ α}
    (h : ∀ host c s t, S s t → (roster host c s).Matches S (roster' host c t)) :
    Port.Coupled C (port serve roster) (port serve' roster') :=
  fun host c w w' hw => (h host c _ _ (hC.host hw)).perform_coupled hC hserve w w' hw

end Matches

/-! ## Something carried along -/

/-- What is carried may be any that `A` allows. -/
theorem Host.Reaction.carry_matches {A : L → Prop} (x : Reaction η σ ρ α) {a : L} (ha : A a) :
    x.Matches (fun s t => s = t.1 ∧ A t.2) (x.carry a) := by
  induction x generalizing a with
  | reply answer s => exact .reply ⟨rfl, ha⟩
  | panic payload s => exact .panic ⟨rfl, ha⟩
  | hang s => exact .hang ⟨rfl, ha⟩
  | note event next ih => exact .note (ih ha)
  | request r s inside resume ihInside ihResume =>
      refine .request ⟨rfl, ha⟩ ?_ ?_
      · rintro host c _ t ⟨rfl, ht⟩
        exact ihInside host c t.1 ht
      · rintro x _ t ⟨rfl, ht⟩
        exact ihResume x t.1 ht

/-- A run beside the same run with something carried along. -/
def Coupling.carried (η σ L : Type) : Coupling η σ (σ × L) :=
  .ofHosts η fun s t => s = t.1

/-! ## Lists of calls -/

theorem Port.noting_coupled (p : Port η σ) :
    Port.Coupled (.carried η σ (List Call)) p p.noting := by
  rintro h c ⟨host, link, trap, log, engines⟩ ⟨host', link', trap', log', engines'⟩
    ⟨hhost, hlink, htrap, hlog, hengines⟩
  dsimp only at hhost hlink htrap hlog hengines
  subst hhost hlink htrap hlog hengines
  exact ⟨rfl, .inl trivial, rfl, rfl, rfl, rfl, rfl⟩

theorem Port.noting_shifted (p : Port η σ) (l : List Call) :
    Port.Coupled (.ofHosts η fun s t => t = (s.1, l ++ s.2)) p.noting p.noting := by
  rintro h c ⟨host, link, trap, log, engines⟩ ⟨host', link', trap', log', engines'⟩
    ⟨hhost, hlink, htrap, hlog, hengines⟩
  dsimp only at hhost hlink htrap hlog hengines
  subst hhost hlink htrap hlog hengines
  exact ⟨rfl, .inl trivial, by simp [noting], rfl, rfl, rfl, rfl⟩

theorem Port.noting_steady {p : Port η σ} (hp : p.Steady) : p.noting.Steady := by
  intro host c w hw
  obtain ⟨-, hstay⟩ := hp host c { w with host := w.host.1 } hw
  exact ⟨rfl, hstay.lasts, hstay.link, hstay.trap⟩

/-- A world in whose host state these calls are listed. -/
def World.listing (w : World η σ) (cs : List Call) : World η (σ × List Call) :=
  { w with host := (w.host, cs) }

theorem World.listing_inj {w w' : World η σ} {cs cs' : List Call}
    (h : w.listing cs = w'.listing cs') : w = w' ∧ cs = cs' := by
  obtain ⟨host, link, trap, log, engines⟩ := w
  obtain ⟨host', link', trap', log', engines'⟩ := w'
  simp only [listing, World.mk.injEq, Prod.mk.injEq] at h
  obtain ⟨⟨rfl, rfl⟩, rfl, rfl, rfl, rfl⟩ := h
  exact ⟨rfl, rfl⟩

/-- The second action does what the first does, and lists the calls of its
moments behind those that are listed already. -/
def Watched.Lists {μ : Type} (calls : μ → List Call) (x : Watched μ η σ α)
    (y : Act η (σ × List Call) α) : Prop :=
  ∀ w cs, y (w.listing cs) = ((x w).1.1, (x w).1.2.listing (cs ++ (x w).2.flatMap calls))

namespace Watched.Lists

variable {μ : Type} {calls : μ → List Call}

theorem bind {x : Watched μ η σ α} {y : Act η (σ × List Call) α} {f : α → Watched μ η σ β}
    {g : α → Act η (σ × List Call) β} (h : Lists calls x y)
    (hf : ∀ a, Lists calls (f a) (g a)) : Lists calls (x >>= f) (y >>= g) := by
  intro w cs
  show Act.bind y g _ = _
  unfold Act.bind
  rw [h w cs]
  rcases (x w).1.1.done_or_broken with ⟨a, hx⟩ | ⟨b, hx⟩
  · rw [Watched.bind_of_done f hx, hx]
    dsimp only
    rw [hf a (x w).1.2, List.flatMap_append, List.append_assoc]
  · rw [Watched.bind_of_broken f hx, hx]
    rcases b with ⟨⟨⟩⟩ | _ | _ | _ | _ <;> rfl

/-- An action that calls no host. -/
theorem of {x : Act η σ α} {y : Act η (σ × List Call) α} {ms : World η σ → List μ}
    (hms : ∀ w, (ms w).flatMap calls = [])
    (h : ∀ w cs, y (w.listing cs) = ((x w).1, (x w).2.listing cs)) :
    Lists calls (Watched.of x ms) y := by
  intro w cs
  show _ = ((x w).1, (x w).2.listing (cs ++ (ms w).flatMap calls))
  rw [h w cs, hms w, List.append_nil]

theorem pure (a : α) :
    Lists calls (Pure.pure a : Watched μ η σ α) (Pure.pure a : Act η (σ × List Call) α) :=
  of (fun _ => rfl) fun _ _ => rfl

theorem proceed {ε : Type} {x : Watched μ η σ (Except ε α)}
    {y : Act η (σ × List Call) (Except ε α)} {f : α → Watched μ η σ (Except ε β)}
    {g : α → Act η (σ × List Call) (Except ε β)} (h : Lists calls x y)
    (hf : ∀ a, Lists calls (f a) (g a)) : Lists calls (x.proceed f) (y.proceed g) := by
  refine h.bind ?_
  rintro (e | a)
  · exact pure _
  · exact hf a

theorem catching {x : Watched μ η σ α} {y : Act η (σ × List Call) α} (h : Lists calls x y) :
    Lists calls (x.around Act.catching) y.catching := by
  intro w cs
  show y.catching _ = ((x.act.catching w).1, (x.act.catching w).2.listing _)
  unfold Act.catching
  rw [h w cs, show x.act w = (x w).1 from rfl]
  rcases (x w).1 with ⟨_ | _ | _ | _ | _, w'⟩ <;> rfl

theorem afterwards {x : Watched μ η σ α} {y : Act η (σ × List Call) α} (h : Lists calls x y)
    {f : World η σ → World η σ} {g : World η (σ × List Call) → World η (σ × List Call)}
    (hfg : ∀ w cs, g (w.listing cs) = (f w).listing cs) :
    Lists calls (x.around fun x => x.afterwards f) (y.afterwards g) := by
  intro w cs
  show y.afterwards g _ = ((x.act.afterwards f w).1, (x.act.afterwards f w).2.listing _)
  unfold Act.afterwards
  rw [h w cs, show x.act w = (x w).1 from rfl]
  rcases (x w).1 with ⟨_ | _ | _ | _ | _, w'⟩
  case killed => rfl
  all_goals exact Prod.ext rfl (hfg w' _)

/-- If the two do the same, only the list is left to look at. -/
theorem of_coupled {x : Act η σ α} {y : Act η (σ × List Call) α} {ms : World η σ → List μ}
    (hxy : Coupled (.carried η σ (List Call)) x y)
    (hlist : ∀ w cs, (y (w.listing cs)).2.host.2 = cs ++ (ms w).flatMap calls) :
    Lists calls (Watched.of x ms) y := by
  intro w cs
  obtain ⟨hexit, -, hhost, hlink, htrap, hlog, hengines⟩ :=
    hxy w (w.listing cs) ⟨rfl, rfl, rfl, rfl, rfl⟩
  refine Prod.ext hexit.symm ?_
  show _ = World.mk _ _ _ _ _
  rw [World.mk.injEq]
  exact ⟨Prod.ext hhost.symm (hlist w cs), hlink.symm, htrap.symm, hlog.symm, hengines.symm⟩

end Watched.Lists

end DecBridge
