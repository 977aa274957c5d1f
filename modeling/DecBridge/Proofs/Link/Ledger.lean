import DecBridge.Link.Course

/-!
# The ledger of a link

What a link should do, kept apart from how it does it. A ledger lists the
hosts that were ever put in charge, so that guard `g` belongs to the host at
place `g`, and says which guard is held now. An event of the link is legal or
not by the ledger alone (`LinkEvent.Legal`), and `Ledger.record` is the ledger
after it.

`Link.Shows` says that a link is in the state which a ledger describes, and
`Kept` that a list of events, each with the link as it was then, follows the
rules from one ledger to another.
-/

namespace DecBridge

/-- The hosts that guards were handed out for, in that order, and the guard
that is held. -/
structure Ledger (η : Type) where
  granted : List η := []
  held : Option Nat := none

variable {η : Type}

namespace Ledger

/-- The host of the guard that is held. -/
def holder (k : Ledger η) : Option η := k.held.bind fun g => k.granted[g]?

def record (k : Ledger η) : LinkEvent η → Ledger η
  | .attached guard host => ⟨k.granted ++ [host], some guard⟩
  | .released _ => { k with held := none }
  | _ => k

/-- The ledger after steps of a link. -/
def after (k : Ledger η) (steps : List (LinkStep η)) : Ledger η :=
  steps.foldl (fun k s => k.record s.event) k

end Ledger

/-- What may happen at a link. A new guard has a new number. -/
def LinkEvent.Legal (k : Ledger η) : LinkEvent η → Prop
  | .attached guard _ => k.held = none ∧ guard = k.granted.length
  | .refused _ => k.held ≠ none
  | .released guard => k.held = some guard
  | .ignored guard => k.held ≠ some guard
  | .reached host _ => k.holder = some host
  | .missed _ => k.held = none

/-- A link in the state that a ledger describes. -/
structure Link.Shows (l : Link η) (k : Ledger η) : Prop where
  issued : l.issued = k.granted.length
  live : l.live = k.held.toList
  slot : l.slot = k.holder
  granted : ∀ g, k.held = some g → g < k.granted.length

namespace Link.Shows

variable {l : Link η} {k : Ledger η}

theorem empty : ({} : Link η).Shows {} := ⟨rfl, rfl, rfl, fun _ h => nomatch h⟩

theorem slot_eq_none_iff (h : l.Shows k) : l.slot = none ↔ k.held = none := by
  rw [h.slot]
  unfold Ledger.holder
  cases hg : k.held with
  | none => simp
  | some g => simp [h.granted g hg]

theorem live_eq_nil_iff (h : l.Shows k) : l.live = [] ↔ k.held = none := by
  rw [h.live]
  cases k.held <;> simp

theorem contains_iff (h : l.Shows k) (g : Nat) :
    l.live.contains g = true ↔ k.held = some g := by
  rw [h.live]
  cases k.held with
  | none => simp
  | some g' =>
      simp only [Option.toList_some, List.contains_iff_mem, List.mem_singleton,
        Option.some.injEq]
      exact eq_comm

theorem slot_cases (h : l.Shows k) :
    (l.slot = none ∧ k.held = none) ∨
      ∃ g host, l.slot = some host ∧ k.held = some g ∧ k.granted[g]? = some host := by
  cases hg : k.held with
  | none => exact .inl ⟨h.slot_eq_none_iff.mpr hg, rfl⟩
  | some g =>
      have hlt := h.granted g hg
      refine .inr ⟨g, k.granted[g], ?_, rfl, List.getElem?_eq_getElem hlt⟩
      rw [h.slot, Ledger.holder, hg]
      exact List.getElem?_eq_getElem hlt

end Link.Shows

/-! ## Books -/

/-- The steps follow the rules from one ledger to another, and each link is in
the state that the ledger then describes. -/
inductive Kept : Ledger η → List (LinkStep η) → Ledger η → Prop where
  | nil (k : Ledger η) : Kept k [] k
  | cons {k k' : Ledger η} {s : LinkStep η} {steps : List (LinkStep η)}
      (legal : s.event.Legal k) (shows_ : s.link.Shows (k.record s.event))
      (rest : Kept (k.record s.event) steps k') : Kept k (s :: steps) k'

namespace Kept

variable {k k' k'' : Ledger η} {s : LinkStep η} {xs ys : List (LinkStep η)}

theorem single (legal : s.event.Legal k) (hs : s.link.Shows (k.record s.event)) :
    Kept k [s] (k.record s.event) :=
  .cons legal hs (.nil _)

theorem append (hx : Kept k xs k') (hy : Kept k' ys k'') : Kept k (xs ++ ys) k'' := by
  induction hx with
  | nil k => exact hy
  | cons legal hs _ ih => exact .cons legal hs (ih hy)

/-- Every step is legal by the steps before it. -/
theorem step (h : Kept k xs k') {pre post : List (LinkStep η)}
    (hxs : xs = pre ++ s :: post) :
    s.event.Legal (k.after pre) ∧ s.link.Shows (k.after (pre ++ [s])) := by
  induction pre generalizing k xs with
  | nil =>
      subst hxs
      cases h with
      | cons legal hs _ => exact ⟨legal, hs⟩
  | cons x pre ih =>
      subst hxs
      cases h with
      | cons _ _ rest => exact ih rest rfl

/-- The steps up to any of them follow the rules. -/
theorem upTo (h : Kept k xs k') {pre post : List (LinkStep η)}
    (hxs : xs = pre ++ s :: post) : Kept k (pre ++ [s]) (k.after (pre ++ [s])) := by
  induction pre generalizing k xs with
  | nil =>
      subst hxs
      cases h with
      | cons legal hs _ => exact single legal hs
  | cons x pre ih =>
      subst hxs
      cases h with
      | cons legal hs rest => exact .cons legal hs (ih rest rfl)

end Kept

theorem LinkEvent.Legal.granted {k : Ledger η} {e : LinkEvent η} {g : Nat} {host : η}
    (legal : e.Legal k) (h : (k.record e).granted[g]? = some host) :
    k.granted[g]? = some host ∨ e = .attached g host := by
  cases e with
  | attached guard host' =>
      obtain ⟨-, rfl⟩ := legal
      rcases Nat.lt_trichotomy g k.granted.length with hlt | rfl | hgt
      · exact .inl (by simpa [Ledger.record, List.getElem?_append_left hlt] using h)
      · exact .inr (by simpa [Ledger.record] using h)
      · have hlen : (k.granted ++ [host']).length ≤ g := by
          rw [List.length_append]
          exact hgt
        rw [Ledger.record, List.getElem?_eq_none hlen] at h
        cases h
  | refused _ => exact .inl h
  | released _ => exact .inl h
  | ignored _ => exact .inl h
  | reached _ _ => exact .inl h
  | missed _ => exact .inl h

/-- A guard of the ledger was handed out by the attachment of its host. -/
theorem Kept.granted {k k' : Ledger η} {xs : List (LinkStep η)} (h : Kept k xs k')
    {g : Nat} {host : η} (hg : k'.granted[g]? = some host) :
    k.granted[g]? = some host ∨ ∃ s ∈ xs, s.event = .attached g host := by
  induction h with
  | nil k => exact .inl hg
  | @cons k k' s steps legal hs rest ih =>
      rcases ih hg with hk | ⟨x, hx, he⟩
      · rcases legal.granted hk with hk | he
        · exact .inl hk
        · exact .inr ⟨s, List.mem_cons_self, he⟩
      · exact .inr ⟨x, List.mem_cons_of_mem _ hx, he⟩

end DecBridge
