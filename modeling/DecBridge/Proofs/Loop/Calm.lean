import DecBridge.Loop

/-!
# Panics and the loop

A session stops every panic of its host (`Session.run_calm`), so the loop panics
only if a host does in a call that no session makes. With hosts that never panic
it never does (`Loop.executeAll_calm`).
-/

namespace DecBridge

open Output (Fault Sink)

/-! ## Actions that do not panic -/

namespace Act

variable {η σ α β : Type}

def Calm (x : Act η σ α) : Prop := ∀ w q, (x w).1 ≠ .panicked q

theorem Calm.pure (a : α) : Calm (Pure.pure a : Act η σ α) := by
  rintro w q ⟨⟩

theorem Calm.modify (f : World η σ → World η σ) : Calm (Act.modify f) := by
  rintro w q ⟨⟩

theorem Calm.bind {x : Act η σ α} {f : α → Act η σ β} (hx : Calm x) (hf : ∀ a, Calm (f a)) :
    Calm (x >>= f) := by
  intro w q
  have hcalm := hx w q
  show (Act.bind x f w).1 ≠ _
  unfold Act.bind
  generalize x w = r at hcalm
  rcases r with ⟨a | q' | _ | _ | _, w'⟩
  · exact hf a w' q
  · rintro ⟨⟩
    exact hcalm rfl
  · rintro ⟨⟩
  · rintro ⟨⟩
  · rintro ⟨⟩

theorem Calm.catching (x : Act η σ α) : Calm x.catching := by
  intro w q
  unfold Act.catching
  rcases x w with ⟨a | q' | _ | _ | _, w'⟩ <;> rintro ⟨⟩

theorem Calm.afterwards {x : Act η σ α} (hx : Calm x) (f : World η σ → World η σ) :
    Calm (x.afterwards f) := by
  intro w q
  have hcalm := hx w q
  unfold Act.afterwards
  generalize x w = r at hcalm
  rcases r with ⟨a | q' | _ | _ | _, w'⟩
  · rintro ⟨⟩
  · exact hcalm
  · rintro ⟨⟩
  · rintro ⟨⟩
  · rintro ⟨⟩

end Act

open Act (Calm)

section Calm

variable {η σ : Type}

theorem Trap.trip_calm (message : Option String) : Calm (Trap.trip message : Act η σ Unit) := by
  intro w q
  unfold Trap.trip
  dsimp only
  split
  · rintro ⟨⟩
  · split <;> rintro ⟨⟩

namespace Session

theorem conclude_calm (r : Except Payload (Except String SessionOutcome)) :
    Calm (conclude r : Act η σ _) := by
  have hfinish : ∀ outcome, Calm (finish outcome : Act η σ _) :=
    fun _ => (Calm.modify _).bind fun _ => Calm.pure _
  have hfault : ∀ message, Calm (fault message >>= finish : Act η σ _) :=
    fun message => Calm.bind ((Trap.trip_calm _).bind fun _ => (Calm.modify _).bind fun _ =>
      Calm.pure _) hfinish
  rcases r with payload | message | outcome
  · exact hfault _
  · exact hfault _
  · exact hfinish outcome

/-- A session stops every panic of its host. -/
theorem run_calm (E : Engine) (p : Port η σ) (l : Bundle.Locator) (o : SessionOptions) (host : η)
    (args : List String) : Calm (run E p l o host args) := by
  have hattach : Calm (Link.attach host : Act η σ _) := by
    intro w q
    unfold Link.attach
    split <;> rintro ⟨⟩
  have hnew : Calm (newEngine E o : Act η σ _) := by
    rintro w q ⟨⟩
  refine hattach.bind ?_
  rintro (e | guard)
  · exact Calm.pure _
  · refine Calm.afterwards (hnew.bind ?_) _
    rintro (reason | s)
    · exact Calm.pure _
    · exact (Calm.modify _).bind fun _ => (Calm.catching _).bind conclude_calm

end Session

variable {p : Port η σ} (hp : ∀ h c, Calm (p h c))
include hp

theorem Dispatcher.dispatch_calm (d : Dispatcher) (around : Surroundings) (host : η)
    (line : String) : Calm (d.dispatch p around host line) := by
  unfold Dispatcher.dispatch
  cases Action.route line with
  | none => exact Calm.pure _
  | some action =>
      refine (Calm.modify _).bind fun _ => ?_
      cases action with
      | configQuery => exact (hp host _).bind fun _ => Calm.pure _
      | usage => exact (hp host _).bind fun _ => Calm.pure _
      | update =>
          refine (Calm.modify _).bind fun _ => (hp host _).bind ?_
          rintro (e | output)
          · exact Calm.pure _
          · exact (hp host _).bind fun _ => Calm.pure _
      | decompile args =>
          refine (Calm.modify _).bind fun _ => (Session.run_calm d.engine p _ _ host args).bind ?_
          rintro (e | outcome)
          · exact Calm.pure _
          · exact Calm.pure _

namespace Loop

variable (out : Host.Part σ Sink) (d : Dispatcher) (around : Surroundings) (host : η)

theorem execute_calm (line : String) : Calm (execute p out d around host line) := by
  refine (d.dispatch_calm hp around host line).bind ?_
  rintro (e | dispatched)
  · exact (Calm.modify _).bind fun _ => (Calm.modify _).bind fun _ => Calm.pure _
  · have hreport : Calm (reportOutcome line dispatched : Act η σ Unit) := by
      cases dispatched with
      | session outcome =>
          cases outcome with
          | completed => exact Calm.pure _
          | _ => exact Calm.modify _
      | _ => exact Calm.pure _
    refine hreport.bind fun _ => ?_
    split
    · refine (hp host _).bind ?_
      rintro (e | text)
      · exact Calm.pure _
      · refine Calm.bind (by rintro w q ⟨⟩) ?_
        rintro (_ | fault)
        · exact Calm.pure _
        · exact Calm.pure _
    · exact Calm.pure _

theorem executeAll_calm (lines : List (Except Fault String)) :
    Calm (executeAll p out d around host lines) := by
  induction lines with
  | nil => exact Calm.pure _
  | cons line rest ih =>
      cases line with
      | error fault => exact Calm.pure _
      | ok line =>
          refine (execute_calm hp out d around host line).bind ?_
          rintro (e | _)
          · exact Calm.pure _
          · exact ih

end Loop

end Calm

end DecBridge
