import Mathlib.Data.List.Basic
import DecBridge.Dispatch.Calls
import DecBridge.Proofs.Session.Attachment

/-!
# The calls of a dispatcher

A line that asks for a session is that session, started in the world that the
announcement of the line leaves behind (`dispatch_decompile`). So its commands are
those of the scripts, and `calls_commands` says for every line which commands are
among its calls.

A session whose port leaves the link alone has its host in charge all the time, so
none of its commands is lost.
-/

namespace DecBridge

open Host (Call)

variable {η σ : Type} {p : Port η σ}

/-! ## The commands of a session -/

namespace Session

theorem Moment.calls_commands {host : η} {m : Moment η σ} (h : m.Reaches p host) :
    m.calls.filterMap Call.command? = m.command?.toList := by
  cases m with
  | callback c before result =>
      obtain ⟨hslot, -⟩ := h
      rw [calls, if_pos (isAttached_of_slot hslot)]
      cases c <;> rfl
  | console text before result =>
      obtain ⟨hslot, -⟩ := h
      rw [calls, if_pos (isAttached_of_slot hslot)]
      rfl
  | crossed exceptional => rfl
  | failed reason => rfl

/-- The commands of a session are those of its scripts. -/
theorem calls_commands (E : Engine) (hp : p.Steady) (l : Bundle.Locator) (o : SessionOptions)
    (host : η) (args : List String) (w : World η σ) :
    (calls E p l o host args w).filterMap Call.command? =
      (moments E p l o host args w).filterMap Moment.command? := by
  rw [calls_eq, List.filterMap_flatMap, List.filterMap_eq_flatMap_toList]
  cases hslot : w.link.slot with
  | some earlier => rw [moments_of_attached E (isAttached_of_slot hslot)]; rfl
  | none =>
      refine List.flatMap_congr fun m hm => ?_
      exact Moment.calls_commands (moments_reach E hp hslot l o host args m hm)

end Session

/-! ## The commands of a line -/

namespace Dispatcher

/-- A decompilation is a session that reads its scripts where the surroundings of
that moment say. -/
theorem dispatch_decompile (p : Port η σ) (d : Dispatcher) (around : Surroundings) (host : η)
    {line : String} {args : List String} (hline : Action.route line = some (.decompile args))
    (w : World η σ) :
    dispatch p d around host line w =
      let r := Session.run d.engine p (d.roots.locator around) d.options host args
        (d.atSession around line args w)
      (r.1.map verdictOn, r.2) := by
  unfold dispatch
  rw [hline]
  show Act.bind (Session.run d.engine p _ _ host args) _ (d.atSession around line args w) = _
  unfold Act.bind
  rcases Session.run d.engine p (d.roots.locator around) d.options host args _ with
    ⟨(e | outcome) | payload | _ | _ | _, w'⟩ <;> rfl

/-- The commands on the list of calls. -/
def issued (w : World η (σ × List Call)) : List String := w.host.2.filterMap Call.command?

theorem noting_issues {α : Type} (host : η) (c : Call)
    {f : Except Host.HostError String → Act η (σ × List Call) α}
    (hf : ∀ a w, issued (f a w).2 = issued w) (w : World η (σ × List Call)) :
    issued ((p.noting host c >>= f) w).2 = issued w ++ c.command?.toList := by
  have hlist : issued (p.noting host c w).2 = issued w ++ c.command?.toList := by
    show (w.host.2 ++ [c]).filterMap Call.command? = _
    rw [List.filterMap_append]
    cases c <;> rfl
  rw [Act.bind_apply]
  unfold Act.bind
  rcases hcall : p.noting host c w with ⟨_ | _ | _ | _ | _, w'⟩
  all_goals rw [hcall] at hlist
  case done => exact (hf _ _).trans hlist
  all_goals exact hlist

/-- Which commands are among the calls that handling a line makes. -/
theorem calls_commands (hp : p.Steady) (d : Dispatcher) (around : Surroundings) (host : η)
    (line : String) (w : World η σ) :
    (d.calls p around host line w).filterMap Call.command? = d.commands p around host line w := by
  unfold commands
  cases hline : Action.route line with
  | none =>
      unfold calls dispatch
      rw [hline]
      rfl
  | some action =>
      cases action with
      | decompile args =>
          refine Eq.trans ?_ (Session.calls_commands d.engine hp _ d.options host args _)
          unfold calls
          rw [dispatch_decompile p.noting d around host hline]
          rfl
      | configQuery =>
          unfold calls dispatch
          rw [hline]
          exact noting_issues host (.print _) (fun _ _ => rfl) _
      | usage =>
          unfold calls dispatch
          rw [hline]
          exact noting_issues host (.print _) (fun _ _ => rfl) _
      | update =>
          unfold calls dispatch
          rw [hline]
          refine noting_issues host (.cmd _) ?_ _
          rintro (e | output) v
          · rfl
          · refine (noting_issues host (.print output) (fun _ _ => rfl) v).trans ?_
            exact List.append_nil _

end Dispatcher

end DecBridge
