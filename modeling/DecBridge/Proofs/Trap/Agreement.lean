import DecBridge.Proofs.Dispatch.Books

/-!
# What the trap reports and how sessions end

The text of the trap's sink, the policy and the outcome of a session say the
same: no diagnostic and no fault, or one diagnostic with the message of the
fault, after which the policy decides (`trap_agrees`). Over any lines that are
handed to a dispatcher, also by hosts in the middle of a call, the sink holds
one diagnostic for each session that ended as faulted, in their order.
-/

namespace DecBridge

open DecBridge.Bundle (Locator)

variable {η σ : Type}

namespace Session

/-- The sink of the trap, the outcome of a session and the policy agree.

A session leaves the sink alone and does not end as faulted, or the sink grows
by the diagnostic of the session's fault, flushed once; then the outcome names
the message as it is if faults are contained, and otherwise the program ends.
Over any lines that a dispatcher gets while faults are contained, those
included that hosts hand in while they are called, the sink grows by one
diagnostic for each fault on the books, in their order. -/
theorem trap_agrees (d : Dispatcher)
    (roster : Host.Roster η σ (Dispatcher.Line η) Dispatcher.Verdict)
    (w : World η σ) (hsound : w.trap.sink.behaviour = .sound) :
    (∀ (E : Engine) (l : Locator) (o : SessionOptions) (host : η) (args : List String),
      let r := run E (d.port roster) l o host args w
      (r.2.trap.sink = w.trap.sink ∧
          (r.1 = .stalled ∨ ∃ result, r.1 = .done result ∧
            ∀ message, result ≠ .ok (.faulted message))) ∨
        ∃ message, FaultsWith E (d.port roster) l o host args w message ∧
          r.2.trap.sink = { w.trap.sink with
            text := w.trap.sink.text ++ Trap.diagnostic (some message)
            flushes := w.trap.sink.flushes + 1 } ∧
          (w.trap.policy = .contain → r.1 = .done (.ok (.faulted message))) ∧
          (w.trap.policy = .abort →
            r.1 = if w.trap.unwinds then .terminated else .killed)) ∧
      (∀ lines : List (Dispatcher.Line η), w.trap.policy = .contain →
        let r := d.dispatchAll roster lines w
        let b := d.bookAll roster lines { w with host := (w.host, []) }
        let faults := Dispatcher.faults b.2.host.2
        (b.1 = r.1 ∧ b.2.host.1 = r.2.host ∧ b.2.link = r.2.link ∧ b.2.trap = r.2.trap) ∧
          r.1.Lasts ∧
          r.2.trap.sink = { w.trap.sink with
            text := w.trap.sink.text ++
              String.join (faults.map fun message => Trap.diagnostic (some message))
            flushes := w.trap.sink.flushes + faults.length }) ∧
      ∀ message : String,
        ∃ (stem : String) (blanks : List Char), message = stem ++ String.ofList blanks ∧
          Text.Blanks blanks ∧
          (∀ c, stem.toList.getLast? = some c → Text.isBlank c = false) ∧
          Trap.diagnostic (some message) =
            "*** FATAL ERROR: " ++ (if stem = "" then "no message" else stem) ++ "\n" := by
  refine ⟨fun E l o host args => ?_, fun lines hcontain => ?_, Trap.diagnostic_spec⟩
  · have hp : (d.port roster).Steady := (d.port_alike_busy roster).left
    rcases run_untripped_or_tripped (E := E) hp l o args host w with
      ⟨htrap, hexit⟩ | ⟨message, hfault, htrap, hexit⟩
    · exact .inl ⟨congrArg Trap.sink htrap, hexit⟩
    · refine .inr ⟨message, hfault, ?_, fun h => ?_, fun h => ?_⟩
      · rw [htrap, Trap.report_of_sound hsound]
      · rw [hexit, if_pos h]
      · rw [hexit, if_neg (by rw [h]; nofun)]
  · have hcoupled := d.handleAll_coupled roster lines w { w with host := (w.host, []) }
      ⟨rfl, rfl, rfl, rfl, rfl⟩
    obtain ⟨hexit, -, hhost, hlink, htrap, -⟩ := hcoupled
    obtain ⟨hlasts, hbalanced⟩ := Dispatcher.keeps_iff.mp
      (Dispatcher.handleAll_balanced hcontain d roster lines)
      { w with host := (w.host, []) } rfl
    dsimp only
    refine ⟨⟨hexit.symm, hhost.symm, hlink.symm, htrap.symm⟩, hexit ▸ hlasts, ?_⟩
    rw [htrap, hbalanced, Trap.after_of_sound hsound]

/-- A host that asks for a session of its own before it answers a command, and panics
if it does not get one. It cannot print while that session runs. -/
def meddling : Host.Roster Unit Unit (Dispatcher.Line Unit) Dispatcher.Verdict
  | _, .cmd _, s =>
    .request ⟨(), "pdw", default⟩ s (fun _ _ s => .panic (.text "no console\n") s) fun
      | .ok _, s => .reply (.ok "") s
      | .error _, s => .panic (.text "no session") s
  | _, .print _, s => .reply (.ok "") s

/-- A script that calls its host. -/
def calling : String := "function r2dec_main() \x7b r2cmd('x'); \x7d"

/-- An update in which the host gets its session, and then a session in which it does not. -/
def meddled : List (Dispatcher.Line Unit) := [⟨(), "pdwu", default⟩, ⟨(), "pdw", alone calling⟩]

theorem bookAll_meddled :
    (roomyDispatcher.bookAll meddling meddled { idle with host := (idle.host, []) }).2.host.2 =
      [.ok (.session (.faulted "no console\n")), .ok .handled, Dispatcher.refusal,
        .ok (.session (.faulted "no session"))] := by
  have hpdw : Action.route "pdw" = some (.decompile []) := by decide +kernel
  have hpdwu : Action.route "pdwu" = some .update := by decide +kernel
  unfold Dispatcher.bookAll meddled
  simp only [Dispatcher.handleAll, Dispatcher.book, Dispatcher.dispatch, hpdw, hpdwu,
    Dispatcher.carryOut, locator_alone (d := roomyDispatcher) rfl, run, runAttached, drive, evaluate]
  rw [load_bootstrap (o := roomyDispatcher.options) rfl,
    load_entry (o := roomyDispatcher.options) rfl (by decide)]
  decide +kernel

/-- The host panics in the session that it asks for, and in the one in which it asks for
another. -/
theorem trap_agrees_meddling :
    (idle.trap.sink.behaviour = .sound ∧ idle.trap.policy = .contain) ∧
      (roomyDispatcher.bookAll meddling meddled { idle with host := (idle.host, []) }).2.host.2 =
        [.ok (.session (.faulted "no console\n")), .ok .handled, Dispatcher.refusal,
          .ok (.session (.faulted "no session"))] ∧
      (roomyDispatcher.dispatchAll meddling meddled idle).2.trap.sink.text =
        "*** FATAL ERROR: no console\n*** FATAL ERROR: no session\n" := by
  obtain ⟨-, hlines, -⟩ := trap_agrees roomyDispatcher meddling idle rfl
  obtain ⟨-, -, hsink⟩ := hlines meddled rfl
  refine ⟨⟨rfl, rfl⟩, bookAll_meddled, ?_⟩
  rw [hsink, bookAll_meddled]
  decide +kernel

end Session

end DecBridge
