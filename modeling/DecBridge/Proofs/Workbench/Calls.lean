import DecBridge.Proofs.World.Attached
import DecBridge.Workbench

/-!
# Calls of the workbench

A call of the workbench is answered or waits for ever; it never panics, and it
leaves the link and the trap alone. A command does not touch the console, and a
text that is printed goes there (`port_spec`).
-/

namespace DecBridge

open Host (Call HostError Reaction)

theorem Host.Reaction.perform_notes {η σ ρ α : Type} (serve : Port η σ → ρ → Act η σ α)
    (events : List Log.Event) (next : Reaction η σ ρ α) (w : World η σ) :
    (Reaction.notes events next).perform serve w =
      next.perform serve { w with log := w.log ++ events.toArray } := by
  induction events generalizing w with
  | nil => simp [Reaction.notes]
  | cons event events ih =>
      show (Reaction.notes events next).perform serve _ = _
      rw [ih]
      simp

/-! ## The overlay -/

namespace Settings

section

variable {η σ ρ α : Type} (part : Host.Part σ Settings) (inner : Call → σ → Reaction η σ ρ α)
  {text : String}

theorem overlay_recognised {x : SettingsCommand} (h : SettingsCommand.parse text = some x)
    (s : σ) :
    overlay part inner (.cmd text) s = .notes ((part.get s).event? x).toList
      (.reply (.ok ((part.get s).output x)) (part.put ((part.get s).after x) s)) := by
  rw [overlay, h]
  dsimp only
  cases (part.get s).event? x with
  | none => rfl
  | some event => rfl

theorem overlay_passed (h : SettingsCommand.parse text = none) (s : σ) :
    overlay part inner (.cmd text) s = inner (.cmd text) s := by
  rw [overlay, h]

end

end Settings

/-! ## The console of a pipe -/

namespace Pipe

variable {γ : Type} (c : Child γ)

theorem send_console (line : String) (p : Pipe γ) : (p.send c line).2.console = p.console := by
  unfold send
  split <;> rfl

theorem read_console (p : Pipe γ) : p.read.2.console = p.console := by
  unfold read
  split
  · rfl
  · split <;> rfl

theorem exchange_console (line : String) (p : Pipe γ) :
    (p.exchange c line).2.1.console = p.console := by
  have hsend := send_console c line p
  unfold exchange
  split
  case h_1 fault p' h =>
    rw [h] at hsend
    exact hsend
  case h_2 p' h =>
    rw [h] at hsend
    have hread := read_console p'
    split
    all_goals
      rename_i hr
      rw [hr] at hread
      exact hread.trans hsend

theorem exchangeAll_console (lines : List String) (p : Pipe γ) :
    (p.exchangeAll c lines).2.1.console = p.console := by
  induction lines generalizing p with
  | nil => rfl
  | cons line rest ih =>
      have hfirst := exchange_console c line p
      rw [exchangeAll]
      generalize exchange c line p = first at hfirst
      rcases first with ⟨⟨_ | reply⟩ | _, p', events⟩
      · exact hfirst
      · have hrest := ih p'
        dsimp only
        generalize exchangeAll c rest p' = others at hrest
        rcases others with ⟨⟨_ | more⟩ | _, p'', later⟩
        · exact hrest.trans hfirst
        · exact hrest.trans hfirst
        · exact hrest.trans hfirst
      · exact hfirst

theorem print_console (text : String) (p : Pipe γ) :
    (p.print text).1.console = (p.console.emit text).2 := by
  unfold print
  rcases p.console.emit text with ⟨_ | fault, console⟩ <;> rfl

theorem settle_console (p : Pipe γ) : p.settle.1.console = p.console := by
  unfold settle
  split <;> rfl

theorem close_console (p : Pipe γ) : (p.close c).1.console = p.console := by
  have hsend := send_console c quitCommand p
  unfold close
  generalize send c quitCommand p = sent at hsend
  rcases sent with ⟨_ | fault, p'⟩
  · exact (settle_console p').trans hsend
  · exact (settle_console p').trans hsend

theorem ready_console {p p' : Pipe γ} {events : List Log.Event}
    (h : p.awaitReady c = (.ready p', events)) : p'.console = p.console := by
  have hread := read_console p
  unfold awaitReady at h
  generalize p.read = reading at hread h
  rcases reading with ⟨bytes | size | _, p''⟩
  · cases h
    exact hread
  · cases h
  · cases h

end Pipe

/-! ## The workbench -/

namespace Workbench

variable {γ : Type} {c : Child γ}

theorem roster_recognised {text : String} {x : SettingsCommand}
    (h : SettingsCommand.parse text = some x) (s : Workbench γ) :
    roster c () (.cmd text) s = .notes (s.settings.event? x).toList
      (.reply (.ok (s.settings.output x)) { s with settings := s.settings.after x }) :=
  Settings.overlay_recognised _ _ h s

theorem roster_passed {text : String} (h : SettingsCommand.parse text = none)
    (s : Workbench γ) :
    roster c () (.cmd text) s = Pipe.react c pipePart (.cmd text) s :=
  Settings.overlay_passed _ _ h s

/-- The console after a call. -/
def consoleAfter (console : Output.Sink) : Call → Output.Sink
  | .cmd _ => console
  | .print text => (console.emit text).2

/-- What a call comes to. -/
structure Serves (call : Call) (w : World Unit (Workbench γ))
    (r : Exit (Except HostError String) × World Unit (Workbench γ)) : Prop where
  exit : r.1 = .stalled ∨ ∃ answer, r.1 = .done answer
  link : r.2.link = w.link
  trap : r.2.trap = w.trap
  console : r.2.host.pipe.console = consoleAfter w.host.pipe.console call

theorem port_spec (host : Unit) (call : Call) (w : World Unit (Workbench γ)) :
    Serves call w (port c host call w) := by
  show Serves call w ((roster c () call w.host).perform _ w)
  cases call with
  | print text =>
      show Serves _ w ((Pipe.react c pipePart (.print text) w.host).perform _ w)
      rw [Pipe.react]
      dsimp only
      rw [Reaction.perform_notes]
      exact ⟨.inr ⟨_, rfl⟩, rfl, rfl, Pipe.print_console text w.host.pipe⟩
  | cmd text =>
      cases h : SettingsCommand.parse text with
      | some x =>
          rw [roster_recognised h, Reaction.perform_notes]
          exact ⟨.inr ⟨_, rfl⟩, rfl, rfl, rfl⟩
      | none =>
          have hconsole := Pipe.exchangeAll_console c (Pipe.commandLines text) w.host.pipe
          rw [roster_passed h, Pipe.react, show pipePart.get w.host = w.host.pipe from rfl,
            Pipe.cmd]
          generalize Pipe.exchangeAll c (Pipe.commandLines text) w.host.pipe = exchanged at hconsole
          rcases exchanged with ⟨answer | _, p, events⟩
          · dsimp only
            rw [Reaction.perform_notes]
            exact ⟨.inr ⟨answer, rfl⟩, rfl, rfl, hconsole⟩
          · dsimp only
            rw [Reaction.perform_notes]
            exact ⟨.inl rfl, rfl, rfl, hconsole⟩

theorem port_stays (host : Unit) (call : Call) (w : World Unit (Workbench γ)) :
    Act.Stays w (port c host call w) := by
  obtain ⟨hexit, hlink, htrap, -⟩ := port_spec (c := c) host call w
  refine ⟨?_, hlink, htrap⟩
  rcases hexit with hexit | ⟨answer, hexit⟩
  · rw [hexit]
    trivial
  · rw [hexit]
    trivial

end Workbench

end DecBridge
