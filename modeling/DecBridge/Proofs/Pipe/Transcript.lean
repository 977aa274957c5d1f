import DecBridge.Proofs.Pipe.Synchrony

/-!
# Transcripts of a pipe

What a process receives of the commands it is sent, whatever it does. `Takes`
says it of one command: all of its lines if each got a reply, and else the lines
up to the one whose reply is missing. `Transcript` says it of any commands one
after the other. Nothing is said of a process that reads no longer: a line that
is written then is lost, and so are all later ones.
-/

namespace DecBridge.Pipe

open Output (Sink)

variable {γ : Type} {c : Child γ} {p p' : Pipe γ} {lines taken : List String} {answer : Answer}

/-- Lines were sent, and the process received these of them. -/
inductive Takes (c : Child γ) (lines : List String) (p : Pipe γ) :
    List String → Answer → Pipe γ → Prop
  | all {output : String} {p' : Pipe γ} {events : List Log.Event}
      (h : exchangeAll c lines p = (.done (.ok output), p', events)) :
      Takes c lines p lines (.done (.ok output)) p'
  /-- The reply to a line was cut off, or it never comes. -/
  | upTo {before after : List String} {line output : String} {p₁ p₂ : Pipe γ}
      {events events' : List Log.Event} {answer : Answer}
      (hlines : lines = before ++ line :: after)
      (hbefore : exchangeAll c before p = (.done (.ok output), p₁, events))
      (hlast : exchange c line p₁ = (answer, p₂, events'))
      (hcut : answer = .done (.error .closed) ∨ answer = .waiting) :
      Takes c lines p (before ++ [line]) answer p₂

/-- A process received commands one after the other, and of each of them these
lines; meanwhile things were printed on the console. -/
inductive Transcript (c : Child γ) (p : Pipe γ) : List (String × List String) → Pipe γ → Prop
  | start : Transcript c p [] p
  | shown {record : List (String × List String)} {p' : Pipe γ} (console : Sink)
      (h : Transcript c p record p') : Transcript c p record { p' with console }
  | command {record : List (String × List String)} {p' p'' : Pipe γ} {text : String}
      {taken : List String} {answer : Answer} (h : Transcript c p record p')
      (htakes : Takes c (commandLines text) p' taken answer p'') :
      Transcript c p (record ++ [(text, taken)]) p''

/-! ## One line -/

theorem read_keeps (p : Pipe γ) : p.read.2.running = p.running ∧ p.read.2.sent = p.sent := by
  unfold read
  split
  · exact ⟨rfl, rfl⟩
  · split <;> exact ⟨rfl, rfl⟩

/-- A process that reads no longer is sent nothing. -/
theorem exchange_gone (h : p.running = none) (line : String) :
    exchange c line p = (.done (.error (.io .brokenPipe)), p, [sendingEvent line]) := by
  unfold exchange send
  rw [h]

theorem send_reads {g : γ} (h : p.running = some g) (line : String) :
    ∃ p', p.send c line = (none, p') ∧ p'.sent = p.sent.push line := by
  unfold send
  rw [h]
  exact ⟨_, rfl, rfl⟩

/-- A process that reads receives the line, and its reply comes or is missing. -/
theorem exchange_reads {g : γ} (h : p.running = some g) (line : String) :
    (exchange c line p).2.1.sent = p.sent.push line ∧
      ((∃ reply, (exchange c line p).1 = .done (.ok reply)) ∨
        (exchange c line p).1 = .done (.error .closed) ∨ (exchange c line p).1 = .waiting) := by
  obtain ⟨p', hsend, hsent⟩ := send_reads (c := c) h line
  obtain ⟨-, hread⟩ := p'.read_keeps
  unfold exchange
  rw [hsend, ← hsent]
  dsimp only
  generalize p'.read = r at hread
  rcases r with ⟨bytes | size | _, p''⟩
  · exact ⟨hread, .inl ⟨_, rfl⟩⟩
  · exact ⟨hread, .inr (.inl rfl)⟩
  · exact ⟨hread, .inr (.inr rfl)⟩

/-! ## The lines of a command -/

theorem exchangeAll_gone (h : p.running = none) (lines : List String) :
    (exchangeAll c lines p).2.1.running = none := by
  cases lines with
  | nil => exact h
  | cons line rest =>
      rw [exchangeAll, exchange_gone h]
      exact h

/-- The answer to lines of which the first put this out. -/
def Answer.behind (output : String) : Answer → Answer
  | .done (.ok more) => .done (.ok (output ++ more))
  | answer => answer

theorem exchangeAll_cons {line output : String} {events : List Log.Event} (rest : List String)
    (h : exchange c line p = (.done (.ok output), p', events)) :
    exchangeAll c (line :: rest) p =
      ((exchangeAll c rest p').1.behind output, (exchangeAll c rest p').2.1,
        events ++ (exchangeAll c rest p').2.2) := by
  rw [exchangeAll, h]
  dsimp only
  rcases exchangeAll c rest p' with ⟨⟨_ | more⟩ | _, p'', later⟩ <;> rfl

theorem Takes.cons {line output : String} {events : List Log.Event}
    (h : exchange c line p = (.done (.ok output), p', events)) {p'' : Pipe γ}
    (htakes : Takes c lines p' taken answer p'') :
    Takes c (line :: lines) p (line :: taken) (answer.behind output) p'' := by
  cases htakes with
  | all hall =>
      have hcons := exchangeAll_cons lines h
      rw [hall] at hcons
      exact .all hcons
  | @upTo before after last _ p₁ _ _ _ _ hlines hbefore hlast hcut =>
      have hcons := exchangeAll_cons before h
      rw [hbefore] at hcons
      have hanswer : answer.behind output = answer := by rcases hcut with rfl | rfl <;> rfl
      rw [hanswer]
      exact .upTo (by rw [hlines, List.cons_append]) hcons hlast hcut

/-- Either the process reads no longer, or it took its share of the lines. -/
theorem exchangeAll_takes (c : Child γ) (lines : List String) (p : Pipe γ) :
    (exchangeAll c lines p).2.1.running = none ∨
      ∃ taken, Takes c lines p taken (exchangeAll c lines p).1 (exchangeAll c lines p).2.1 := by
  induction lines generalizing p with
  | nil => exact .inr ⟨[], .all rfl⟩
  | cons line rest ih =>
      cases hrunning : p.running with
      | none => exact .inl (exchangeAll_gone hrunning _)
      | some g =>
          obtain ⟨-, hanswer⟩ := exchange_reads (c := c) hrunning line
          rcases hfirst : exchange c line p with ⟨answer, p', events⟩
          rw [hfirst] at hanswer
          rcases hanswer with ⟨reply, rfl⟩ | hcut
          · rw [exchangeAll_cons rest hfirst]
            rcases ih p' with hgone | ⟨taken, htakes⟩
            · exact .inl hgone
            · exact .inr ⟨_, htakes.cons hfirst⟩
          · have hstop : exchangeAll c (line :: rest) p = (answer, p', events) := by
              rw [exchangeAll, hfirst]
              rcases hcut with rfl | rfl <;> rfl
            rw [hstop]
            exact .inr ⟨_, .upTo (List.nil_append _).symm rfl hfirst hcut⟩

/-! ## What was sent -/

theorem exchange_sent {line : String} {events : List Log.Event}
    (h : exchange c line p = (answer, p', events))
    (hanswer : answer ≠ .done (.error (.io .brokenPipe))) :
    p'.sent.toList = p.sent.toList ++ [line] := by
  cases hrunning : p.running with
  | none =>
      rw [exchange_gone hrunning] at h
      cases h
      exact absurd rfl hanswer
  | some g =>
      obtain ⟨hsent, -⟩ := exchange_reads (c := c) hrunning line
      rw [h] at hsent
      rw [hsent, Array.toList_push]

theorem exchangeAll_sent {output : String} {events : List Log.Event}
    (h : exchangeAll c lines p = (.done (.ok output), p', events)) :
    p'.sent.toList = p.sent.toList ++ lines := by
  induction lines generalizing p output events with
  | nil =>
      cases h
      simp
  | cons line rest ih =>
      rcases hfirst : exchange c line p with ⟨(e | reply) | _, p₁, events₁⟩
      · rw [exchangeAll, hfirst] at h
        cases h
      · rw [exchangeAll_cons rest hfirst] at h
        have hline := exchange_sent hfirst (by simp)
        rcases hrest : exchangeAll c rest p₁ with ⟨(e | more) | _, p₂, events₂⟩
        all_goals rw [hrest] at h
        · cases h
        · cases h
          rw [ih hrest, hline, List.append_assoc]
          rfl
        · cases h
      · rw [exchangeAll, hfirst] at h
        cases h

theorem Takes.sent (h : Takes c lines p taken answer p') :
    p'.sent.toList = p.sent.toList ++ taken := by
  cases h with
  | all hall => exact exchangeAll_sent hall
  | upTo hlines hbefore hlast hcut =>
      have hlast := exchange_sent hlast (by rcases hcut with rfl | rfl <;> nofun)
      rw [hlast, exchangeAll_sent hbefore, List.append_assoc]

theorem Takes.subset (h : Takes c lines p taken answer p') : taken ⊆ lines := by
  cases h with
  | all hall => exact List.Subset.refl _
  | upTo hlines hbefore hlast hcut =>
      rw [hlines]
      simp

theorem running_of_send {line : String} (h : (p.send c line).1 = none) :
    ∃ g, p.running = some g := by
  cases hrunning : p.running with
  | none =>
      unfold send at h
      rw [hrunning] at h
      cases h
  | some g => exact ⟨g, rfl⟩

theorem close_sent {g : γ} (hrunning : p.running = some g) :
    (p.close c).1.sent.toList = p.sent.toList ++ [quitCommand] := by
  obtain ⟨p', hsend, hsent⟩ := send_reads (c := c) hrunning quitCommand
  have hsettle : p'.settle.1.sent = p'.sent := by
    unfold settle
    split <;> rfl
  unfold close
  rw [hsend]
  dsimp only
  rw [hsettle, hsent, Array.toList_push]

/-- A process that is not ready is only asked to leave. -/
theorem awaitReady_failed {e : Host.HostError} {g : γ} (hrunning : p.running = some g)
    (h : (p.awaitReady c).1 = .failed e p') :
    p'.sent.toList = p.sent.toList ++ [quitCommand] := by
  obtain ⟨hreads, hsent⟩ := p.read_keeps
  unfold awaitReady at h
  generalize p.read = r at h hreads hsent
  rcases r with ⟨bytes | size | _, p₁⟩
  · cases h
  · cases h
    have hclose : (p₁.close c).1.sent.toList = p₁.sent.toList ++ [quitCommand] :=
      close_sent (hreads.trans hrunning)
    rw [show p₁.sent = p.sent from hsent] at hclose
    exact hclose
  · cases h

theorem awaitReady_ready (h : (p.awaitReady c).1 = .ready p') : p'.sent = p.sent := by
  obtain ⟨-, hsent⟩ := p.read_keeps
  unfold awaitReady at h
  generalize p.read = r at h hsent
  rcases r with ⟨bytes | size | _, p₁⟩
  · cases h
    exact hsent
  · cases h
  · cases h

variable {record : List (String × List String)}

theorem Transcript.sent (h : Transcript c p record p') :
    p'.sent.toList = p.sent.toList ++ record.flatMap Prod.snd := by
  induction h with
  | start => simp
  | shown console h ih => exact ih
  | command h htakes ih => simp [htakes.sent, ih]

/-- No line that was received is blank, and none has a line feed in it. -/
theorem Transcript.mem_lines (h : Transcript c p record p') :
    ∀ line ∈ record.flatMap Prod.snd, '\n' ∉ line.toList ∧ Text.isBlankText line = false := by
  induction h with
  | start => exact nofun
  | shown console h ih => exact ih
  | command h htakes ih =>
      intro line hline
      rw [List.flatMap_append, List.mem_append, List.flatMap_singleton] at hline
      rcases hline with hline | hline
      · exact ih line hline
      · exact mem_commandLines (htakes.subset hline)

end DecBridge.Pipe
