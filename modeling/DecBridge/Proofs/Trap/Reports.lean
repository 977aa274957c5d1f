import DecBridge.Proofs.Text.Blank
import DecBridge.Trap

/-!
# What a trap reports

A report is one line for the sink. A sink either stores every line that it is
given, and is flushed after each of them, or it stores none (`Sink.emit_line`);
`Trap.told` is the trap after any number of reports, and what was said before
never matters for what is said next (`Trap.told_told`).
-/

namespace DecBridge

open Output (Sink)

/-! ## Lines for a sink -/

namespace Output.Sink

/-- Whether lines that are written to the sink are stored. A full device keeps
what is before the end of a line, but no line. -/
def stores (s : Sink) : Bool :=
  match s.behaviour with
  | .sound | .failsFlushes => true
  | .failsWrites | .full _ => false

/-- What goes wrong when a line is written and flushed. -/
def complaint (s : Sink) : Option Fault :=
  match s.behaviour with
  | .sound => none
  | .failsWrites => some (.other "sink write failed")
  | .failsFlushes => some (.other "sink flush failed")
  | .full _ => some .noSpace

/-- What is stored of some lines. -/
def stored (s : Sink) (lines : List String) : List String := if s.stores then lines else []

/-- The sink once each of these lines was written to it, and flushed if it was stored. -/
def given (s : Sink) (lines : List String) : Sink :=
  { s with
    text := s.text ++ String.join (s.stored lines)
    flushes := s.flushes + (s.stored lines).length }

@[simp] theorem stored_given (s : Sink) (lines more : List String) :
    (s.given lines).stored more = s.stored more := rfl

theorem stored_append (s : Sink) (lines more : List String) :
    s.stored (lines ++ more) = s.stored lines ++ s.stored more := by
  unfold stored
  split <;> simp

theorem given_nil (s : Sink) : s.given [] = s := by
  simp [given, stored]

theorem given_given (s : Sink) (lines more : List String) :
    (s.given lines).given more = s.given (lines ++ more) := by
  conv_lhs => rw [given, stored_given]
  simp only [given, stored_append, String.join_append, List.length_append, String.append_assoc,
    Nat.add_assoc]

/-- A line is stored and flushed, or it leaves no trace. -/
theorem emit_line (s : Sink) {text : String} (h : '\n' ∈ text.toList) :
    s.emit text = (s.complaint, s.given [text]) := by
  obtain ⟨_, _, behaviour⟩ := s
  cases behaviour with
  | sound | failsFlushes => simp [emit, write, flush, complaint, given, stored, stores]
  | failsWrites => simp [emit, write, complaint, given, stored, stores]
  | full waiting => simp [emit, write, h, complaint, given, stored, stores]

end Output.Sink

namespace Trap

/-! ## The line of a report -/

theorem newline_mem_diagnostic (message : Option String) :
    '\n' ∈ (diagnostic message).toList := by
  unfold diagnostic
  rw [String.toList_append]
  exact List.mem_append_right _ (by decide)

/-- The line that stands for a message: nothing of its trailing blanks is shown,
and something is shown if nothing is left. -/
theorem diagnostic_spec (message : String) :
    ∃ (stem : String) (blanks : List Char), message = stem ++ String.ofList blanks ∧
      Text.Blanks blanks ∧
      (∀ c, stem.toList.getLast? = some c → Text.isBlank c = false) ∧
      diagnostic (some message) =
        "*** FATAL ERROR: " ++ (if stem = "" then "no message" else stem) ++ "\n" := by
  obtain ⟨blanks, hsplit, hblanks, hlast⟩ := Text.trimEnd_spec message
  refine ⟨Text.trimEnd message, blanks, hsplit, hblanks, hlast, ?_⟩
  unfold diagnostic shownMessage
  simp only [String.isEmpty_iff]
  rfl

/-! ## The trap after reports -/

/-- What the log is told about a fault: the fault, and then why the sink failed,
if it did. -/
def noted (t : Trap) (message : Option String) : List Log.Event :=
  { level := .error, target := logTarget, message := "interpreter fault"
    fields := [("policy", .shown t.policy.name), ("message", .text (shownMessage message))] } ::
  (t.sink.complaint.map fun e =>
    { level := .error, target := logTarget, message := "failed to write fatal diagnostic"
      fields := [("error", .shown e.message)] }).toList

/-- The trap once faults with these messages were reported. -/
def told (t : Trap) (messages : List (Option String)) : Trap :=
  { t with sink := t.sink.given (messages.map diagnostic) }

@[simp] theorem told_policy (t : Trap) (messages : List (Option String)) :
    (t.told messages).policy = t.policy := rfl

@[simp] theorem told_unwinds (t : Trap) (messages : List (Option String)) :
    (t.told messages).unwinds = t.unwinds := rfl

@[simp] theorem noted_told (t : Trap) (messages : List (Option String)) :
    (t.told messages).noted = t.noted := rfl

theorem told_nil (t : Trap) : t.told [] = t := by
  unfold told
  rw [List.map_nil, Sink.given_nil]

theorem told_told (t : Trap) (messages more : List (Option String)) :
    (t.told messages).told more = t.told (messages ++ more) := by
  unfold told
  rw [Sink.given_given, List.map_append]

theorem report_eq (t : Trap) (message : Option String) :
    t.report message = (t.told [message], t.noted message) := by
  unfold report
  rw [Sink.emit_line t.sink (newline_mem_diagnostic message)]
  unfold noted told
  cases t.sink.complaint <;> rfl

end Trap

end DecBridge
