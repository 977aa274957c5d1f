import DecBridge.Output.Fault

/-!
# Sinks

Where text is written to: what was stored so far and how often a flush was tried. A sink may refuse
every write or every flush, or be a full device, which keeps an unfinished line in front of it and
fails as soon as anything has to reach it.
-/

namespace DecBridge.Output

/-- What a sink does with what it is given. -/
inductive Behaviour where
  | sound
  | failsWrites
  | failsFlushes
  /-- A full device; `waiting` says that an unfinished line is kept in front of it. -/
  | full (waiting : Bool)
  deriving DecidableEq, Inhabited, Repr

structure Sink where
  text : String := ""
  flushes : Nat := 0
  behaviour : Behaviour := .sound
  deriving DecidableEq, Inhabited, Repr

namespace Sink

/-- Writes a text. -/
def write (s : Sink) (text : String) : Option Fault × Sink :=
  match s.behaviour with
  | .failsWrites => (some (.other "sink write failed"), s)
  | .full waiting =>
    if text.toList.contains '\n' then (some .noSpace, s)
    else (none, { s with behaviour := .full (waiting || !text.isEmpty) })
  | _ => (none, { s with text := s.text ++ text })

/-- Asks for everything to be passed on. -/
def flush (s : Sink) : Option Fault × Sink :=
  let s := { s with flushes := s.flushes + 1 }
  match s.behaviour with
  | .failsFlushes => (some (.other "sink flush failed"), s)
  | .full true => (some .noSpace, s)
  | _ => (none, s)

/-- Writes a text and flushes it; a failed write is not followed by a flush. -/
def emit (s : Sink) (text : String) : Option Fault × Sink :=
  match s.write text with
  | (some fault, s) => (some fault, s)
  | (none, s) => s.flush

/-! ## Sound sinks -/

section Sound

variable {s : Sink} (h : s.behaviour = .sound)
include h

theorem write_of_sound (text : String) :
    s.write text = (none, { s with text := s.text ++ text }) := by
  unfold write
  rw [h]

theorem emit_of_sound (text : String) :
    s.emit text = (none, { s with text := s.text ++ text, flushes := s.flushes + 1 }) := by
  unfold emit
  rw [write_of_sound h]
  unfold flush
  simp only [h]

end Sound

end Sink

end DecBridge.Output
