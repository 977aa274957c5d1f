import DecBridge.Log.Event
import DecBridge.Output.Sink
import DecBridge.Text.Blank
import DecBridge.Text.Words

/-!
# The fatal trap

The last resort when the script engine can no longer be trusted: one diagnostic is written and
flushed, and then, depending on the policy, the program ends or only the invocation is given up. A
sink that fails is reported to the log and never to the caller.
-/

namespace DecBridge

open Output (Sink)

/-- What happens after a fault was reported. -/
inductive FatalPolicy where
  | abort
  | contain
  deriving DecidableEq, Inhabited, Repr

namespace FatalPolicy

def name : FatalPolicy → String
  | .abort => "abort"
  | .contain => "contain"

/-- The policy with its constructor's name. -/
def shown : FatalPolicy → String
  | .abort => "Abort"
  | .contain => "Contain"

/-- Reads a policy, whatever the case of its letters. -/
def ofText? (s : String) : Option FatalPolicy :=
  [FatalPolicy.abort, .contain].find? fun p => p.name == Text.lower s

end FatalPolicy

/-- The trap: its policy, where it writes, and whether ending the program unwinds what is under
way. -/
structure Trap where
  policy : FatalPolicy
  sink : Sink
  unwinds : Bool := false
  deriving DecidableEq, Inhabited, Repr

namespace Trap

/-- Stands for a message that is absent or blank. -/
def noMessage : String := "no message"

/-- What is shown of a message: nothing of its trailing blanks. -/
def shownMessage : Option String → String
  | none => noMessage
  | some m =>
    let t := Text.trimEnd m
    if t.isEmpty then noMessage else t

/-- The line that is written for a fault. -/
def diagnostic (message : Option String) : String :=
  "*** FATAL ERROR: " ++ shownMessage message ++ "\n"

def logTarget : String := "pdw_runtime::fatal"

/-- Writes the diagnostic; yields the trap afterwards and what was reported to the log. -/
def report (t : Trap) (message : Option String) : Trap × List Log.Event :=
  let fault : Log.Event :=
    { level := .error, target := logTarget, message := "interpreter fault"
      fields := [("policy", .shown t.policy.name), ("message", .text (shownMessage message))] }
  match t.sink.emit (diagnostic message) with
  | (none, sink) => ({ t with sink }, [fault])
  | (some e, sink) =>
    let failed : Log.Event :=
      { level := .error, target := logTarget, message := "failed to write fatal diagnostic"
        fields := [("error", .shown e.message)] }
    ({ t with sink }, [fault, failed])

/-- Whether a trap that was tripped ends the program. -/
def terminates (t : Trap) : Bool := t.policy == .abort

/-- The trap as a record. -/
def shown (t : Trap) : String := "FatalErrorTrap \x7b policy: " ++ t.policy.shown ++ ", .. \x7d"

end Trap

end DecBridge
