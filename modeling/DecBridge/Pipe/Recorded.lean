import DecBridge.Pipe

/-!
# Recorded disassemblers

A disassembler whose banner and replies are written down beforehand. A line without a reply is
answered by a line that repeats it.
-/

namespace DecBridge

open Text (Bytes)

/-- A recorded reply: a whole one, or the beginning of one after which the process leaves. -/
inductive RecordedReply where
  | whole (bytes : Bytes)
  | cutOff (bytes : Bytes)
  deriving Inhabited

structure Recording where
  banner : Bytes := []
  /-- Whether the process gets as far as waiting for commands. -/
  ready : Bool := true
  replies : List (String × RecordedReply) := []
  standard : Option RecordedReply := none
  deriving Inhabited

namespace Recording

/-- The reply to a line. -/
def replyTo (r : Recording) (line : String) : RecordedReply :=
  ((r.replies.lookup line).or r.standard).getD (.whole (Text.encode ("out:" ++ line ++ "\n")))

/-- The recording as a process. -/
def child (r : Recording) : Child Unit where
  start := if r.ready then .waits (r.banner ++ [0]) () else .leaves r.banner
  step _ line :=
    if line == Pipe.quitCommand then .leaves []
    else
      match r.replyTo line with
      | .whole bytes => .waits (bytes ++ [0]) ()
      | .cutOff bytes => .leaves bytes

end Recording

end DecBridge
