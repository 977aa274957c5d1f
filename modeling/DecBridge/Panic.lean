/-!
# Panics

A panic unwinds out of whatever was under way and carries a payload.
-/

namespace DecBridge

/-- What a panic carries: a text, or something that is none. -/
inductive Payload where
  | text (s : String)
  | other
  deriving DecidableEq, Inhabited, Repr

end DecBridge
