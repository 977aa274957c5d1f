import DecBridge.Text.Utf8

/-!
# Child processes

A process at the other end of two streams, seen through what it writes: something before it reads
anything, and then something for each line that it reads. After each of these it waits for the next
line or leaves. It may also close its output and go on reading.
-/

namespace DecBridge

open Text (Bytes)

/-- What a process writes before it waits or leaves. -/
inductive Response (γ : Type) where
  | waits (output : Bytes) (next : γ)
  /-- It closes its output and waits for the next line all the same. -/
  | mutes (output : Bytes) (next : γ)
  | leaves (output : Bytes)

namespace Response

variable {γ : Type}

def output : Response γ → Bytes
  | .waits out _ | .mutes out _ | .leaves out => out

/-- The state of the process if it still runs. -/
def running : Response γ → Option γ
  | .waits _ next | .mutes _ next => some next
  | .leaves _ => none

/-- Whether the output ends with this. -/
def ends : Response γ → Bool
  | .waits _ _ => false
  | .mutes _ _ | .leaves _ => true

end Response

/-- How a process behaves; `γ` is what it remembers. -/
structure Child (γ : Type) where
  start : Response γ
  step : γ → String → Response γ

end DecBridge
