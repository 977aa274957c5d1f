import DecBridge.Config.Basic
import DecBridge.Dispatch

/-!
# Dispatchers of a configuration
-/

namespace DecBridge

/-- The options of sessions that a configuration asks for. -/
def SessionOptions.ofConfig (c : Config) : SessionOptions :=
  { limits := ⟨c.memoryLimit, c.maxStackSize⟩, policy := c.fatalPolicy }

/-- The dispatcher that a configuration asks for. -/
def Dispatcher.ofConfig (E : Engine) (c : Config) : Dispatcher :=
  { engine := E, options := .ofConfig c, roots := .environment c.scriptRoot }

/-- The trap that a configuration asks for; it writes to a sink and ends the program at once. -/
def Trap.ofConfig (c : Config) (sink : Output.Sink) : Trap := { policy := c.fatalPolicy, sink }

end DecBridge
