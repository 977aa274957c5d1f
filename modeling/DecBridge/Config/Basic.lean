import DecBridge.Log.Format
import DecBridge.Trap

/-!
# Configuration

The seven fields of the configuration and what they are when nobody says otherwise.
-/

namespace DecBridge

structure Config where
  logFilter : String := "info"
  logFormat : Log.Format := .compact
  /-- Where scripts are looked for when the environment names no place. -/
  scriptRoot : Option String := none
  /-- The disassembler to start. -/
  r2Binary : String := "r2"
  /-- Most memory of a script engine, in bytes. -/
  memoryLimit : Option Nat := none
  /-- Largest stack of a script engine, in bytes. -/
  maxStackSize : Option Nat := none
  fatalPolicy : FatalPolicy := .abort
  deriving DecidableEq, Inhabited, Repr

end DecBridge
