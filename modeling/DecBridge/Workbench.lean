import DecBridge.Pipe
import DecBridge.Settings.Overlay
import DecBridge.World

/-!
# The workbench

The host of a running program: a disassembler behind its pipe, with the plugin's settings in front of
it. What it prints goes to the program's own output.
-/

namespace DecBridge

open Host (Part Roster)

structure Workbench (γ : Type) where
  pipe : Pipe γ
  settings : Settings := {}

namespace Workbench

variable {γ : Type}

def pipePart : Part (Workbench γ) (Pipe γ) where
  get w := w.pipe
  put p w := { w with pipe := p }

def settingsPart : Part (Workbench γ) Settings where
  get w := w.settings
  put s w := { w with settings := s }

/-- The output that the program and its host share. -/
def outputPart : Part (Workbench γ) Output.Sink where
  get w := w.pipe.console
  put s w := { w with pipe := { w.pipe with console := s } }

/-- How the host behaves. It is the only one, and it never calls back. -/
def roster (c : Child γ) : Roster Unit (Workbench γ) Empty Empty :=
  fun _ => Settings.overlay settingsPart (Pipe.react c pipePart)

/-- The port of the host. -/
def port (c : Child γ) : Port Unit (Workbench γ) :=
  DecBridge.port (fun _ r => nomatch r) (roster c)

end Workbench

end DecBridge
