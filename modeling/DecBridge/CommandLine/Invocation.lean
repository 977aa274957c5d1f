import DecBridge.CommandLine.Reading

/-!
# The command line of the program

The binary to open, and commands to run instead of those on standard input.
-/

namespace DecBridge.CommandLine

/-- What the program is asked to do. -/
structure Invocation where
  binary : String
  commands : List String
  deriving DecidableEq, Inhabited, Repr

namespace Invocation

def commandSwitch : Switch where
  long := "command"
  short := some 'c'
  purpose := .value "COMMAND" true

def helpSwitch : Switch where
  long := "help"
  short := some 'h'
  purpose := .help

def versionSwitch : Switch where
  long := "version"
  short := some 'V'
  purpose := .version

/-- A path may not be empty. -/
def refusesEmpty (value : String) : Option Refusal := if value.isEmpty then some .empty else none

def binaryOperand : Operand where
  placeholder := "BINARY"
  refuses := refusesEmpty

/-- The short help. -/
def summary : String :=
  "Runs r2dec decompiler commands against a radare2 session\n" ++
  "\n" ++
  "Usage: pdw [OPTIONS] <BINARY>\n" ++
  "\n" ++
  "Arguments:\n" ++
  "  <BINARY>  Binary to open in the disassembler\n" ++
  "\n" ++
  "Options:\n" ++
  "  -c, --command <COMMAND>  Command to run instead of reading standard input; may be repeated\n" ++
  "  -h, --help               Print help (see more with '--help')\n" ++
  "  -V, --version            Print version\n"

/-- The long help. -/
def help : String :=
  "Runs r2dec decompiler commands against a radare2 session.\n" ++
  "\n" ++
  "Configuration flags (`--log-filter`, `--script-root`, ...) must precede the binary.\n" ++
  "\n" ++
  "Usage: pdw [OPTIONS] <BINARY>\n" ++
  "\n" ++
  "Arguments:\n" ++
  "  <BINARY>\n" ++
  "          Binary to open in the disassembler\n" ++
  "\n" ++
  "Options:\n" ++
  "  -c, --command <COMMAND>\n" ++
  "          Command to run instead of reading standard input; may be repeated\n" ++
  "\n" ++
  "  -h, --help\n" ++
  "          Print help (see a summary with '-h')\n" ++
  "\n" ++
  "  -V, --version\n" ++
  "          Print version\n"

def version : String := "pdw 0.1.0\n"

def grammar : Grammar where
  program := "pdw"
  switches := [commandSwitch, helpSwitch, versionSwitch]
  operand := some binaryOperand
  summary := summary
  help := help
  version := version

/-- Reads a command line, program name first. -/
def read (arguments : List String) : Except Mistake Invocation := do
  let parsed ← grammar.read arguments.tail
  return ⟨parsed.operand.getD "", parsed.values commandSwitch.long⟩

end Invocation

end DecBridge.CommandLine
