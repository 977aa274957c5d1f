import DecBridge.CommandLine.Invocation
import DecBridge.Config.Basic
import DecBridge.Config.Value
import DecBridge.Decimal.Whole

/-!
# Configuration on the command line

One flag for each field, and one more for the file to read.
-/

namespace DecBridge.Config

open CommandLine (Grammar Mistake Parsed Purpose Refusal Switch)

/-- A flag that takes a value once. -/
def flag (long : String) (short : Char) (placeholder : String)
    (refuses : String → Option Refusal) : Switch where
  long := long
  short := some short
  purpose := .value placeholder false
  refuses := refuses

def anyText (_ : String) : Option Refusal := none

/-- Says why a text is not one of the names that are known. -/
def refusesName {α : Type} (read : String → Option α) (s : String) : Option Refusal :=
  if (read s).isSome then none else some (.because "Matching variant not found")

def refusesSize (s : String) : Option Refusal :=
  match Decimal.readWord s with
  | .ok _ => none
  | .error e => some (.because e.message)

/-- The flag for the file to read. -/
def pathFlag : Switch where
  long := "config-path"
  short := none
  purpose := .value "PATH" false
  hidden := true
  refuses := CommandLine.Invocation.refusesEmpty

/-- The flags of the fields. -/
def fieldFlags : List Switch :=
  [flag "log-filter" 'l' "LOG_FILTER" anyText,
    flag "log-format" 'L' "LOG_FORMAT" (refusesName Log.Format.ofText?),
    flag "script-root" 's' "SCRIPT_ROOT" anyText,
    flag "r2-binary" 'r' "R2_BINARY" anyText,
    flag "memory-limit" 'm' "MEMORY_LIMIT" refusesSize,
    flag "max-stack-size" 'M' "MAX_STACK_SIZE" refusesSize,
    flag "fatal-policy" 'f' "FATAL_POLICY" (refusesName FatalPolicy.ofText?)]

/-- The names of the flags in a help text, one on a line. -/
def flagLines : List String :=
  let shown := (fieldFlags ++ [CommandLine.Invocation.helpSwitch]).map fun s =>
    "  -" ++ String.singleton (s.short.getD ' ') ++ ", " ++ s.shown
  let width := shown.foldl (fun n s => max n s.length) 0
  shown.map fun s => s ++ String.ofList (List.replicate (width + 2 - s.length) ' ')

/-- The help about the flags. -/
def flagHelp : String :=
  "CLI parser struct generated by `OrthoConfig` for `Config`\n\nUsage: pdw [OPTIONS]\n\nOptions:\n" ++ "\n".intercalate flagLines ++ "Print help\n"

def grammar : Grammar where
  program := "pdw"
  switches := fieldFlags ++ [pathFlag, CommandLine.Invocation.helpSwitch]
  operand := none
  summary := flagHelp
  help := flagHelp
  version := ""

/-- The layer of the flags. -/
def ofFlags (p : Parsed) : Table :=
  let text (field long : String) : Table :=
    (p.value? long).toList.map fun v => (field, .text v)
  let name {α : Type} (field long : String) (read : String → Option α) (write : α → String) : Table :=
    ((p.value? long).bind read).toList.map fun a => (field, .text (write a))
  let size (field long : String) : Table :=
    ((p.value? long).bind fun v => (Decimal.readWord v).toOption).toList.map fun n =>
      (field, .integer (Int.ofNat n))
  text "log_filter" "log-filter" ++ name "log_format" "log-format" Log.Format.ofText? Log.Format.name
    ++ text "script_root" "script-root" ++ text "r2_binary" "r2-binary"
    ++ size "memory_limit" "memory-limit" ++ size "max_stack_size" "max-stack-size"
    ++ name "fatal_policy" "fatal-policy" FatalPolicy.ofText? FatalPolicy.name

/-- The file that the flags name. -/
def pathOfFlags? (p : Parsed) : Option String := p.value? pathFlag.long

end DecBridge.Config
