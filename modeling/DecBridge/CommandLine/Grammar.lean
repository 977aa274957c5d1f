/-!
# Grammars of command lines

What a program accepts on its command line: options with long and short names, of which some take a
value, and at most one operand, which is then required.
-/

namespace DecBridge.CommandLine

/-- Why a value is not accepted. -/
inductive Refusal where
  /-- There has to be something. -/
  | empty
  | because (reason : String)
  deriving DecidableEq, Inhabited, Repr

/-- What an option is for. -/
inductive Purpose where
  /-- It takes a value; `repeats` says that it may be given more than once. -/
  | value (placeholder : String) (repeats : Bool)
  | help
  | version
  deriving DecidableEq, Inhabited, Repr

structure Switch where
  long : String
  short : Option Char
  purpose : Purpose
  /-- A hidden switch is not mentioned in usages. -/
  hidden : Bool := false
  /-- Says what is wrong with a value. -/
  refuses : String → Option Refusal := fun _ => none

namespace Switch

/-- The switch with its value. -/
def shown (s : Switch) : String :=
  match s.purpose with
  | .value placeholder _ => "--" ++ s.long ++ " <" ++ placeholder ++ ">"
  | _ => "--" ++ s.long

def takesValue (s : Switch) : Bool :=
  match s.purpose with
  | .value _ _ => true
  | _ => false

def repeats (s : Switch) : Bool :=
  match s.purpose with
  | .value _ r => r
  | _ => false

end Switch

/-- An argument that is not a switch. -/
structure Operand where
  placeholder : String
  refuses : String → Option Refusal := fun _ => none

def Operand.shown (o : Operand) : String := "<" ++ o.placeholder ++ ">"

structure Grammar where
  program : String
  switches : List Switch
  operand : Option Operand
  /-- The short and the long help. -/
  summary : String
  help : String
  version : String

namespace Grammar

def byLong? (g : Grammar) (name : String) : Option Switch := g.switches.find? (·.long == name)

def byShort? (g : Grammar) (c : Char) : Option Switch := g.switches.find? (·.short == some c)

/-- The words of a usage that are there in any case. -/
def operandWords (g : Grammar) : List String := g.operand.toList.map Operand.shown

/-- The usage of the whole program. -/
def usage (g : Grammar) : String :=
  "Usage: " ++ " ".intercalate ([g.program, "[OPTIONS]"] ++ g.operandWords)

/-- A usage that shows the switches that were used, by their long names. -/
def usageWith (g : Grammar) (used : List String) : String :=
  "Usage: " ++ " ".intercalate
    ([g.program] ++ (used.filterMap g.byLong?).map Switch.shown ++ g.operandWords)

/-- All arguments of a program as alternatives. Questions for help or the version are not among
them. -/
def alternatives (g : Grammar) : String :=
  "<" ++ "|".intercalate (g.operand.toList.map Operand.placeholder
    ++ (g.switches.filter Switch.takesValue).map Switch.shown) ++ ">"

/-- A usage that shows a switch beside the other arguments. -/
def usageBeside (g : Grammar) (long : String) : String :=
  "Usage: " ++ " ".intercalate
    ([g.program] ++ (g.byLong? long).toList.map Switch.shown ++ [g.alternatives])

end Grammar

end DecBridge.CommandLine
