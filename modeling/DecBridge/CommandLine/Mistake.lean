import DecBridge.CommandLine.Grammar

/-!
# Mistakes on a command line

Why a command line was not accepted, and the text that says so. Asking for help or for the version is
such a reason too, with a text of its own.
-/

namespace DecBridge.CommandLine

/-- A way out that is offered. -/
inductive Tip where
  /-- Another name is close to the one that was given. -/
  | similar (long : String)
  /-- A value that looks like a switch may stand behind two dashes. -/
  | escape (argument : String)
  deriving DecidableEq, Inhabited, Repr

/-- Which usage is shown. -/
inductive Usage where
  | full
  /-- With the switches that were used. -/
  | used (longs : List String)
  /-- With one switch beside all other arguments. -/
  | beside (long : String)
  deriving DecidableEq, Inhabited, Repr

inductive Mistake where
  | missingValue (owner : String)
  | invalidValue (value owner reason : String)
  | repeated (owner : String)
  | unknown (argument : String) (tip : Option Tip) (usage : Usage)
  | unneededValue (value owner : String) (usage : Usage)
  | missingOperand (shown : String) (usage : Usage)
  | help (long : Bool)
  | version
  deriving DecidableEq, Inhabited, Repr

namespace Mistake

/-- What kind of mistake it is, in a few words; help and version are none. -/
def kind : Mistake → String
  | .missingValue _ => "one of the values isn't valid for an argument"
  | .invalidValue _ _ _ => "invalid value for one of the arguments"
  | .repeated _ => "an argument cannot be used with one or more of the other specified arguments"
  | .unknown _ _ _ => "unexpected argument found"
  | .unneededValue _ _ _ => "unexpected value for an argument found"
  | .missingOperand _ _ => "one or more required arguments were not provided"
  | .help _ | .version => ""

/-- Whether this is an answer to a question rather than a mistake. -/
def isAnswer : Mistake → Bool
  | .help _ | .version => true
  | _ => false

/-- The first paragraph of the text of a mistake. -/
def headline : Mistake → String
  | .missingValue owner => "a value is required for '" ++ owner ++ "' but none was supplied"
  | .invalidValue value owner reason =>
    "invalid value '" ++ value ++ "' for '" ++ owner ++ "': " ++ reason
  | .repeated owner => "the argument '" ++ owner ++ "' cannot be used multiple times"
  | .unknown argument _ _ => "unexpected argument '" ++ argument ++ "' found"
  | .unneededValue value owner _ =>
    "unexpected value '" ++ value ++ "' for '" ++ owner ++ "' found; no more were expected"
  | .missingOperand shown _ =>
    "the following required arguments were not provided:\n  " ++ shown
  | .help _ | .version => ""

def tip? : Mistake → Option Tip
  | .unknown _ tip _ => tip
  | _ => none

def usage? : Mistake → Option Usage
  | .repeated _ => some .full
  | .unknown _ _ usage | .unneededValue _ _ usage | .missingOperand _ usage => some usage
  | _ => none

end Mistake

def Tip.text : Tip → String
  | .similar long => "  tip: a similar argument exists: '--" ++ long ++ "'"
  | .escape argument => "  tip: to pass '" ++ argument ++ "' as a value, use '-- " ++ argument ++ "'"

def Usage.text (g : Grammar) : Usage → String
  | .full => g.usage
  | .used longs => g.usageWith longs
  | .beside long => g.usageBeside long

/-- The text of a mistake. -/
def Mistake.message (g : Grammar) : Mistake → String
  | .help long => if long then g.help else g.summary
  | .version => g.version
  | m =>
    let paragraphs := ["error: " ++ m.headline] ++ m.tip?.toList.map Tip.text
      ++ m.usage?.toList.map (Usage.text g) ++ ["For more information, try '--help'."]
    "\n\n".intercalate paragraphs ++ "\n"

end DecBridge.CommandLine
