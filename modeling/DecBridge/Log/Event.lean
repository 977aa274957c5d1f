/-!
# Log events

What the parts of the program report while they work: a level, the part that reports, a message and
named fields. A field is a plain text, a number, or the shown form of some value.
-/

namespace DecBridge.Log

inductive Level where
  | error | warn | info | debug | trace
  deriving DecidableEq, Inhabited, Repr

def Level.name : Level → String
  | .error => "ERROR"
  | .warn => "WARN"
  | .info => "INFO"
  | .debug => "DEBUG"
  | .trace => "TRACE"

/-- The value of a field. -/
inductive Field where
  | text (s : String)
  | shown (s : String)
  | number (n : Nat)
  deriving DecidableEq, Inhabited, Repr

/-- The value of a field without the marks that tell its kind. -/
def Field.plain : Field → String
  | .text s | .shown s => s
  | .number n => toString n

structure Event where
  level : Level
  target : String
  message : String
  fields : List (String × Field)
  deriving DecidableEq, Inhabited, Repr

end DecBridge.Log
