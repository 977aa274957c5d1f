import DecBridge.Decimal.Whole
import DecBridge.Log.Event
import DecBridge.Text.Blank
import DecBridge.Text.Letter
import DecBridge.Text.Lines
import DecBridge.Text.Utf8
import DecBridge.Text.Words

/-!
# Log filters

A filter is a list of directives, divided by commas. A directive sets the level for the events whose
target starts with a text and that have some fields. Of the directives that are about an event the
most specific one decides, and an event that no directive is about is not logged.

A directive may also name a span; since nothing here opens spans, such a directive is about no event.
-/

namespace DecBridge.Log

/-! ## Levels -/

/-- How verbose a level is. -/
def Level.rank : Level → Nat
  | .error => 1
  | .warn => 2
  | .info => 3
  | .debug => 4
  | .trace => 5

/-- The least important level that is logged; `none` means that nothing is. -/
abbrev Threshold := Option Level

def Threshold.allows (t : Threshold) (l : Level) : Bool :=
  match t with
  | none => false
  | some most => l.rank ≤ most.rank

/-- The thresholds in the order of their numbers. -/
def thresholds : List (String × Threshold) :=
  [("off", none), ("error", some .error), ("warn", some .warn), ("info", some .info),
    ("debug", some .debug), ("trace", some .trace)]

/-- Reads a threshold: a name, whatever the case of its letters, or a number. Nothing means errors
only. -/
def readThreshold? (s : String) : Option Threshold :=
  let numbered := match Decimal.readWord s with
    | .ok n => thresholds[n]?.map Prod.snd
    | .error _ => none
  match numbered with
  | some t => some t
  | none => if s.isEmpty then some (some .error) else thresholds.lookup (Text.lower s)

/-! ## Directives -/

structure Directive where
  level : Threshold := some .trace
  target : Option String := none
  /-- The span that an event has to be in. -/
  span : Option String := none
  /-- The fields that an event has to have; one with a value is about spans only. -/
  fields : List String := []
  deriving DecidableEq, Inhabited, Repr

/-- Why a filter cannot be read. -/
inductive FilterError where
  | directive
  | level
  deriving DecidableEq, Inhabited, Repr

def FilterError.message : FilterError → String
  | .directive => "invalid filter directive"
  | .level =>
    "error parsing level filter: expected one of \"off\", \"error\", \"warn\", \"info\", " ++
      "\"debug\", \"trace\", or a number 0-5"

/-- Which part of a directive is being read, with the byte that it starts at. -/
inductive Part where
  | start
  | levelOrTarget (first : Nat)
  | span (first : Nat)
  | field (first : Nat)
  | fields
  | target
  | level (first : Nat)
  deriving DecidableEq, Inhabited, Repr

/-- Whether a directive may start with a character. -/
def mayStart (c : Char) : Bool := c == '-' || c == ':' || c == '_' || Text.isLetterOrDigit c

/-- The characters of a text that start at a byte from `first` on and before `last`; `place` is the
byte that the text starts at. -/
def charsBetween (first last : Nat) : Nat → List Char → List Char
  | _, [] => []
  | place, c :: rest =>
    let others := charsBetween first last (place + c.utf8Size) rest
    if first ≤ place && place < last then c :: others else others

/-- A text from one byte up to another one. -/
def between (text : List Char) (first last : Nat) : String :=
  String.ofList (charsBetween first last 0 text)

/-- Reads one more character of a directive, which is at byte `i`. The parts of a directive are cut
from the text with its blanks, though the bytes are counted without those in front: only a directive
without blanks around it is read as it looks. -/
def readChar (text : List Char) (d : Directive) (p : Part) (i : Nat) (c : Char) :
    Except FilterError (Directive × Part) :=
  match p with
  | .start =>
    if c == '[' then .ok (d, .span (i + 1))
    else if mayStart c then .ok (d, .levelOrTarget i)
    else .error .directive
  | .levelOrTarget n =>
    if c == '=' then .ok ({ d with target := some (between text n i) }, .level (i + 1))
    else if c == '[' then .ok ({ d with target := some (between text n i) }, .span (i + 1))
    else .ok (d, p)
  | .span n =>
    let name := between text n i
    if c == ']' then .ok ({ d with span := some name }, .target)
    else if c == '\x7b' then
      .ok ({ d with span := if name.isEmpty then none else some name }, .field (i + 1))
    else .ok (d, p)
  | .field n =>
    let name := between text n i
    if c == '\x7d' then
      if name.isEmpty then .error .directive else .ok ({ d with fields := d.fields ++ [name] }, .fields)
    else .ok (d, p)
  | .fields => if c == ']' then .ok (d, .target) else .error .directive
  | .target => if c == '=' then .ok (d, .level (i + 1)) else .error .directive
  | .level _ => .ok (d, p)

/-- Reads the characters of a directive from byte `i` on. -/
def readChars (text : List Char) : Directive → Part → Nat → List Char →
    Except FilterError (Directive × Part)
  | d, p, _, [] => .ok (d, p)
  | d, p, i, c :: rest => do
    let (d, p) ← readChar text d p i c
    readChars text d p (i + c.utf8Size) rest

/-- Ends the reading of a directive. A word by itself is a level if there is one of that name, and a
target otherwise; a level that is left out is the most verbose one. -/
def finishDirective (text : List Char) (d : Directive) (p : Part) : Except FilterError Directive :=
  let onward (n : Nat) : String := between text n (Text.byteLength text)
  match p with
  | .levelOrTarget n =>
    match readThreshold? (onward n) with
    | some level => .ok { d with level }
    | none => .ok { d with target := some (onward n) }
  | .level n =>
    if (onward n).isEmpty then .ok d
    else
      match readThreshold? (onward n) with
      | some level => .ok { d with level }
      | none => .error .level
  | .target => .ok d
  | _ => .error .directive

/-- Reads a directive. -/
def readDirective (s : String) : Except FilterError Directive := do
  let (d, p) ← readChars s.toList {} .start 0 (Text.trim s).toList
  finishDirective s.toList d p

namespace Directive

/-- Whether a directive can be about events that are in no span. -/
def isStatic (d : Directive) : Bool := d.span.isNone && d.fields.all fun f => !f.toList.contains '='

/-- Whether a directive is about an event. -/
def concerns (d : Directive) (e : Event) : Bool :=
  (match d.target with
    | some t => t.toList.isPrefixOf e.target.toList
    | none => true)
  && d.fields.all fun f => f == "message" || (e.fields.lookup f).isSome

/-- Whether two directives are about the same events. -/
def sameScope (a b : Directive) : Bool := a.target == b.target && a.fields == b.fields

/-- How specific a directive is: the length of its target, then the number of its fields. -/
def specificity (d : Directive) : Nat × Nat :=
  (match d.target with
    | some t => t.utf8ByteSize + 1
    | none => 0, d.fields.length)

/-- Whether a directive goes before another one: the more specific one does, and of two that are
equally specific the one that is later in the alphabet. -/
def before (a b : Directive) : Bool :=
  let (m, n) := a.specificity
  let (p, q) := b.specificity
  let (s, t) := (a.target.getD "", b.target.getD "")
  m > p || (m == p && (n > q || (n == q && (s > t || (s == t && b.fields < a.fields)))))

end Directive

/-! ## Filters -/

/-- Directives about events, the most specific first, no two about the same events. -/
structure Filter where
  directives : List Directive
  deriving DecidableEq, Inhabited, Repr

/-- Puts a directive in its place; one about the same events is replaced. -/
def insertDirective (d : Directive) : List Directive → List Directive
  | [] => [d]
  | x :: rest =>
    if x.sameScope d then d :: rest
    else if d.before x then d :: x :: rest
    else x :: insertDirective d rest

/-- What is logged when no directive is given: errors. -/
def standardDirective : Directive := { level := some .error }

/-- Reads a filter. -/
def Filter.read (s : String) : Except FilterError Filter := do
  let texts := ((Text.cutAt ',' s.toList).map String.ofList).filter fun t => !t.isEmpty
  let directives ← texts.mapM readDirective
  let directives := if directives.isEmpty then [standardDirective] else directives
  return ⟨(directives.filter Directive.isStatic).foldl (fun ds d => insertDirective d ds) []⟩

/-- Whether an event is logged. -/
def Filter.passes (f : Filter) (e : Event) : Bool :=
  match f.directives.find? fun d => d.concerns e with
  | some d => d.level.allows e.level
  | none => false

end DecBridge.Log
