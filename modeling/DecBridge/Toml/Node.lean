import DecBridge.Toml.Scalar

/-!
# Tables of a document

The tables of a document while it is read. A table may be opened once, and a name may be given a value
once; what was only implied by a longer path may still be opened.
-/

namespace DecBridge.Toml

/-- How a table came to be. -/
inductive Origin where
  /-- By the path to another table. -/
  | implied
  /-- By a heading of its own. -/
  | opened
  /-- By a dotted name. -/
  | dotted
  /-- By a value in braces. -/
  | braced
  deriving DecidableEq, Inhabited, Repr

inductive Node where
  | scalar (span : Span) (s : Scalar)
  | list (items : List Node)
  | table (origin : Origin) (entries : List (String × Node))
  /-- The tables of headings with the same name. -/
  | tables (items : List (List (String × Node)))
  deriving Inhabited

abbrev Entries := List (String × Node)

/-- A part of a name, and where it stands. -/
structure Part where
  text : String
  span : Span
  deriving DecidableEq, Inhabited, Repr

/-- Sets a name, keeping its place if it is there already. -/
def Entries.set (es : Entries) (name : String) (n : Node) : Entries :=
  match es with
  | [] => [(name, n)]
  | (m, x) :: rest => if m == name then (m, n) :: rest else (m, x) :: Entries.set rest name n

/-- Leaves out a name. -/
def Entries.without (es : Entries) (name : String) : Entries := es.filter fun e => e.1 != name

/-- Stops at a name that is taken. -/
def taken {α : Type} (p : Part) : Except Stop α := stopOver p.span "duplicate key"

/-- The kind of a scalar, in a complaint. -/
def Scalar.kind : Scalar → String
  | .text _ => "string"
  | .boolean _ => "boolean"
  | .date _ => "datetime"
  | .integer _ _ => "integer"
  | .float _ => "float"

/-- Stops at a part of a path that leads through something that cannot hold more names. -/
def noTable {α : Type} (p : Part) (kind : String) : Except Stop α :=
  stopOver p.span ("cannot extend value of type " ++ kind ++ " with a dotted key")

/-- The depth of a path that is too deep. -/
def pathLimit : Nat := 80

/-- Goes down a path and changes the entries there; tables that are missing on the way come to be with
an origin. `reach` decides on which tables may be passed. -/
def descend (reach : Part → Origin → Except Stop Unit) (origin : Origin)
    (change : Option Origin → Entries → Except Stop Entries) :
    Option Origin → List Part → Entries → Except Stop Entries
  | here, [], es => change here es
  | _, p :: rest, es =>
    match es.lookup p.text with
    | none => do
      return es ++ [(p.text, .table origin (← descend reach origin change (some origin) rest []))]
    | some (.table o inner) => do
      reach p o
      return Entries.set es p.text (.table o (← descend reach origin change (some o) rest inner))
    | some (.tables items) => do
      let last ← descend reach origin change (some .opened) rest (items.getLast?.getD [])
      return Entries.set es p.text (.tables (items.dropLast ++ [last]))
    | some (.list _) => noTable p "array"
    | some (.scalar _ s) => noTable p s.kind

/-- Goes down a path unless it is too deep. -/
def descendPath (reach : Part → Origin → Except Stop Unit) (origin : Origin)
    (change : Option Origin → Entries → Except Stop Entries) (path : List Part) (es : Entries) :
    Except Stop Entries :=
  if pathLimit ≤ path.length then .error ⟨none, "recursion limit"⟩
  else descend reach origin change none path es

/-- Which tables the path of a heading may pass. -/
def headingReach (p : Part) : Origin → Except Stop Unit
  | .braced => noTable p "inline table"
  | _ => .ok ()

/-- Which tables a dotted name may pass: those that only a path or a dotted name brought about. -/
def dottedReach (p : Part) : Origin → Except Stop Unit
  | .braced => noTable p "inline table"
  | .opened => taken p
  | _ => .ok ()

/-- Gives a name a value. What a dotted name gives goes only into a table that came to be by one. -/
def give (key : Part) (value : Node) (here : Option Origin) (es : Entries) : Except Stop Entries :=
  if here.any (· != .dotted) then taken key
  else if (es.lookup key.text).isSome then taken key
  else .ok (es ++ [(key.text, value)])

/-- Gives a dotted name a value. -/
def define (path : List Part) (key : Part) (value : Node) (es : Entries) : Except Stop Entries :=
  descendPath dottedReach .dotted (give key value) path es

end DecBridge.Toml
