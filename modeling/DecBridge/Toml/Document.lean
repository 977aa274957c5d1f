import DecBridge.Config.Value
import DecBridge.Toml.Node
import DecBridge.Toml.Outline

/-!
# Documents

A document is read in three rounds: its outline, then what its names and values say and whether its
tables fit together, and at last its numbers. What an earlier round refuses is reported before anything
that a later round would refuse.
-/

namespace DecBridge.Toml

open Config (Value Table)

/-! ## Names and values -/

/-- Reads a name: the path to a table, and the name in it. -/
def readName : List Lexeme → Except Stop (List Part × Part)
  | [] => .error ⟨none, "recursion limit"⟩
  | [l] => do return ([], ⟨← readPart l, l.span⟩)
  | l :: rest => do
    let first : Part := ⟨← readPart l, l.span⟩
    let (path, key) ← readName rest
    return (first :: path, key)

mutual

/-- Reads a value. -/
def readForm : Form → Except Stop Node
  | .scalar l => do return .scalar l.span (← readScalar l)
  | .list items => do return .list (← readItems items)
  | .table entries => do return .table .braced (← readEntries entries [])

/-- Reads the items of a list. -/
def readItems : List Form → Except Stop (List Node)
  | [] => .ok []
  | f :: rest => do
    let first ← readForm f
    let others ← readItems rest
    return first :: others

/-- Reads the entries of a table in braces, behind those that were read. -/
def readEntries : List (List Lexeme × Form) → Entries → Except Stop Entries
  | [], es => .ok es
  | (name, f) :: rest, es => do
    let (path, key) ← readName name
    let v ← readForm f
    readEntries rest (← define path key v es)

end

/-! ## Tables -/

/-- What was read of a document: the tables that are finished, and the one that assignments go to, with
the heading that it has, if any. -/
structure Draft where
  root : Entries := []
  heading : Option (Bool × List Part × Part) := none
  current : Entries := []

/-- Puts the current table where its heading says. -/
def Draft.finish (d : Draft) : Except Stop Entries :=
  match d.heading with
  | none => .ok d.current
  | some (item, path, key) =>
    let put (_ : Option Origin) (es : Entries) : Except Stop Entries :=
      if item then
        match es.lookup key.text with
        | none => .ok (es ++ [(key.text, .tables [d.current])])
        | some (.tables items) => .ok (Entries.set es key.text (.tables (items ++ [d.current])))
        | some _ => taken key
      else .ok (Entries.set es key.text (.table .opened d.current))
    descendPath headingReach .implied put path d.root

/-- The entries of a table that a heading opens: those that it has already, if it was only implied. -/
def openedEntries (key : Part) (es : Entries) : Except Stop Entries :=
  match es.lookup key.text with
  | none => .ok []
  | some (.table .implied inner) => .ok inner
  | some _ => taken key

/-- The entries at the end of a path, as far as it leads. -/
def entriesAt : List Part → Entries → Entries
  | [], es => es
  | p :: rest, es =>
    match es.lookup p.text with
    | some (.table _ inner) => entriesAt rest inner
    | some (.tables items) => entriesAt rest (items.getLast?.getD [])
    | _ => []

/-- Reads one line. -/
def Draft.add (d : Draft) : Line → Except Stop Draft
  | .heading item name => do
    let root ← d.finish
    let (path, key) ← readName name
    if item then return { root, heading := some (true, path, key), current := [] }
    else
      let root ← descendPath headingReach .implied (fun _ es => .ok es) path root
      let current ← openedEntries key (entriesAt path root)
      return { root, heading := some (false, path, key), current }
  | .assignment name form => do
    let (path, key) ← readName name
    let v ← readForm form
    return { d with current := ← define path key v d.current }

/-! ## Numbers -/

/-- A number that is not finite, with its sign. -/
def unending? (digits : List Char) : Option Float :=
  let (negative, name) := match digits with
    | '-' :: rest => (true, rest)
    | '+' :: rest => (false, rest)
    | rest => (false, rest)
  if name == "inf".toList then some (if negative then -1.0 / 0.0 else 1.0 / 0.0)
  else if name == "nan".toList then some (0.0 / 0.0)
  else none

/-- Half of the numbers of two machine words. -/
def halfDoubleWord : Nat := 0x80000000000000000000000000000000

/-- Why a whole number cannot be held. -/
def wholeProblem (n : Int) : String :=
  let wide (bits : String) : String :=
    "invalid type: integer `" ++ toString n ++ "` as " ++ bits ++ ", expected any valid TOML value"
  if 0 ≤ n && n ≤ Int.ofNat Decimal.largestWord then "u64 value was too large"
  else if -Int.ofNat halfDoubleWord ≤ n && n < Int.ofNat halfDoubleWord then wide "i128"
  else if 0 ≤ n && n < 2 * Int.ofNat halfDoubleWord then wide "u128"
  else "integer number overflowed"

/-- A whole number that fits into a machine word with a sign. -/
def wholeNumber (span : Span) (base : Nat) (digits : List Char) : Except Stop Value :=
  let (negative, ds) := match digits with
    | '-' :: rest => (true, rest)
    | '+' :: rest => (false, rest)
    | rest => (false, rest)
  if ds.isEmpty || !ds.all fun c => (hexValue? c).any (· < base) then
    stopOver span "integer number overflowed"
  else
    let n : Int := if negative then -Int.ofNat (numberIn base ds) else Int.ofNat (numberIn base ds)
    if -Int.ofNat Decimal.halfWord ≤ n && n < Int.ofNat Decimal.halfWord then .ok (.integer n)
    else stopOver span (wholeProblem n)

/-- The name under which a date stands in a table of its own. -/
def dateName : String := "$__toml_private_datetime"

/-- The value of a scalar. -/
def scalarValue (span : Span) : Scalar → Except Stop Value
  | .text s => .ok (.text s)
  | .boolean b => .ok (.boolean b)
  | .date s => .ok (.table [(dateName, .text s)])
  | .integer base digits => wholeNumber span base digits
  | .float digits =>
    match unending? digits, Decimal.readFraction? (String.ofList digits) with
    | some x, _ => .ok (.float x)
    | none, some x =>
      if x.isInf then stopOver span "floating-point number overflowed" else .ok (.float x)
    | none, none => stopOver span "floating-point number overflowed"

/-- Puts an entry where its name belongs in the alphabet. -/
def insertByName {α : Type} (e : String × α) : List (String × α) → List (String × α)
  | [] => [e]
  | f :: rest => if e.1 < f.1 then e :: f :: rest else f :: insertByName e rest

/-- Sorts entries by name. -/
def sortByName {α : Type} (es : List (String × α)) : List (String × α) :=
  es.foldl (fun sorted e => insertByName e sorted) []

/-- Keeps the first failure by the alphabet of the names. -/
def gather (es : List (String × Except Stop Value)) : Except Stop Table :=
  (sortByName es).mapM fun (name, v) => do return (name, ← v)

mutual

/-- The value of a node. -/
def Node.value : Node → Except Stop Value
  | .scalar span s => scalarValue span s
  | .list items => do return .list (← listValues items)
  | .table _ es => do return .table (← gather (entryValues es))
  | .tables items => do return .list (← tableValues items)

def listValues : List Node → Except Stop (List Value)
  | [] => .ok []
  | n :: rest => do
    let first ← n.value
    let others ← listValues rest
    return first :: others

def entryValues : List (String × Node) → List (String × Except Stop Value)
  | [] => []
  | (name, n) :: rest => (name, n.value) :: entryValues rest

def tableValues : List (List (String × Node)) → Except Stop (List Value)
  | [] => .ok []
  | es :: rest => do
    let first ← gather (entryValues es)
    let others ← tableValues rest
    return .table first :: others

end

/-! ## Reading -/

/-- A document that can be read in the newer edition: what it says, and why the older edition cannot
read it, if it cannot. -/
structure Document where
  table : Table
  lacking : Option Stop

/-- Reads a document. -/
def read (document : String) : Except Stop Document := do
  let (lines, lacking) ← outline document.toList
  let draft ← lines.foldlM Draft.add {}
  let root ← draft.finish
  return { table := ← gather (entryValues root), lacking }

end DecBridge.Toml
