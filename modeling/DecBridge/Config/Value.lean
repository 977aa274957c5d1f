import DecBridge.Decimal.Shortest
import DecBridge.Text.Quoted

/-!
# Configuration values

What a configuration file or a variable may hold before it is known which field it is for.
-/

namespace DecBridge.Config

inductive Value where
  | null
  | boolean (b : Bool)
  | integer (n : Int)
  | float (x : Float)
  | text (s : String)
  | list (items : List Value)
  | table (entries : List (String × Value))
  deriving Inhabited

/-- Names with their values. A name that stands there twice has its first value. -/
abbrev Table := List (String × Value)

namespace Value

/-- The kind of a value. -/
def kind : Value → String
  | .null => "null"
  | .boolean _ => "bool"
  | .integer _ | .float _ => "number"
  | .text _ => "string"
  | .list _ => "array"
  | .table _ => "object"

/-- A finite number with a fraction; one without a finite value is nothing at all. -/
def ofFloat (x : Float) : Value := if x.isNaN || x.isInf then .null else .float x

mutual

/-- A value in which numbers that are not finite are nothing. -/
def finite : Value → Value
  | .float x => ofFloat x
  | .list items => .list (finiteItems items)
  | .table entries => .table (finiteEntries entries)
  | v => v

def finiteItems : List Value → List Value
  | [] => []
  | v :: rest => v.finite :: finiteItems rest

def finiteEntries : List (String × Value) → List (String × Value)
  | [] => []
  | (name, v) :: rest => (name, v.finite) :: finiteEntries rest

end

/-- Fractions are written positionally up to sixteen digits before the point, and down to four zeros
behind it; an exponent has a sign. -/
def spelling : Decimal.Spelling where
  least := -4
  greatest := 16
  pointZero := true
  plus := true
  signedZero := true
  infinity := "inf"

/-- A value in a complaint about it. -/
def described : Value → String
  | .null => "null"
  | .boolean b => "boolean `" ++ (if b then "true" else "false") ++ "`"
  | .integer n => "integer `" ++ toString n ++ "`"
  | .float x => "floating point `" ++ Decimal.write spelling x ++ "`"
  | .text s => "string " ++ Text.quoted s
  | .list _ => "sequence"
  | .table _ => "map"

mutual

/-- One value over another: tables are put together name by name, and otherwise the upper one counts. -/
def above : Value → Value → Value
  | .table upper, .table lower =>
    .table (overEntries upper lower ++ lower.filter fun e => (upper.lookup e.1).isNone)
  | v, _ => v

def overEntries : List (String × Value) → List (String × Value) → List (String × Value)
  | [], _ => []
  | (name, v) :: rest, lower =>
    (name, match lower.lookup name with
      | some w => v.above w
      | none => v) :: overEntries rest lower

end

/-- Several values over each other, the upmost first. -/
def overAll? : List Value → Option Value
  | [] => none
  | v :: rest =>
    match overAll? rest with
    | some w => some (v.above w)
    | none => some v

end Value

/-- Sets a name, keeping its place if it is there already. -/
def Table.set (t : Table) (name : String) (v : Value) : Table :=
  match t with
  | [] => [(name, v)]
  | (n, x) :: rest => if n == name then (n, v) :: rest else (n, x) :: Table.set rest name v

end DecBridge.Config
