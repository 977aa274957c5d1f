import DecBridge.Config.Basic
import DecBridge.Config.Value

/-!
# Layers of configuration

The configuration is put together from layers, of which each may hold a value for some of the fields.
The highest layer that has a value for a field decides on it, and what lower layers hold for that
field is not even looked at, unless both are tables. Without any value a field has its default.
-/

namespace DecBridge.Config

/-! ## Reading a field off a value -/

/-- Why a value does not fit a field. -/
inductive FieldError where
  | wrongType (found : Value) (expected : String)
  | wrongValue (found : Value) (expected : String)
  | unknownName (name : String) (known : List String)
  deriving Inhabited

def FieldError.message : FieldError → String
  | .wrongType v expected => "invalid type: " ++ v.described ++ ", expected " ++ expected
  | .wrongValue v expected => "invalid value: " ++ v.described ++ ", expected " ++ expected
  | .unknownName name known =>
    "unknown variant `" ++ name ++ "`, expected "
      ++ " or ".intercalate (known.map fun k => "`" ++ k ++ "`")

/-- A text. -/
def readText (expected : String) : Value → Except FieldError String
  | .text s => .ok s
  | v => .error (.wrongType v expected)

/-- A number of bytes. -/
def readSize (v : Value) : Except FieldError Nat :=
  match v with
  | .integer (.ofNat n) => .ok n
  | .integer (.negSucc _) => .error (.wrongValue v "usize")
  | _ => .error (.wrongType v "usize")

/-- A value that may be absent. -/
def readOptional {α : Type} (read : Value → Except FieldError α) : Value → Except FieldError (Option α)
  | .null => .ok none
  | v => (read v).map some

/-- One of a few names, by itself or as the only name of a table that holds nothing under it. -/
def readName {α : Type} (known : List (String × α)) (v : Value) : Except FieldError α :=
  let named (name : String) : Except FieldError α :=
    match known.lookup name with
    | some a => .ok a
    | none => .error (.unknownName name (known.map Prod.fst))
  match v with
  | .text name => named name
  | .table [(name, inner)] => do
    let a ← named name
    match inner with
    | .null => return a
    | _ => .error (.wrongType inner "unit")
  | .table _ => .error (.wrongValue v "map with a single key")
  | _ => .error (.wrongType v "string or map")

def logFormats : List (String × Log.Format) := [("json", .json), ("compact", .compact)]

def fatalPolicies : List (String × FatalPolicy) := [("abort", .abort), ("contain", .contain)]

/-! ## Putting layers together -/

/-- The value of the highest layer that has one, over those of lower layers; the highest layer comes
first. -/
def highest? (layers : List Table) (field : String) : Option Value :=
  Value.overAll? (layers.filterMap fun layer => layer.lookup field)

/-- A field: read off the highest layer that has a value for it, else its default. -/
def field {α : Type} (layers : List Table) (name : String) (read : Value → Except FieldError α)
    (standard : α) : Except FieldError α :=
  match highest? layers name with
  | some v => read v
  | none => .ok standard

/-- The configuration of some layers, the highest first. Of several values that do not fit, the one
whose field is first in the alphabet is reported. -/
def ofLayers (layers : List Table) : Except FieldError Config := do
  let standard : Config := {}
  let fatalPolicy ← field layers "fatal_policy" (readName fatalPolicies) standard.fatalPolicy
  let logFilter ← field layers "log_filter" (readText "a string") standard.logFilter
  let logFormat ← field layers "log_format" (readName logFormats) standard.logFormat
  let maxStackSize ← field layers "max_stack_size" (readOptional readSize) standard.maxStackSize
  let memoryLimit ← field layers "memory_limit" (readOptional readSize) standard.memoryLimit
  let r2Binary ← field layers "r2_binary" (readText "a string") standard.r2Binary
  let scriptRoot ←
    field layers "script_root" (readOptional (readText "a UTF-8 path string")) standard.scriptRoot
  return { logFilter, logFormat, scriptRoot, r2Binary, memoryLimit, maxStackSize, fatalPolicy }

end DecBridge.Config
