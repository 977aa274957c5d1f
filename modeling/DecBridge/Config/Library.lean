import DecBridge.Config.Basic
import DecBridge.Config.Discovery

/-!
# Partial configurations

A configuration is put together by a library. It reads every source (a file, the environment, the
flags) into a partial record of the declared fields, merges these in increasing order, with the
declared defaults beneath them all, and makes a configuration of the result.

Of the library only that is relied on (`Library.Layered`): how it finds and reads its sources is its
own affair.
-/

namespace DecBridge.Config

open Files (FileSystem)

/-! ## The declared fields -/

inductive Field where
  | logFilter
  | logFormat
  | scriptRoot
  | r2Binary
  | memoryLimit
  | maxStackSize
  | fatalPolicy
  deriving DecidableEq

namespace Field

def all : List Field :=
  [logFilter, logFormat, scriptRoot, r2Binary, memoryLimit, maxStackSize, fatalPolicy]

/-- What a source may say for a field. -/
abbrev Value : Field → Type
  | .logFilter | .scriptRoot | .r2Binary => String
  | .logFormat => Log.Format
  | .memoryLimit | .maxStackSize => Nat
  | .fatalPolicy => FatalPolicy

instance : (f : Field) → DecidableEq f.Value
  | .logFilter | .scriptRoot | .r2Binary => inferInstanceAs (DecidableEq String)
  | .logFormat => inferInstanceAs (DecidableEq Log.Format)
  | .memoryLimit | .maxStackSize => inferInstanceAs (DecidableEq Nat)
  | .fatalPolicy => inferInstanceAs (DecidableEq FatalPolicy)

/-- What a configuration holds for a field: three of them may be without a value. -/
abbrev Kind : Field → Type
  | .logFilter | .r2Binary => String
  | .logFormat => Log.Format
  | .scriptRoot => Option String
  | .memoryLimit | .maxStackSize => Option Nat
  | .fatalPolicy => FatalPolicy

/-- What a configuration holds for a field that was given a value. -/
def given : (f : Field) → f.Value → f.Kind
  | .logFilter, v => v
  | .logFormat, v => v
  | .scriptRoot, v => some v
  | .r2Binary, v => v
  | .memoryLimit, v => some v
  | .maxStackSize, v => some v
  | .fatalPolicy, v => v

def get : (f : Field) → Config → f.Kind
  | .logFilter, c => c.logFilter
  | .logFormat, c => c.logFormat
  | .scriptRoot, c => c.scriptRoot
  | .r2Binary, c => c.r2Binary
  | .memoryLimit, c => c.memoryLimit
  | .maxStackSize, c => c.maxStackSize
  | .fatalPolicy, c => c.fatalPolicy

end Field

/-! ## Partial records -/

/-- What a source says: a value for some of the fields. -/
abbrev Partial : Type := (f : Field) → Option f.Value

namespace Partial

/-- What a source says above what the sources beneath it say. -/
def above (upper lower : Partial) : Partial := fun f => (upper f).or (lower f)

/-- The declared defaults; a field that may be without a value has none. -/
def defaults : Partial
  | .logFilter => some ({} : Config).logFilter
  | .logFormat => some ({} : Config).logFormat
  | .r2Binary => some ({} : Config).r2Binary
  | .fatalPolicy => some ({} : Config).fatalPolicy
  | .scriptRoot | .memoryLimit | .maxStackSize => none

end Partial

/-! ## Sources -/

/-- What the sources of a load say. -/
structure Sources where
  file : Partial
  environment : Partial
  flags : Partial

namespace Sources

/-- The sources in increasing order, over the defaults. -/
def layers (s : Sources) : List Partial := [Partial.defaults, s.file, s.environment, s.flags]

/-- The sources say the same for a field down to the first that says anything. -/
def AgreeAbove (s s' : Sources) (f : Field) : Prop :=
  s.flags f = s'.flags f ∧ (s.flags f = none → s.environment f = s'.environment f ∧
    (s.environment f = none → s.file f = s'.file f))

end Sources

/-- What a field comes to: its flag counts, else its variable, else what the file
says, else the default. -/
def Decided (s : Sources) (config : Config) (f : Field) : Prop :=
  match s.flags f, s.environment f, s.file f with
  | some v, _, _ => f.get config = f.given v
  | none, some v, _ => f.get config = f.given v
  | none, none, some v => f.get config = f.given v
  | none, none, none => f.get config = f.get {}

/-! ## The library -/

/-- How a library reads its sources, and how it loads a configuration. Which file it reads may depend
on the environment and on the flags, and if there is none the file says nothing. -/
structure Library where
  file : FileSystem → Environment → List String → Except String Partial
  environment : Environment → Except String Partial
  flags : List String → Except String Partial
  load : FileSystem → Environment → List String → Except String Config

namespace Library

/-- The sources of a load, if all of them can be read. -/
structure Reads (L : Library) (fs : FileSystem) (env : Environment) (arguments : List String)
    (s : Sources) : Prop where
  file : L.file fs env arguments = .ok s.file
  environment : L.environment env = .ok s.environment
  flags : L.flags arguments = .ok s.flags

end Library

end DecBridge.Config
