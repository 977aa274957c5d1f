import DecBridge.Config.Load
import DecBridge.Pipe.Recorded
import DecBridge.Program
import DecBridge.Script.Interpreter

/-!
# The executable

Gathers what the program is given (arguments, environment, the files beneath the working directory,
standard input), runs it, and writes what it leaves behind. In place of a disassembler process there
is one that repeats each line it reads.
-/

namespace DecBridge.Executable

/-- The engine of the sessions. Its sizes are rough, and no place in memory is known. -/
def engine : Engine :=
  Script.interpreter { context := 65536, surface := 262144, call := 700, stack := 1048576 }
    fun _ => default

/-- The variables of the environment that are looked at. -/
def variableNames : List String :=
  ["HOME", "XDG_CONFIG_HOME", "XDG_CONFIG_DIRS", Bundle.rootVariable, "PDW_CONFIG_PATH",
    "PDW_LOG_FILTER", "PDW_LOG_FORMAT", "PDW_SCRIPT_ROOT", "PDW_R2_BINARY", "PDW_MEMORY_LIMIT",
    "PDW_MAX_STACK_SIZE", "PDW_FATAL_POLICY"]

def readEnvironment : IO Config.Environment :=
  variableNames.filterMapM fun name => do return (← IO.getEnv name).map (name, ·)

/-- How many directories below the working directory are looked into. -/
def deepest : Nat := 8

/-- What is at an entry of a directory. -/
def readNode : Nat → IO.FS.DirEntry → IO (String × Files.Node)
  | 0, entry => return (entry.fileName, .dir [])
  | depth + 1, entry => do
    if ← entry.path.isDir then
      let entries ← (← entry.path.readDir).toList.mapM (readNode depth)
      return (entry.fileName, .dir entries)
    else return (entry.fileName, .file (← IO.FS.readBinFile entry.path).toList)

/-- The files beneath the working directory. -/
def readFiles : IO Files.FileSystem := do
  let here ← IO.currentDir
  let names := (Files.components here.toString).filter fun name => !name.isEmpty
  let entries ← (← here.readDir).toList.mapM (readNode deepest)
  return ⟨Files.put (.dir entries) names [], names⟩

/-- A disassembler for every program that there is. -/
def programs (files : Files.FileSystem) : Programs Unit where
  files := files
  searchPath := []
  started _ := some fun _ => ({} : Recording).child

def exitCode : Program.Ending → UInt32
  | .code n => n.toUInt32
  | .aborted => 134
  | .stalled => 1

/-- Runs the program and writes what it leaves behind. -/
def run (arguments : List String) : IO UInt32 := do
  let env ← readEnvironment
  let files ← readFiles
  let input ← (← IO.getStdin).readToEnd
  let machine : Program.Machine Unit :=
    { programs := programs files
      env
      home := (env.lookup "HOME").map Text.encode
      engine
      load := fun arguments =>
        (Config.load files env arguments).mapError Config.LoadError.message
      input := Text.encode input
      output := {} }
  let report := Program.run machine ("pdw" :: arguments)
  IO.print report.output.text
  for event in report.log do
    IO.eprintln (report.format.record event)
  IO.eprint report.diagnostics
  return exitCode report.ending

end DecBridge.Executable

def main (arguments : List String) : IO UInt32 := DecBridge.Executable.run arguments
