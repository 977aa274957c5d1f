import DecBridge.Output.Fault

/-!
# Host errors

Why a host could not be reached, attached or started.
-/

namespace DecBridge.Host

open Output (Fault)

inductive HostError where
  | noActiveHost
  | alreadyAttached
  | spawn (program target : String) (cause : Fault)
  | missingStream (stream : String)
  | io (cause : Fault)
  | closed
  deriving DecidableEq, Inhabited, Repr

namespace HostError

def message : HostError → String
  | .noActiveHost => "no active host session"
  | .alreadyAttached => "a host session is already active"
  | .spawn program target cause =>
    "failed to start host '" ++ program ++ "' on " ++ target ++ ": " ++ cause.message
  | .missingStream stream => "host process did not expose its " ++ stream
  | .io cause => "I/O error communicating with the host: " ++ cause.message
  | .closed => "host closed the pipe before completing a reply"

/-- The messages of what an error was caused by. -/
def sources : HostError → List String
  | .spawn _ _ cause | .io cause => [cause.message]
  | _ => []

end HostError

end DecBridge.Host
