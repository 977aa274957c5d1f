import DecBridge.Host.Reaction
import DecBridge.Settings
import DecBridge.Settings.Command
import DecBridge.Text.Quoted

/-!
# The settings overlay

Stands in front of a host that does not know the plugin's settings: settings commands are answered
here, and everything else goes to the wrapped host unchanged. The settings are a part of the state of
the hosts.
-/

namespace DecBridge.Settings

open Host (Call Reaction Part)

def logTarget : String := "pdw_host::settings"

/-- Answers a settings command: the settings afterwards, and what was assigned or why not. -/
def execute (s : Settings) : SettingsCommand → Except SettingsError (String × Settings)
  | .get key => do
    let setting ← Setting.ofName key
    return (s.get setting ++ "\n", s)
  | .set key value => do
    let setting ← Setting.ofName key
    let after ← s.set setting value
    return ("", after)

/-- The output of a settings command. A mistake in it is ordinary output. -/
def output (s : Settings) (c : SettingsCommand) : String :=
  match s.execute c with
  | .ok (text, _) => text
  | .error e => "ERROR: " ++ e.message ++ "\n"

/-- The settings after a settings command. -/
def after (s : Settings) (c : SettingsCommand) : Settings :=
  match s.execute c with
  | .ok (_, next) => next
  | .error _ => s

/-- What a settings command reports to the log. -/
def event? (s : Settings) : SettingsCommand → Option Log.Event
  | .get _ => none
  | .set key value =>
    match s.execute (.set key value) with
    | .ok _ =>
      some ⟨.debug, logTarget, "plugin setting updated", [("key", .shown key), ("value", .text value)]⟩
    | .error _ => none

/-- A host behind the overlay. -/
def overlay {η σ ρ α : Type} (part : Part σ Settings) (inner : Call → σ → Reaction η σ ρ α) :
    Call → σ → Reaction η σ ρ α
  | .print text, s => inner (.print text) s
  | .cmd command, s =>
    match SettingsCommand.parse command with
    | none => inner (.cmd command) s
    | some c =>
      let settings := part.get s
      let reply := Reaction.reply (.ok (settings.output c)) (part.put (settings.after c) s)
      match settings.event? c with
      | some event => .note event reply
      | none => reply

/-- The settings as a record. -/
def shown (s : Settings) : String :=
  Text.record "PluginSettings" [("casts", boolText s.casts), ("theme", Text.quoted s.theme)] false

end DecBridge.Settings
