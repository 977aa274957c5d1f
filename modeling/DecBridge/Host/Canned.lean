import DecBridge.Host.Reaction
import DecBridge.Settings.Overlay

/-!
# Canned hosts

Hosts whose replies are written down beforehand. They keep a record of what they are told, and may,
while they are called, call back. A canned host may stand behind the settings overlay.
-/

namespace DecBridge.Host

/-- What a canned host does with a command. -/
inductive Reply where
  | text (s : String)
  | error (e : HostError)
  | panic (payload : Payload)
  /-- Answers with the command itself after a text. -/
  | echo (lead : String)
  /-- Calls back with a line, and answers with what came of it. -/
  | reenter (line : String)
  deriving Inhabited

structure Canned where
  replies : List (String × Reply)
  standard : Reply := .text ""
  /-- What happens after a text was printed. -/
  afterPrint : Option Reply := none
  deriving Inhabited

/-- What a host was told. -/
structure Record where
  commands : Array String := #[]
  console : String := ""
  deriving Inhabited

/-- What all canned hosts were told, and the settings of the overlay. -/
structure Ledger where
  records : Array Record
  settings : Settings := {}
  deriving Inhabited

namespace Ledger

def addCommand (l : Ledger) (i : Nat) (command : String) : Ledger :=
  { l with records := l.records.modify i fun r => { r with commands := r.commands.push command } }

def addConsole (l : Ledger) (i : Nat) (text : String) : Ledger :=
  { l with records := l.records.modify i fun r => { r with console := r.console ++ text } }

/-- The settings of a ledger. -/
def settingsPart : Part Ledger Settings := ⟨Ledger.settings, fun s l => { l with settings := s }⟩

end Ledger

/-- A canned host by its number, with or without the overlay in front of it. -/
inductive Seat where
  | bare (i : Nat)
  | overlaid (i : Nat)
  deriving DecidableEq, Inhabited, Repr

/-- How a canned host calls back with a line, and what it makes of the answer. -/
structure Reentry (ρ α : Type) where
  request : String → ρ
  text : α → String

variable {ρ α : Type}

/-- Acts on a reply. -/
def Reply.act (re : Reentry ρ α) (inside : Roster Seat Ledger ρ α) (command : String) (l : Ledger) :
    Reply → Reaction Seat Ledger ρ α
  | .text s => .reply (.ok s) l
  | .error e => .reply (.error e) l
  | .panic payload => .panic payload l
  | .echo lead => .reply (.ok (lead ++ command)) l
  | .reenter line => .request (re.request line) l inside fun a l => .reply (.ok (re.text a)) l

/-- What a canned host does with a call. -/
def Canned.react (c : Canned) (i : Nat) (re : Reentry ρ α) (inside : Roster Seat Ledger ρ α) :
    Call → Ledger → Reaction Seat Ledger ρ α
  | .cmd command, l =>
    ((c.replies.lookup command).getD c.standard).act re inside command (l.addCommand i command)
  | .print text, l =>
    let l := l.addConsole i text
    match c.afterPrint with
    | some reply => reply.act re inside "" l
    | none => .reply (.ok "") l

/-- The canned hosts, with calls back nested at most `depth` deep. -/
def Canned.roster (hosts : List Canned) (re : Reentry ρ α) : Nat → Roster Seat Ledger ρ α
  | 0 => fun _ _ l => .hang l
  | depth + 1 => fun seat call l =>
    let inside := Canned.roster hosts re depth
    match seat with
    | .bare i => (hosts.getD i default).react i re inside call l
    | .overlaid i =>
      Settings.overlay Ledger.settingsPart ((hosts.getD i default).react i re inside) call l

/-- A ledger with nothing in it yet. -/
def Ledger.empty (hosts : List Canned) : Ledger := { records := (hosts.map fun _ => {}).toArray }

end DecBridge.Host
