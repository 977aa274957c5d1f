import DecBridge.Host.Reaction
import DecBridge.Output.Sink
import DecBridge.Pipe.Child
import DecBridge.Text.Blank
import DecBridge.Text.Lines
import DecBridge.Text.Quoted

/-!
# The pipe to a disassembler

A disassembler that reads commands line by line and ends the output of each with a NUL. A command of
several lines is sent line by line, blank lines are not sent, and each line sent is answered by what
the disassembler writes up to the next NUL.

`Pipe.send` fails exactly when the process is gone; `Pipe.read` reaches the end of the stream only
when the process has closed its output, which it does at the latest when it leaves, and otherwise waits.
-/

namespace DecBridge

open Host (Call HostError Part Reaction)

open Output (Fault Sink)

open Text (Bytes)

/-- A disassembler and what went through its streams. -/
structure Pipe (γ : Type) where
  program : String
  target : String
  /-- The process, while it runs. -/
  running : Option γ
  /-- What was written and not read yet. -/
  unread : Bytes
  /-- Whether its output was closed. -/
  ended : Bool := false
  /-- The lines that were sent. -/
  sent : Array String
  console : Sink

namespace Pipe

variable {γ : Type}

def logTarget : String := "pdw_host::pipe"

/-- Everything the process was sent. -/
def received (p : Pipe γ) : String := String.join (p.sent.toList.map fun line => line ++ "\n")

/-! ## The streams -/

/-- Sends a line. -/
def send (c : Child γ) (line : String) (p : Pipe γ) : Option Fault × Pipe γ :=
  match p.running with
  | none => (some .brokenPipe, p)
  | some g =>
    let response := c.step g line
    (none, { p with
      running := response.running
      -- what a process says after it has closed its output goes nowhere
      unread := if p.ended then p.unread else p.unread ++ response.output
      ended := p.ended || response.ends
      sent := p.sent.push line })

/-- What reading up to the next NUL yields. -/
inductive Reading where
  | reply (bytes : Bytes)
  /-- The stream ended first, after so many bytes. -/
  | ended (size : Nat)
  | waiting

/-- Reads up to the next NUL. -/
def read (p : Pipe γ) : Reading × Pipe γ :=
  match p.unread.dropWhile (· != 0) with
  | _ :: rest => (.reply (p.unread.takeWhile (· != 0)), { p with unread := rest })
  | [] =>
    if p.ended then (.ended p.unread.length, { p with unread := [] })
    else (.waiting, p)

/-! ## Commands -/

/-- What a command comes to. -/
inductive Answer where
  | done (r : Except HostError String)
  /-- The process neither answers nor leaves. -/
  | waiting

/-- The lines of a command that are sent. -/
def commandLines (command : String) : List String :=
  (Text.lines command).filter fun line => !Text.isBlankText line

def byteSize (s : String) : Nat := Text.byteLength s.toList

def sendingEvent (line : String) : Log.Event :=
  ⟨.debug, logTarget, "sending host command", [("command", .text line)]⟩

def completedEvent (line reply : String) : Log.Event :=
  ⟨.debug, logTarget, "host command completed",
    [("command", .text line), ("output_bytes", .number (byteSize reply))]⟩

def closedEvent (size : Nat) : Log.Event :=
  ⟨.debug, logTarget, "host pipe closed mid-reply", [("bytes_read", .number size)]⟩

/-- Sends a line and reads its reply. -/
def exchange (c : Child γ) (line : String) (p : Pipe γ) : Answer × Pipe γ × List Log.Event :=
  match p.send c line with
  | (some fault, p) => (.done (.error (.io fault)), p, [sendingEvent line])
  | (none, p) =>
    match p.read with
    | (.reply bytes, p) =>
      let reply := Text.decodeLossy bytes
      (.done (.ok reply), p, [sendingEvent line, completedEvent line reply])
    | (.ended size, p) => (.done (.error .closed), p, [sendingEvent line, closedEvent size])
    | (.waiting, p) => (.waiting, p, [sendingEvent line])

/-- Exchanges lines up to the first that fails; the replies are joined. -/
def exchangeAll (c : Child γ) : List String → Pipe γ → Answer × Pipe γ × List Log.Event
  | [], p => (.done (.ok ""), p, [])
  | line :: rest, p =>
    match exchange c line p with
    | (.done (.ok reply), p, events) =>
      match exchangeAll c rest p with
      | (.done (.ok more), p, later) => (.done (.ok (reply ++ more)), p, events ++ later)
      | (answer, p, later) => (answer, p, events ++ later)
    | stopped => stopped

/-- Runs a command. -/
def cmd (c : Child γ) (command : String) (p : Pipe γ) : Answer × Pipe γ × List Log.Event :=
  exchangeAll c (commandLines command) p

/-- Prints on the console; a failure is only logged. -/
def print (text : String) (p : Pipe γ) : Pipe γ × List Log.Event :=
  match p.console.emit text with
  | (none, console) => ({ p with console }, [])
  | (some fault, console) =>
    ({ p with console },
      [⟨.warn, logTarget, "failed to write host console", [("error", .shown fault.message)]⟩])

/-! ## Opening and closing -/

/-- The command that asks a disassembler to leave. -/
def quitCommand : String := "q!"

def exitedEvent : Log.Event :=
  ⟨.debug, logTarget, "disassembler host exited", [("status", .shown "ExitStatus(unix_wait_status(0))")]⟩

/-- What becomes of a process after it was asked to leave: it is gone, or it is killed. -/
def settle (p : Pipe γ) : Pipe γ × List Log.Event :=
  match p.running with
  | none => (p, [exitedEvent])
  | some _ =>
    ({ p with running := none },
      [⟨.warn, logTarget, "disassembler host ignored quit, killing process",
        [("program", .shown p.program)]⟩])

/-- Asks the process to leave and waits for it. -/
def close (c : Child γ) (p : Pipe γ) : Pipe γ × List Log.Event :=
  match p.send c quitCommand with
  | (none, p) => p.settle
  | (some fault, p) =>
    let (p, events) := p.settle
    (p, ⟨.debug, logTarget, "host pipe already closed",
      [("error", .shown (HostError.io fault).message)]⟩ :: events)

def spawningEvent (program target : String) : Log.Event :=
  ⟨.debug, logTarget, "spawning disassembler host",
    [("program", .text program), ("binary", .shown target)]⟩

def readyEvent (banner : String) : Log.Event :=
  ⟨.debug, logTarget, "disassembler host ready", [("banner_bytes", .number (byteSize banner))]⟩

/-- A pipe to a process that was just started. -/
def fresh (c : Child γ) (program target : String) (console : Sink) : Pipe γ :=
  { program, target, running := c.start.running, unread := c.start.output, ended := c.start.ends
    sent := #[], console }

/-- What starting a disassembler comes to. -/
inductive Opening (γ : Type) where
  | ready (p : Pipe γ)
  | failed (e : HostError) (p : Pipe γ)
  | waiting (p : Pipe γ)

/-- Waits until a process that was just started says that it is ready; one that leaves before it does
is closed at once. -/
def awaitReady (c : Child γ) (p : Pipe γ) : Opening γ × List Log.Event :=
  match p.read with
  | (.reply bytes, p) => (.ready p, [readyEvent (Text.decodeLossy bytes)])
  | (.waiting, p) => (.waiting p, [])
  | (.ended size, p) =>
    let (p, events) := p.close c
    (.failed .closed p, closedEvent size :: events)

/-! ## As a host -/

/-- What the pipe does with a call. -/
def react {η σ ρ α : Type} (c : Child γ) (part : Part σ (Pipe γ)) : Call → σ → Reaction η σ ρ α
  | .cmd command, s =>
    match (part.get s).cmd c command with
    | (.done r, p, events) => .notes events (.reply r (part.put p s))
    | (.waiting, p, events) => .notes events (.hang (part.put p s))
  | .print text, s =>
    let (p, events) := (part.get s).print text
    .notes events (.reply (.ok "") (part.put p s))

/-- The pipe as a record. -/
def shown (p : Pipe γ) : String :=
  Text.record "R2Pipe" [("program", Text.quoted p.program), ("target", Text.quoted p.target)] true

end Pipe

end DecBridge
