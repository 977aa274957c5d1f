import DecBridge.Dispatch.Reentry

/-!
# Lines one after the other, and their verdicts

Every line that is handed to a dispatcher, by its user or by a host in the middle of a call, ends with
a verdict. `Dispatcher.bookPort` is the port of hosts whose state carries the verdicts along, in the
order in which they were reached; the hosts do not look at them.
-/

namespace DecBridge.Dispatcher

variable {η σ : Type}

/-- Verdicts in the order in which they were reached. -/
abbrev Books : Type := List Verdict

/-- Enters a verdict. -/
def enter (v : Verdict) : Act η (σ × Books) Unit :=
  Act.modify fun w => { w with host := (w.host.1, w.host.2 ++ [v]) }

/-- Handles a line and enters the verdict. -/
def book (d : Dispatcher) (p : Port η (σ × Books)) (r : Line η) :
    Act η (σ × Books) Verdict := do
  let v ← d.dispatch p r.around r.host r.text
  enter v
  return v

/-- The port of the hosts of a roster, with books of all lines that they hand
to the dispatcher. -/
def bookPort (d : Dispatcher) (roster : Host.Roster η σ (Line η) Verdict) :
    Port η (σ × Books) :=
  DecBridge.port d.book fun h c t => (roster h c t.1).carry t.2

/-- Handles lines one after the other; a panic that leaves one of them does not
keep the next from being handled. -/
def handleAll (handle : Line η → Act η σ Verdict) :
    List (Line η) → Act η σ (List (Except Payload Verdict))
  | [] => return []
  | r :: rest => do
    let v ← (handle r).catching
    let vs ← handleAll handle rest
    return v :: vs

/-- Lines that are handed to a dispatcher on behalf of hosts of a roster. -/
def dispatchAll (d : Dispatcher) (roster : Host.Roster η σ (Line η) Verdict) :
    List (Line η) → Act η σ (List (Except Payload Verdict)) :=
  handleAll fun r => d.dispatch (d.port roster) r.around r.host r.text

/-- The same with books. -/
def bookAll (d : Dispatcher) (roster : Host.Roster η σ (Line η) Verdict) :
    List (Line η) → Act η (σ × Books) (List (Except Payload Verdict)) :=
  handleAll (d.book (d.bookPort roster))

/-- The faults on the books. -/
def faultOf : Verdict → Option String
  | .ok (.session (.faulted message)) => some message
  | _ => none

def faults (b : Books) : List String := b.filterMap faultOf

end DecBridge.Dispatcher
