import DecBridge.CommandLine.Mistake
import DecBridge.Text.Similar

/-!
# Reading a command line

Arguments are read one by one. A switch that takes a value waits for it, and a value is settled, that
is checked and recorded, only when the next argument shows that it is complete. So an argument that
cannot be read at all is reported before a bad value right in front of it.
-/

namespace DecBridge.CommandLine

/-- What waits to be settled. -/
inductive Waiting where
  | switch (s : Switch) (value : Option String)
  | operand (o : Operand) (value : String)

/-- How far the reading of a command line has come. -/
structure Progress where
  /-- The values that were given, with the long names of their switches, in order. -/
  given : List (String × String) := []
  operand : Option String := none
  waiting : Option Waiting := none
  /-- Whether two dashes were seen: everything after them is an operand. -/
  operandsOnly : Bool := false

/-- A command line that was read. -/
structure Parsed where
  given : List (String × String)
  operand : Option String
  deriving DecidableEq, Inhabited, Repr

namespace Parsed

/-- The values of a switch, in order. -/
def values (p : Parsed) (long : String) : List String :=
  (p.given.filter fun (name, _) => name == long).map Prod.snd

def value? (p : Parsed) (long : String) : Option String := (p.values long).getLast?

end Parsed

namespace Progress

/-- The long names of the switches that were used and are not hidden. -/
def used (g : Grammar) (p : Progress) : List String :=
  (p.given.map Prod.fst).eraseDups.filter fun name =>
    match g.byLong? name with
    | some s => !s.hidden
    | none => false

/-- The usage that fits what was used. -/
def usage (g : Grammar) (p : Progress) (more : List String) : Usage :=
  let shown := (p.used g ++ more).eraseDups
  if shown.isEmpty && p.operand.isNone then .full else .used shown

/-- What is wrong with a value of a switch or an operand. -/
def mistake? (owner value : String) : Option Refusal → Option Mistake
  | none => none
  | some .empty => some (.missingValue owner)
  | some (.because reason) => some (.invalidValue value owner reason)

/-- Settles what waits. A value that is refused still counts as used; a switch that was given before
and may not be repeated counts as unused from then on. -/
def settle (p : Progress) : Option Mistake × Progress :=
  let free := { p with waiting := none }
  match p.waiting with
  | none => (none, p)
  | some (.operand o value) =>
    (mistake? o.shown value (o.refuses value), { free with operand := some value })
  | some (.switch s none) => (some (.missingValue s.shown), free)
  | some (.switch s (some value)) =>
    if !s.repeats && p.given.any fun (name, _) => name == s.long then
      (some (.repeated s.shown), { free with given := p.given.filter fun (name, _) => name != s.long })
    else (mistake? s.shown value (s.refuses value), { free with given := p.given ++ [(s.long, value)] })

/-- Settles what waits; a mistake ends the reading. -/
def settled (p : Progress) : Except Mistake Progress :=
  match p.settle with
  | (some m, _) => .error m
  | (none, p) => .ok p

/-- Settles what waits, whatever is wrong with it. -/
def settledAnyway (p : Progress) : Progress := p.settle.2

/-- Meets a switch, with the value that is attached to it if there is one; `long` says that it was
named by its long name. -/
def meet (p : Progress) (s : Switch) (value : Option String) (long : Bool) :
    Except Mistake Progress := do
  let p ← p.settled
  match s.purpose with
  | .help => .error (.help long)
  | .version => .error .version
  | .value _ _ =>
    match value with
    | none => .ok { p with waiting := some (.switch s none) }
    | some v => ({ p with waiting := some (.switch s (some v)) } : Progress).settled

/-- The tip that an argument which looks like a switch may be meant as a value. -/
def escapeTip (g : Grammar) (argument : String) : Option Tip :=
  if g.operand.isSome then some (.escape argument) else none

/-- How alike a name has to be to be offered instead of another one. -/
def likeness : Text.Fraction := ⟨7, 10⟩

/-- The mistake of a long name that no switch has. -/
def unknownLong (g : Grammar) (p : Progress) (name : String) : Mistake :=
  let p := p.settledAnyway
  match Text.mostSimilar? likeness name (g.switches.map Switch.long) with
  | some other =>
    let shown := match g.byLong? other with
      | some s => if s.hidden then [] else [other]
      | none => []
    .unknown ("--" ++ name) (some (.similar other)) (p.usage g shown)
  | none => .unknown ("--" ++ name) (escapeTip g ("--" ++ name)) (p.usage g [])

/-- Reads `--name` or `--name=value`, without the dashes. -/
def readLong (g : Grammar) (p : Progress) (body : List Char) : Except Mistake Progress :=
  let name := String.ofList (body.takeWhile (· != '='))
  let value := match body.dropWhile (· != '=') with
    | _ :: v => some (String.ofList v)
    | [] => none
  match g.byLong? name with
  | none => .error (p.unknownLong g name)
  | some s =>
    match s.takesValue, value with
    | false, some v =>
      let unused := p.given.isEmpty && p.operand.isNone
      .error (.unneededValue v s.shown (if unused then .used [s.long] else .beside s.long))
    | _, _ => p.meet s value true

/-- Reads a cluster of short names; a switch that takes a value takes the rest of the cluster, with
or without an equals sign. -/
def readShorts (g : Grammar) (p : Progress) : List Char → Except Mistake Progress
  | [] => .ok p
  | c :: rest =>
    match g.byShort? c with
    | none =>
      let argument := String.ofList ['-', c]
      .error (.unknown argument (escapeTip g argument) .full)
    | some s =>
      if s.takesValue then
        let value := match rest with
          | [] => none
          | '=' :: v => some (String.ofList v)
          | v => some (String.ofList v)
        p.meet s value false
      else
        match p.meet s none false with
        | .ok p => readShorts g p rest
        | .error m => .error m

/-- Reads an operand. -/
def readOperand (g : Grammar) (p : Progress) (argument : String) : Except Mistake Progress :=
  let taken := p.operand.isSome || match p.waiting with
    | some (.operand _ _) => true
    | _ => false
  match g.operand, taken with
  | some o, false => do
    let p ← p.settled
    return { p with waiting := some (.operand o argument) }
  | _, _ => .error (.unknown argument none .full)

/-- Reads an argument. -/
def step (g : Grammar) (p : Progress) (argument : String) : Except Mistake Progress :=
  if p.operandsOnly then p.readOperand g argument
  else
    match argument.toList with
    | ['-', '-'] => .ok { p with operandsOnly := true }
    | '-' :: '-' :: body => p.readLong g body
    | '-' :: c :: rest => p.readShorts g (c :: rest)
    | _ =>
      match p.waiting with
      | some (.switch s none) => .ok { p with waiting := some (.switch s (some argument)) }
      | _ => p.readOperand g argument

/-- Ends the reading. -/
def finish (g : Grammar) (p : Progress) : Except Mistake Parsed := do
  let p ← p.settled
  match g.operand, p.operand with
  | some o, none => .error (.missingOperand o.shown (.used (p.used g)))
  | _, _ => .ok ⟨p.given, p.operand⟩

end Progress

/-- Reads the arguments of a program. -/
def Grammar.read (g : Grammar) (arguments : List String) : Except Mistake Parsed := do
  let p ← arguments.foldlM (Progress.step g) {}
  p.finish g

end DecBridge.CommandLine
