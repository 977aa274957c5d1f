import DecBridge.Decimal.Fraction

/-!
# Dates and times of day

A date, a time of day, or both with an offset from universal time. Only whether a text is one matters,
and what is wrong with it if it is not.
-/

namespace DecBridge.Toml

/-- What is wrong with a date. -/
structure DateError where
  /-- The part that is wrong. -/
  part : String
  expected : Option String
  deriving DecidableEq, Inhabited, Repr

def DateError.message (e : DateError) : String :=
  "invalid " ++ e.part ++ (match e.expected with
    | some x => ", expected " ++ x
    | none => "")

inductive DatePiece where
  | digits (ds : List Char)
  | mark (c : Char)
  deriving DecidableEq, Inhabited, Repr

/-- Cuts characters into runs of digits and single marks; there is fuel for each character. -/
def datePieces : Nat → List Char → List DatePiece
  | 0, _ => []
  | _ + 1, [] => []
  | fuel + 1, c :: rest =>
    if c.isDigit then
      .digits (c :: rest.takeWhile Char.isDigit) :: datePieces fuel (rest.dropWhile Char.isDigit)
    else .mark c :: datePieces fuel rest

/-- A step of reading a date. -/
abbrev DateReader (α : Type) : Type := StateT (List DatePiece) (Except DateError) α

namespace DateReader

def refuse {α : Type} (part expected : String) : DateReader α :=
  StateT.lift (.error ⟨part, some expected⟩)

/-- Reads digits. -/
def digits (part expected : String) : DateReader (List Char) := do
  match ← get with
  | .digits ds :: rest => do set rest; return ds
  | _ => refuse part expected

/-- Reads a mark. -/
def mark (c : Char) (part expected : String) : DateReader Unit := do
  match ← get with
  | .mark d :: rest => if d == c then set rest else refuse part expected
  | _ => refuse part expected

/-- Reads a mark if it is there. -/
def mark? (c : Char) : DateReader Bool := do
  match ← get with
  | .mark d :: rest => if d == c then do set rest; return true else return false
  | _ => return false

/-- A number of two digits up to a greatest one. -/
def twoDigits (ds : List Char) (part unit letters : String) : DateReader Nat :=
  if ds.length == 2 then return Decimal.digitsValue ds
  else refuse part ("a two-digit " ++ unit ++ " (" ++ letters ++ ")")

/-- Reads a date whose year was read. -/
def date (year : List Char) : DateReader Unit := do
  let month ← digits "date" "month"
  mark '-' "date" "`-` (MM-DD)"
  let day ← digits "date" "day"
  if year.length != 4 then refuse "date" "a four-digit year (YYYY)"
  let month ← twoDigits month "date" "month" "MM"
  let day ← twoDigits day "date" "day" "DD"
  if month < 1 || 12 < month then refuse "date" "month between 01 and 12"
  let year := Decimal.digitsValue year
  let leap := year % 4 == 0 && (year % 100 != 0 || year % 400 == 0)
  let last := if month == 2 then (if leap then 29 else 28)
    else if month == 4 || month == 6 || month == 9 || month == 11 then 30 else 31
  if day < 1 || last < day then refuse "date" ("day between 01 and " ++ toString last)

/-- Reads a time of day. -/
def time : DateReader Unit := do
  let hour ← digits "time" "hour"
  mark ':' "time" "`:` (HH:MM)"
  let minute ← digits "time" "minute"
  let seconds ← mark? ':'
  let second ← if seconds then digits "time" "second" else pure ['0', '0']
  if seconds && (← mark? '.') then
    let _ ← digits "time" "nanosecond"
  let hour ← twoDigits hour "time" "hour" "HH"
  let minute ← twoDigits minute "time" "minute" "MM"
  let second ← twoDigits second "time" "second" "SS"
  if 23 < hour then refuse "time" "hour between 00 and 23"
  if 59 < minute then refuse "time" "minute between 00 and 59"
  if 60 < second then refuse "time" "second between 00 and 60"

/-- Reads an offset behind its sign. -/
def offset : DateReader Unit := do
  let hours ← digits "offset" "hour"
  mark ':' "offset" "`:` (HH:MM)"
  let minutes ← digits "offset" "minute"
  let hours ← twoDigits hours "offset" "hour" "HH"
  let minutes ← twoDigits minutes "offset" "minute" "MM"
  if 23 < hours then refuse "offset" "hours between 00 and 23"
  if 59 < minutes then refuse "offset" "minutes between 00 and 59"

/-- Reads the offset of a date with a time, if there is one. -/
def offset? : DateReader Unit := do
  match ← get with
  | [] => pure ()
  | .mark c :: rest =>
    if c == 'Z' || c == 'z' then set rest
    else if c == '+' || c == '-' then do set rest; offset
    else refuse "offset" "`Z`, +OFFSET, -OFFSET"
  | _ => refuse "offset" "`Z`, +OFFSET, -OFFSET"

/-- Reads a date, a time of day or both. -/
def dateOrTime : DateReader Unit := do
  let all ← get
  let first ← digits "datetime" "year or hour"
  match ← get with
  | .mark '-' :: rest => do
    set rest
    date first
    match ← get with
    | [] => pure ()
    | .mark c :: rest =>
      if c == 'T' || c == 't' || c == ' ' then do
        set rest
        time
        offset?
      else refuse "date-time" "`T` between date and time"
    | _ => refuse "date-time" "`T` between date and time"
  | .mark ':' :: _ => do set all; time
  | _ => refuse "datetime" "`-` (YYYY-MM) or `:` (HH:MM)"
  match ← get with
  | [] => pure ()
  | _ => StateT.lift (.error ⟨"datetime", none⟩)

end DateReader

/-- Whether a text is a date, a time of day or both, and what is wrong with it if it is not. -/
def checkDate (text : List Char) : Except DateError Unit :=
  (DateReader.dateOrTime.run (datePieces text.length text)).map Prod.fst

end DecBridge.Toml
