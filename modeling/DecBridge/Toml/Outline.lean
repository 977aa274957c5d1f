import DecBridge.Toml.Lexeme

/-!
# Outline of a document

The lines of a document, as headings and assignments, before it is known what its names and values
say. A name or a value that is left out altogether stands in the outline as an empty word; anything
else that is out of place stops the reading.

The format has two editions, and a document has to be readable in both. The outline is that of the
newer one, and keeps the first thing in the document that the older one lacks.
-/

namespace DecBridge.Toml

/-- A value as it is laid out. -/
inductive Form where
  | scalar (l : Lexeme)
  | list (items : List Form)
  | table (entries : List (List Lexeme × Form))
  deriving Inhabited

inductive Line where
  /-- A heading of a table, or of one more item of a list of tables. -/
  | heading (item : Bool) (name : List Lexeme)
  | assignment (name : List Lexeme) (value : Form)
  deriving Inhabited

/-- What is left to read, and the first thing so far that the older edition lacks. -/
structure Cursor where
  rest : List Lexeme
  lacking : Option Stop := none

/-- A step of reading an outline. -/
abbrev Outline := StateT Cursor (Except Stop)

namespace Outline

/-! ## Lexemes -/

/-- The next lexeme; at the end, it is the last one again. -/
def peek : Outline Lexeme := do
  return (← get).rest.headD ⟨.finish, 0, []⟩

/-- Goes on to the next lexeme. -/
def advance : Outline Unit := modify fun c => { c with rest := c.rest.tail }

def refuse {α : Type} (span : Span) (message : String) : Outline α := StateT.lift (stopOver span message)

/-- Refuses what is in front of a lexeme. -/
def refuseAt {α : Type} (l : Lexeme) (message : String) : Outline α := refuse (.point l.start) message

/-- Notes what the older edition lacks, and where it stops for that reason. -/
def lacks (place : Nat) (message : String) : Outline Unit :=
  modify fun c => { c with lacking := c.lacking.or (some ⟨some ⟨place, place + 1⟩, message⟩) }

/-- A line break is whole. -/
def lineBreak (l : Lexeme) : Outline Unit :=
  if l.text == ['\r'] then
    refuse (.point l.stop) "carriage return must be followed by newline, expected newline"
  else pure ()

/-- A comment holds no controls. -/
def comment (l : Lexeme) : Outline Unit :=
  match l.text.findIdx? isControl with
  | some i => refuse (.point (l.start + i)) "invalid comment character, expected printable characters"
  | none => pure ()

def skipBlank : Outline Unit := do
  if (← peek).kind == .blank then advance

/-- Skips what is left of a line, and the end of it. -/
def skipLine : Nat → Outline Unit
  | 0 => pure ()
  | fuel + 1 => do
    let l ← peek
    match l.kind with
    | .finish => pure ()
    | .lineBreak => do lineBreak l; advance
    | .comment => do comment l; advance; skipLine fuel
    | _ => do advance; skipLine fuel

/-- Reads the end of a line. -/
def lineEnd : Nat → Outline Unit
  | 0 => pure ()
  | fuel + 1 => do
    let l ← peek
    match l.kind with
    | .finish => pure ()
    | .blank => do advance; lineEnd fuel
    | .comment => do comment l; advance; lineEnd fuel
    | .lineBreak => do lineBreak l; advance
    | _ => refuseAt l "unexpected key or value, expected newline, `#`"

/-! ## The older edition -/

/-- How deep values may be nested, and how many parts a name may have. The older edition allows one
less. -/
def depthLimit : Nat := 80

def depthExceeded : String := "recursion limit exceeded"

/-- Behind the first escape in a text that the older edition lacks. -/
def newEscape? : Nat → List Char → Option Nat
  | _, [] => none
  | n, '\\' :: c :: rest => if c == 'e' || c == 'x' then some (n + 2) else newEscape? (n + 2) rest
  | n, _ :: rest => newEscape? (n + 1) rest

/-- Behind a time of day that has no seconds. -/
def shortTime? (text : List Char) : Option Nat :=
  (text.findIdx? (· == ':')).bind fun i => if text[i + 3]? == some ':' then none else some (i + 3)

/-- Notes what the older edition lacks in a text, a number or a date. -/
def checkScalar (l : Lexeme) : Outline Unit :=
  match l.kind with
  | .basic | .basicLines =>
    match newEscape? l.start l.text with
    | some n =>
      lacks n "invalid escape sequence\nexpected `b`, `f`, `n`, `r`, `t`, `u`, `U`, `\\`, `\"`"
    | none => pure ()
  | .word =>
    match shortTime? l.text with
    | some n => lacks (l.start + n) (if n == 5 then "invalid time" else "invalid date-time")
    | none => pure ()
  | _ => pure ()

/-! ## Names -/

/-- Whether a lexeme may be a part of a name. -/
def isPart (k : LexemeKind) : Bool :=
  match k with
  | .literal | .basic | .literalLines | .basicLines | .word => true
  | _ => false

mutual

/-- Reads the further parts of a name, and says whether none was left out at the end. -/
def moreParts : Nat → Outline (List Lexeme × Bool)
  | 0 => pure ([], true)
  | fuel + 1 => do
    skipBlank
    if (← peek).kind == .point then do advance; nextPart fuel else pure ([], true)

/-- Reads the part of a name behind a point, and those that follow. -/
def nextPart : Nat → Outline (List Lexeme × Bool)
  | 0 => pure ([], true)
  | fuel + 1 => do
    let l ← peek
    if isPart l.kind then
      checkScalar l
      advance
      let (parts, whole) ← moreParts fuel
      return (l :: parts, whole)
    else
      match l.kind with
      | .blank => do advance; nextPart fuel
      | .point => do
        advance
        let (parts, whole) ← nextPart fuel
        return (l.emptyBefore :: parts, whole)
      | _ => return ([l.emptyBefore], false)

end

/-- Notes a name with more parts than the older edition allows; `start` is where it starts. -/
def checkName (start : Nat) (name : List Lexeme) (message : String) : Outline Unit :=
  if depthLimit ≤ name.length then lacks start message else pure ()

/-- Reads a name that starts with a part. -/
def nameFrom (fuel : Nat) (first : Lexeme) : Outline (List Lexeme) := do
  checkScalar first
  let (parts, _) ← moreParts fuel
  checkName first.start (first :: parts) depthExceeded
  return first :: parts

/-! ## Values -/

/-- The lexemes that belong to a word in a value: words, points, and blanks between those. -/
def wordTail : List Lexeme → List Char × List Lexeme
  | [] => ([], [])
  | l :: rest =>
    if l.kind == .word || l.kind == .point then
      let (text, left) := wordTail rest
      (l.text ++ text, left)
    else if l.kind == .blank && (match rest with
        | m :: _ => m.kind == .word || m.kind == .point
        | [] => false) then
      let (text, left) := wordTail rest
      (l.text ++ text, left)
    else ([], l :: rest)

/-- Reads a word in a value. -/
def word (l : Lexeme) : Outline Form := do
  let (text, left) := wordTail (← get).rest
  modify fun c => { c with rest := left }
  let whole : Lexeme := ⟨.word, l.start, l.text ++ text⟩
  checkScalar whole
  return .scalar whole

/-- Enters a list or a table that is nested so deep. -/
def enter (l : Lexeme) (depth : Nat) : Outline Unit := do
  if depthLimit < depth then
    refuse l.span "cannot recurse further; max recursion depth met"
  else if depthLimit ≤ depth then
    lacks l.start depthExceeded
  else pure ()

/-- What may come next in a table in braces. -/
inductive Due where
  | key
  | equals
  | value
  | comma
  deriving DecidableEq, Inhabited, Repr

/-- What is due, in a complaint. -/
def Due.expected : Due → String
  | .key => "key"
  | .equals => "`=`"
  | .value => "value"
  | .comma => "`,`"

/-- The complaint about a lexeme that is not due. -/
def Due.complaint (d : Due) : String :=
  (match d with
    | .key => "missing key for inline table element"
    | .equals => "missing assignment between key-value pairs"
    | .value => "missing value"
    | .comma => "missing comma between key-value pairs") ++ ", expected " ++ d.expected

/-- Notes a line break or a comment in a table in braces, which the older edition lacks. Behind a
comma it stops at the comma. -/
def checkBreak (l : Lexeme) (due : Due) (comma : Option Nat) : Outline Unit :=
  match due with
  | .key | .comma => lacks (comma.getD l.start) "invalid inline table\nexpected `\x7d`"
  | .equals => lacks l.start "expected `.`, `=`"
  | .value => lacks l.start "invalid string\nexpected `\"`, `'`"

mutual

/-- Reads a value; `depth` lists and tables are around it. -/
def value : Nat → Nat → Outline Form
  | 0, _ => do return .scalar (← peek).emptyBefore
  | fuel + 1, depth => do
    let l ← peek
    match l.kind with
    | .comment | .comma | .lineBreak | .finish | .blank => return .scalar l.emptyBefore
    | .equals => refuse l.span "extra `=`, expected nothing"
    | .openBrace => do
      advance
      enter l (depth + 1)
      return .table (← tableEntries fuel (depth + 1) .key [] none)
    | .closeBrace => refuseAt l "missing inline table opening, expected `\x7b`"
    | .openBracket => do
      advance
      enter l (depth + 1)
      return .list (← listItems fuel (depth + 1) false)
    | .closeBracket => refuseAt l "missing array opening, expected `[`"
    | .word | .point => do advance; word l
    | .literal | .basic | .literalLines | .basicLines => do
      advance
      checkScalar l
      return .scalar l

/-- Reads the items of a list up to its end; `comma` says that one is due. -/
def listItems : Nat → Nat → Bool → Outline (List Form)
  | 0, _, _ => pure []
  | fuel + 1, depth, comma => do
    let l ← peek
    match l.kind with
    | .blank => do advance; listItems fuel depth comma
    | .comment => do comment l; advance; listItems fuel depth comma
    | .lineBreak => do lineBreak l; advance; listItems fuel depth comma
    | .finish => refuseAt l "unclosed array, expected `]`"
    | .comma =>
      if comma then do advance; listItems fuel depth false
      else refuse l.span "extra comma in array, expected value"
    | .equals => refuse l.span "unexpected `=` in array, expected value, `]`"
    | .closeBracket => do advance; return []
    | _ =>
      if comma then refuseAt l "missing comma between array elements, expected `,`"
      else do
        let item ← value fuel depth
        let items ← listItems fuel depth true
        return item :: items

/-- Reads the entries of a table in braces up to its end; `name` is that of the entry being read, and
`comma` the place of a comma that was read last. -/
def tableEntries : Nat → Nat → Due → List Lexeme → Option Nat → Outline (List (List Lexeme × Form))
  | 0, _, _, _, _ => pure []
  | fuel + 1, depth, due, name, comma => do
    let l ← peek
    match l.kind with
    | .blank => do advance; tableEntries fuel depth due name comma
    | .comment => do
      comment l
      checkBreak l due comma
      advance
      tableEntries fuel depth due name comma
    | .lineBreak => do
      lineBreak l
      checkBreak l due comma
      advance
      tableEntries fuel depth due name comma
    | .finish => refuseAt l "unclosed inline table, expected `\x7d`"
    | .comma =>
      if due == .comma then do
        advance
        tableEntries fuel depth .key [] (some l.start)
      else refuseAt l "extra comma in inline table, expected key"
    | .equals =>
      match due with
      | .key => do advance; tableEntries fuel depth .value [l.emptyBefore] none
      | .equals => do advance; tableEntries fuel depth .value name none
      | _ => refuseAt l ("extra assignment between key-value pairs, expected " ++ due.expected)
    | .closeBrace =>
      match due, comma with
      | .key, some place => do
        lacks place "invalid inline table\nexpected `\x7d`"
        advance
        return []
      | .key, none | .comma, _ => do advance; return []
      | _, _ => refuseAt l due.complaint
    | k =>
      if due == .value then do
        let v ← value fuel depth
        let entries ← tableEntries fuel depth .comma [] none
        return (name, v) :: entries
      else if due == .key && isPart k then do
        advance
        let name ← nameFrom fuel l
        tableEntries fuel depth .equals name none
      else if due == .key && k == .point then do
        let (parts, _) ← moreParts fuel
        tableEntries fuel depth .equals (l.emptyBefore :: parts) none
      else refuseAt l due.complaint

end

/-! ## Lines -/

/-- Reads what follows the name of an assignment. -/
def assignment (fuel : Nat) (name : List Lexeme) : Outline Line := do
  skipBlank
  let l ← peek
  if l.kind == .equals then
    advance
    skipBlank
    let v ← value fuel 0
    lineEnd fuel
    return .assignment name v
  else refuseAt l "key with no value, expected `=`"

/-- Reads the name in a heading, and says whether no part was left out. -/
def headingName : Nat → Outline (List Lexeme × Bool)
  | 0 => pure ([], false)
  | fuel + 1 => do
    let l ← peek
    if isPart l.kind then
      checkScalar l
      advance
      let (parts, whole) ← moreParts fuel
      return (l :: parts, whole)
    else
      match l.kind with
      | .blank => do advance; headingName fuel
      | .point => do
        advance
        let (parts, _) ← headingName fuel
        return (l.emptyBefore :: parts, false)
      | _ => return ([l.emptyBefore], false)

/-- Reads the closing brackets of a heading, and says whether they are there. Only behind a whole name
they have to be. -/
def headingEnd (item whole : Bool) (name : List Lexeme) : Outline Bool := do
  let behind := match name.getLast? with
    | some l => l.stop
    | none => 0
  skipBlank
  let l ← peek
  match item, l.kind == .closeBracket with
  | false, true => do advance; return true
  | false, false => if whole then refuse (.point behind) "unclosed table, expected `]`" else return false
  | true, true => do
    advance
    let m ← peek
    if m.kind == .closeBracket then do advance; return true
    else refuse (.point l.stop) "unclosed array table, expected `]`"
  | true, false =>
    if whole then refuse (.point behind) "unclosed array table, expected `]]`" else return false

/-- Reads a heading behind its first bracket. -/
def heading (fuel : Nat) : Outline Line := do
  let item := (← peek).kind == .openBracket
  if item then advance
  let start := (← peek).start
  skipBlank
  let (name, whole) ← headingName fuel
  checkName start name ("invalid table header\n" ++ depthExceeded)
  let closed ← headingEnd item whole name
  if closed && whole then lineEnd fuel else skipLine fuel
  return .heading item name

/-- Reads the lines of a document; there is fuel for each of its lexemes. -/
def lines : Nat → Outline (List Line)
  | 0 => pure []
  | fuel + 1 => do
    let l ← peek
    let also (line : Outline Line) : Outline (List Line) := do
      let first ← line
      let others ← lines fuel
      return first :: others
    match l.kind with
    | .finish => return []
    | .blank => do advance; lines fuel
    | .lineBreak => do lineBreak l; advance; lines fuel
    | .comment => do comment l; advance; lines fuel
    | .openBracket => do advance; also (heading fuel)
    | .closeBracket => refuseAt l "missing table open, expected `[`"
    | .literal | .basic | .literalLines | .basicLines | .word => do
      advance
      let name ← nameFrom fuel l
      also (assignment fuel name)
    | .equals => also (assignment fuel [l.emptyBefore])
    | .point => do
      let (parts, _) ← moreParts fuel
      also (assignment fuel (l.emptyBefore :: parts))
    | .comma | .openBrace | .closeBrace => refuseAt l "invalid key, expected key"

end Outline

/-- The outline of a document, and the first thing in it that the older edition lacks. -/
def outline (document : List Char) : Except Stop (List Line × Option Stop) := do
  let ls := lexemes document
  let (lines, cursor) ← (Outline.lines (2 * ls.length + 2)).run { rest := ls }
  return (lines, cursor.lacking)

end DecBridge.Toml
