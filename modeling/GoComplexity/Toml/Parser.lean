/-
# Configuration texts

A document is a list of statements, one a line: a key with its value, a header
that opens a table, or one that opens the next table of an array.  A value is a
quoted text, a truth value, a number, a date or time, an array over several
lines or a table within one line.

Key definitions: `valueRule`, `statement`, `parse`.
-/
import GoComplexity.Toml.Document
import GoComplexity.Toml.Number
import GoComplexity.Toml.Quoted

namespace GoComplexity.Toml

/-! ### Keys -/

/-- A character of a key without quotes. -/
def isBare (c : Char) : Bool := c.isAlphanum || c = '-' || c = '_'

/-- A part of a key. -/
def keyPart : Reader String := do
  match ← peek with
  | some '\'' =>
    drop 1
    return String.ofList (← literalText false ((← get).length + 1))
  | some '"' =>
    drop 1
    return String.ofList (← basicText false ((← get).length + 1))
  | some c => if isBare c then return String.ofList (← takeWhile isBare) else fail .invalidKey
  | none => fail .invalidKey

/-- The parts of a key after the first. -/
def keyParts : Nat → Reader Key
  | 0 => return []
  | limit + 1 => do
    skipBlanks
    if ← accepts "." then
      skipBlanks
      let part ← keyPart
      return part :: (← keyParts limit)
    else return []

/-- A key and the blanks after it. -/
def key : Reader Key := do
  let limit := (← get).length + 1
  let part ← keyPart
  return part :: (← keyParts limit)

/-! ### Values -/

variable (value : Reader Value)

/-- A key, an equals sign and a value. -/
def assignment : Reader (Key × Value) := do
  let k ← key
  if ← accepts "=" then
    skipBlanks
    return (k, ← value)
  else fail .expectedEquals

/-- The items of an array up to its end. -/
def items (limit : Nat) : Nat → Reader (List Value)
  | 0 => fail .unclosedArray
  | fuel + 1 => do
    skipLayout limit
    if ← accepts "]" then return []
    else
      let v ← value
      skipLayout limit
      if ← accepts "," then return v :: (← items limit fuel)
      else if ← accepts "]" then return [v]
      else fail .unclosedArray

/-- Gives a key a value in a table within a line; `closed` are the keys whose
values take no more keys. -/
def assignWithin (closed : List Key) (entries : Entries) (k : Key) (v : Value) :
    Reader Entries := do
  let (parent, last) := splitKey k
  if closed.any fun c => c.isPrefixOf k then fail .immutable
  match changeAt false (addNew last v) parent entries with
  | some entries => return entries
  | none => fail .duplicateKey

/-- The entries of a table within a line, from one on. -/
def entriesWithin : Nat → List Key → Entries → Reader Entries
  | 0, _, _ => fail .unclosedTable
  | fuel + 1, closed, entries => do
    let (k, v) ← assignment value
    let entries ← assignWithin closed entries k v
    skipBlanks
    if ← accepts "\x7d" then return entries
    else if ← accepts "," then
      skipBlanks
      let closed := match v with | .list _ | .table _ => closed ++ [k] | _ => closed
      entriesWithin fuel closed entries
    else fail .unclosedTable

/-- A table within a line after its opening brace. -/
def tableWithin : Reader Entries := do
  skipBlanks
  if ← accepts "\x7d" then return [] else entriesWithin value ((← get).length + 1) [] []

/-- A number, a date or a time. -/
def quantity : Reader Value := do
  let cs ← get
  match moment? cs with
  | some (some m, rest) =>
    set rest
    return .moment m
  | some (none, _) => fail .invalidDate
  | none =>
    match number? cs with
    | some (.ok v, rest) =>
      set rest
      return v
    | some (.error fault, _) => throw fault
    | none => fail .invalidValue

/-- A value, nested up to a depth. -/
def valueRule : Nat → Reader Value
  | 0 => fail .invalidValue
  | depth + 1 => do
    match ← peek with
    | some '"' => return .text (← quotedText "\"" basicText)
    | some '\'' => return .text (← quotedText "'" literalText)
    | some '[' =>
      drop 1
      let limit := (← get).length + 1
      return .list (← items (valueRule depth) limit limit)
    | some '\x7b' =>
      drop 1
      return .table (← tableWithin (valueRule depth))
    | _ =>
      if ← accepts "true" then return .bool true
      else if ← accepts "false" then return .bool false
      else quantity

/-! ### Statements -/

/-- Lifts what a document says to a key. -/
def ofDocument (r : Except Cause Document) : Reader Document :=
  match r with
  | .ok d => return d
  | .error cause => fail cause

/-- A header after its first bracket. -/
def headerStatement (d : Document) : Reader Document := do
  if ← accepts "[" then
    skipBlanks
    let d ← ofDocument (d.openItem? (← key))
    if ← accepts "]]" then return d else fail .expectedTableEnd
  else
    skipBlanks
    let d ← ofDocument (d.openTable? (← key))
    if ← accepts "]" then return d else fail .expectedTableEnd

/-- A statement with its key, header or comment. -/
def statement (d : Document) : Reader Document := do
  match ← peek with
  | some '#' => return d
  | some c =>
    if isBare c || c = '"' || c = '\'' then
      let (k, v) ← assignment (valueRule ((← get).length + 1))
      let d ← ofDocument (d.assign? k v)
      skipBlanks
      return d
    else if ← accepts "[" then
      let d ← headerStatement d
      skipBlanks
      return d
    else fail .invalidStatement
  | none => return d

/-- The statements of a document, one a line. -/
def statements : Nat → Document → Reader Document
  | 0, d => return d
  | limit + 1, d => do
    skipBlanks
    if ← accepts "\n" then statements limit d
    else
      let d ← statement d
      skipComment
      match ← peek with
      | none => return d
      | some '\n' =>
        drop 1
        statements limit d
      | some _ => fail .expectedNewline

/-- The table that a configuration text describes. -/
def parse (text : String) : Except Fault Entries := do
  let (d, _) ← (statements (text.length + 1) {}).run text.toList
  return d.entries

end GoComplexity.Toml
