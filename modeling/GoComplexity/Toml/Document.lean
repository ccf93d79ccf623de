/-
# The tables of a configuration file

A document is built statement by statement.  A key leads through tables, and
through the last table of an array of tables, to the place of a value.  Marks
remember which tables have been declared, so that none is declared twice, and
which values stand for themselves and take no more keys.

Key definitions: `Document`, `Document.openTable?`, `Document.openItem?`,
`Document.assign?`.
-/
import GoComplexity.Toml.Fault
import GoComplexity.Value

namespace GoComplexity.Toml

/-- The entries of a table in the order in which they were given. -/
abbrev Entries := List (String × Value)

/-- A key of several parts. -/
abbrev Key := List String

/-- Puts a value in the place of the one under a key, or at the end. -/
def put (key : String) (v : Value) : Entries → Entries
  | [] => [(key, v)]
  | e :: rest => if e.1 = key then (key, v) :: rest else e :: put key v rest

/-- Changes the table under a key, which is made if it is missing; with
`intoArrays` the last table of an array stands for the array. -/
def changeAt (intoArrays : Bool) (change : Entries → Option Entries) :
    Key → Entries → Option Entries
  | [], entries => change entries
  | k :: ks, entries =>
    match entries.lookup k with
    | none => do return put k (.table (← changeAt intoArrays change ks [])) entries
    | some (.table inner) => do
      return put k (.table (← changeAt intoArrays change ks inner)) entries
    | some (.list items) =>
      if intoArrays then
        match items.getLast? with
        | some (.table inner) => do
          let last ← changeAt intoArrays change ks inner
          return put k (.list (items.dropLast ++ [.table last])) entries
        | _ => none
      else none
    | some _ => none

/-- Adds a value under a key that has none. -/
def addNew (key : String) (v : Value) (entries : Entries) : Option Entries :=
  if (entries.lookup key).isSome then none else some (entries ++ [(key, v)])

/-- Adds a table to the array of tables under a key, which is made if it is
missing. -/
def addItem (key : String) (entries : Entries) : Option Entries :=
  match entries.lookup key with
  | none => some (entries ++ [(key, .list [.table []])])
  | some (.list items) => some (put key (.list (items ++ [.table []])) entries)
  | some _ => none

/-- The tables that have been declared, those that will count as declared from
the next header on, and the keys whose values take no more keys. -/
structure Marks where
  declared : List Key := []
  pending : List Key := []
  closed : List Key := []
deriving Inhabited

namespace Marks

/-- Whether a key leads into a value that takes no more keys. -/
def isClosed (m : Marks) (key : Key) : Bool := m.closed.any fun k => k.isPrefixOf key

/-- Forgets what is known of a key and of those below it. -/
def forget (m : Marks) (key : Key) : Marks :=
  { m with
    declared := m.declared.filter fun k => !key.isPrefixOf k
    closed := m.closed.filter fun k => !key.isPrefixOf k }

/-- Counts the pending tables as declared. -/
def settle (m : Marks) : Marks := { m with declared := m.declared ++ m.pending, pending := [] }

end Marks

/-- What has been read of a document, and the table that statements are for. -/
structure Document where
  entries : Entries := []
  marks : Marks := {}
  header : Key := []
deriving Inhabited

/-- The parts of a key before the last, and the last one. -/
def splitKey (key : Key) : Key × String := (key.dropLast, key.getLast?.getD "")

namespace Document

/-- Declares a table. -/
def openTable? (d : Document) (key : Key) : Except Cause Document :=
  let m := d.marks.settle
  if m.declared.contains key || m.isClosed key then .error .declaredTwice
  else
    match changeAt true some key d.entries with
    | none => .error .overwritten
    | some entries => .ok ⟨entries, { m with declared := m.declared ++ [key] }, key⟩

/-- Declares the next table of an array of tables. -/
def openItem? (d : Document) (key : Key) : Except Cause Document :=
  let m := d.marks.settle
  if m.isClosed key then .error .immutable
  else
    let m := m.forget key
    let (parent, last) := splitKey key
    match changeAt true (addItem last) parent d.entries with
    | none => .error .overwritten
    | some entries => .ok ⟨entries, { m with declared := m.declared ++ [key] }, key⟩

/-- Gives a key a value. -/
def assign? (d : Document) (key : Key) (v : Value) : Except Cause Document :=
  let (parent, last) := splitKey key
  let inner := (List.range parent.length).map fun i => d.header ++ key.take (i + 1)
  if inner.any d.marks.declared.contains then .error .overwritten
  else if d.marks.isClosed (d.header ++ parent) then .error .immutable
  else
    match changeAt true (addNew last v) (d.header ++ parent) d.entries with
    | none => .error .overwritten
    | some entries =>
      let m := d.marks
      let closes := match v with | .list _ | .table _ => true | _ => false
      .ok { d with
        entries := entries
        marks := { m with
          pending := m.pending ++ inner
          closed := if closes then m.closed ++ [d.header ++ key] else m.closed } }

end Document

end GoComplexity.Toml
