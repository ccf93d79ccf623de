/-
# Changing a disk

A file is written under a path, its directories made where they are missing, or
text is put at the end of a file that exists or whose directory does; a file or
link is removed.

Key definitions: `Disk.place`, `Disk.append`, `Disk.remove`.
-/
import GoComplexity.Disk.Entry

namespace GoComplexity

/-- Puts an entry under a name. -/
def putEntry (name : String) (e : Entry) : List (String × Entry) → List (String × Entry)
  | [] => [(name, e)]
  | p :: rest => if p.1 = name then (name, e) :: rest else p :: putEntry name e rest

/-- Changes the entry at the end of a chain of names; directories on the way are
made where there is none. -/
def changeEntry (change : Option Entry → Option Entry) : List String → Option Entry → Option Entry
  | [], e => change e
  | name :: names, e =>
    let entries :=
      match e with
      | some (.directory entries) => entries
      | _ => []
    match changeEntry change names (entries.lookup name) with
    | some new => some (.directory (putEntry name new entries))
    | none => some (.directory (entries.filter fun p => p.1 ≠ name))

namespace Disk

/-- Changes the entry at a place. -/
def change (d : Disk) (place : List String) (f : Option Entry → Option Entry) : Disk :=
  match changeEntry f place (some (.directory d.root)) with
  | some (.directory root) => { d with root := root }
  | _ => d

/-- Puts an entry at a place. -/
def place (d : Disk) (names : List String) (e : Entry) : Disk := d.change names fun _ => some e

/-- The place of a path without following links. -/
def placeOf (d : Disk) (path : String) : List String := pathComponents (d.absolutePath path)

/-- The directory and the name that a path ends in, the directory followed. -/
def parentOf (d : Disk) (path : String) : Except DiskFault (List String × String) :=
  if path = "" then .error .notFound
  else if pathLimit ≤ path.utf8ByteSize then .error .nameTooLong
  else do
    let components := componentsOf path
    let parent ← d.follow linkLimit (startOf d.workingDirectory path) components.dropLast
    match d.entryAt? parent with
    | some (.directory _) => return (parent, components.getLast?.getD "")
    | some .locked => throw .forbidden
    | _ => throw .notDirectory

/-- Puts text at the end of a file, which is made if only the last name of its
path is missing. -/
def append (d : Disk) (path text : String) : Except DiskFault Disk :=
  match d.resolve path with
  | .ok p =>
    match d.entryAt? p with
    | some (.file content) => .ok (d.place p (.file (content ++ text.toUTF8)))
    | _ => .error .isDirectory
  | .error .notFound => do
    let (parent, name) ← d.parentOf path
    if name = "" then throw .isDirectory
    else return d.place (parent ++ [name]) (.file text.toUTF8)
  | .error fault => .error fault

/-- Removes the file or link that a path names. -/
def remove (d : Disk) (path : String) : Except DiskFault Disk := do
  let (parent, name) ← d.parentOf path
  if ["", ".", ".."].contains name then throw .isDirectory
  else
    match d.entryAt? (parent ++ [name]) with
    | none => throw .notFound
    | some e =>
      if e.isDirectory then throw .isDirectory
      else return d.change (parent ++ [name]) fun _ => none

end Disk

end GoComplexity
