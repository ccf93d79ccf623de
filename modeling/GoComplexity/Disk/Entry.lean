/-
# Files, directories and links

A disk is a tree of directories; an entry of a directory is a file, another
directory, a locked one or a link to a path.  A path is followed component by
component, from the root or from the working directory, through the links on the
way.  At most forty links are followed, a component has at most 255 bytes and a
whole path fewer than 4096.  A locked directory may be neither listed nor entered.

Key definitions: `Entry`, `Disk`, `Disk.resolve`, `Disk.read`.
-/
import GoComplexity.Path

namespace GoComplexity

/-- What a name in a directory stands for. -/
inductive Entry where
  | file (content : ByteArray)
  /-- A directory with its entries, in no particular order. -/
  | directory (entries : List (String × Entry))
  /-- A directory of which nothing can be seen. -/
  | locked
  | link (target : String)
deriving Inhabited

/-- Why a path cannot be used. -/
inductive DiskFault where
  | notFound
  | notDirectory
  | isDirectory
  | tooManyLinks
  | nameTooLong
  | forbidden
deriving DecidableEq, Repr, Inhabited

namespace DiskFault

/-- The wording of a fault. -/
def reason : DiskFault → String
  | notFound => "No such file or directory"
  | notDirectory => "Not a directory"
  | isDirectory => "Is a directory"
  | tooManyLinks => "Too many levels of symbolic links"
  | nameTooLong => "File name too long"
  | forbidden => "Permission denied"

/-- The number of a fault. -/
def number : DiskFault → Nat
  | notFound => 2
  | notDirectory => 20
  | isDirectory => 21
  | tooManyLinks => 40
  | nameTooLong => 36
  | forbidden => 13

/-- Whether nothing can be where a path with a fault leads; else it is unknown
what is there. -/
def tellsAbsence : DiskFault → Bool
  | notFound | notDirectory | tooManyLinks => true
  | isDirectory | nameTooLong | forbidden => false

end DiskFault

/-- A tree of entries, and the directory from which relative paths start. -/
structure Disk where
  root : List (String × Entry) := []
  workingDirectory : List String := []
deriving Inhabited

namespace Entry

/-- The entry at the end of a chain of names. -/
def at? : List String → Entry → Option Entry
  | [], e => some e
  | name :: names, .directory entries =>
    match entries.lookup name with
    | some e => at? names e
    | none => none
  | _ :: _, _ => none

/-- Whether an entry is a directory itself, and not a link to one. -/
def isDirectory : Entry → Bool
  | .directory _ | .locked => true
  | .file _ | .link _ => false

end Entry

/-- How far a path leads without following a link: to a place, or to a link
with the directory it stands in and the components after it. -/
inductive Advance where
  | arrived (place : List String)
  | link (directory : List String) (target : String) (rest : List String)

/-- The most links that are followed. -/
def linkLimit : Nat := 40

/-- The most bytes of a component. -/
def nameLimit : Nat := 255

/-- The bytes from which on a path is too long. -/
def pathLimit : Nat := 4096

/-- The components of a path with empty ones, which ask for a directory. -/
def componentsOf (path : String) : List String := (splitSlashes path.toList).map String.ofList

/-- Whether a path starts from the root. -/
def isAbsolute (path : String) : Bool := path.toList.head? = some '/'

namespace Disk

/-- The entry at a place. -/
def entryAt? (d : Disk) (place : List String) : Option Entry :=
  (Entry.directory d.root).at? place

/-- Follows components from a place up to the first link. -/
def advance (d : Disk) : List String → List String → Except DiskFault Advance
  | place, [] => .ok (.arrived place)
  | place, name :: rest =>
    match d.entryAt? place with
    | some (.directory entries) =>
      if name = "" || name = "." then d.advance place rest
      else if name = ".." then d.advance place.dropLast rest
      else if nameLimit < name.utf8ByteSize then .error .nameTooLong
      else
        match entries.lookup name with
        | none => .error .notFound
        | some (.link target) => .ok (.link place target rest)
        | some _ => d.advance (place ++ [name]) rest
    | some .locked => if name = "" then d.advance place rest else .error .forbidden
    | some _ => .error .notDirectory
    | none => .error .notFound

/-- The place from which a path starts. -/
def startOf (place : List String) (path : String) : List String :=
  if isAbsolute path then [] else place

/-- Follows components from a place through at most so many links. -/
def follow (d : Disk) : Nat → List String → List String → Except DiskFault (List String)
  | links, place, components =>
    match d.advance place components with
    | .error fault => .error fault
    | .ok (.arrived p) => .ok p
    | .ok (.link directory target rest) =>
      match links with
      | 0 => .error .tooManyLinks
      | links + 1 => d.follow links (startOf directory target) (componentsOf target ++ rest)

/-- The place to which a path leads. -/
def resolve (d : Disk) (path : String) : Except DiskFault (List String) :=
  if path = "" then .error .notFound
  else if pathLimit ≤ path.utf8ByteSize then .error .nameTooLong
  else d.follow linkLimit (startOf d.workingDirectory path) (componentsOf path)

/-- The entry to which a path leads. -/
def find (d : Disk) (path : String) : Except DiskFault Entry := do
  match d.entryAt? (← d.resolve path) with
  | some e => return e
  | none => throw .notFound

/-- Whether a path leads to a directory. -/
def isDirectory (d : Disk) (path : String) : Bool :=
  match d.find path with
  | .ok e => e.isDirectory
  | .error _ => false

/-- Whether a path leads to a file. -/
def isFile (d : Disk) (path : String) : Bool :=
  match d.find path with
  | .ok (.file _) => true
  | _ => false

/-- The content of the file to which a path leads. -/
def read (d : Disk) (path : String) : Except DiskFault ByteArray := do
  match ← d.find path with
  | .file content => return content
  | _ => throw .isDirectory

/-- The path of the working directory. -/
def workingPath (d : Disk) : String := "/" ++ "/".intercalate d.workingDirectory

/-- A path from the root, without empty, `.` and `..` components. -/
def absolutePath (d : Disk) (path : String) : String :=
  let whole := if isAbsolute path then path else joinPath d.workingPath path
  let names := (pathComponents whole).foldl
    (fun (names : List String) n => if n = ".." then names.dropLast else names ++ [n]) []
  (if pathRoot whole = "//" then "//" else "/") ++ "/".intercalate names

end Disk

end GoComplexity
