/-
# Source files under paths

A path is a file, which is taken whatever its name, or a directory, which is
walked: first its files in the order of their names, then its directories in the
order of theirs.  Links to directories are not entered, and a directory that
cannot be read is passed over with a warning.  In directories only files whose
names end in one of the extensions count, and files whose paths match the pattern
are left out.  A path that leads nowhere is a failure and the others go on.

Key definitions: `Found`, `walk`, `endsWithAny`, `ScanRules`, `scanPath`, `scan`.
-/
import GoComplexity.Analysis.Run
import GoComplexity.Regex.Matcher

namespace GoComplexity

/-! ### Walking a directory -/

/-- What a walk comes upon. -/
inductive Found where
  /-- A file: its name, and the path through which it is found. -/
  | file (name path : String)
  /-- A directory that cannot be read. -/
  | unread (path : String) (fault : DiskFault)
deriving DecidableEq, Repr, Inhabited

/-- Named things in the order of their names. -/
def sortByName {α : Type} (xs : List (String × α)) : List (String × α) :=
  xs.mergeSort fun a b => !(b.1 < a.1)

/-- Whether a path is too long to be used. -/
def isTooLong (path : String) : Bool := pathLimit ≤ path.utf8ByteSize

/-- Whether an entry, which is shown by a path, of the directory at a place is a
directory or leads to one; a link that cannot be followed leads to none. -/
def leadsToDirectory (d : Disk) (place : List String) (shown : String) (e : Entry)
    (name : String) : Bool :=
  match e with
  | .directory _ | .locked => true
  | .file _ => false
  | .link _ =>
    if isTooLong shown then false
    else
      match d.follow linkLimit place [name] with
      | .ok p => (d.entryAt? p).any Entry.isDirectory
      | .error _ => false

/-- The files of a directory that stands at a place, in the order of their
names. -/
def filesIn (d : Disk) (place : List String) (shown : String) (entries : List (String × Entry)) :
    List Found :=
  (sortByName (entries.filter fun e =>
    !leadsToDirectory d place (joinPath shown e.1) e.2 e.1)).map fun e =>
      .file e.1 (joinPath shown e.1)

mutual

/-- The files under a directory that stands at a place and is shown by a path, and
the directories there that cannot be read. -/
def walk (d : Disk) (place : List String) (shown : String) : Entry → List Found
  | .directory entries =>
    if isTooLong shown then [.unread shown .nameTooLong]
    else
      filesIn d place shown entries ++
        (sortByName (walkAll d place shown entries)).flatMap Prod.snd
  | .locked => [.unread shown (if isTooLong shown then .nameTooLong else .forbidden)]
  | _ => []

/-- What a walk comes upon under each of the directories of a list of entries. -/
def walkAll (d : Disk) (place : List String) (shown : String) :
    List (String × Entry) → List (String × List Found)
  | [] => []
  | (name, e) :: rest =>
    (name, walk d (place ++ [name]) (joinPath shown name) e) :: walkAll d place shown rest

end

/-! ### Extensions and patterns -/

/-- The elements of a value. -/
def Value.elements : Value → Except TypeFault (List Value)
  | .list xs => .ok xs
  | .text s => .ok (s.toList.map fun c => .text (String.singleton c))
  | .table entries => .ok (entries.map fun e => .text e.1)
  | v => .error (.notIterable v.typeName)

/-- Whether a name ends in one of several endings, tried in order. -/
def endsWithAny (name : String) : List Value → Except TypeFault Bool
  | [] => .ok false
  | .text ending :: rest =>
    if ending.toList.isSuffixOf name.toList then .ok true else endsWithAny name rest
  | v :: _ => .error (.notSuffix v.typeName)

/-- Whether a path matches the pattern of files that are left out. -/
def isIgnored (pattern : Option Regex) (path : String) : Bool := pattern.any fun r => r.search path

/-- Which files count. -/
structure ScanRules where
  pattern : Option Regex := none
  extensions : List Value := [.text ".go"]
deriving Inhabited

/-! ### Scanning -/

/-- Ends a run with a type fault. -/
def Run.ofTyped {α : Type} (r : Except TypeFault α) : Run α :=
  match r with
  | .ok a => return a
  | .error fault => throw (.type fault)

/-- A path, unless the pattern leaves it out. -/
def takePath (rules : ScanRules) (path : String) : Run (Option String) := do
  if isIgnored rules.pattern path then
    Run.log .debug .scanner s!"ignoring {path}"
    return none
  else return some path

/-- A file found in a directory, unless its name or the pattern leaves it out; no
file comes from a directory that cannot be read. -/
def takeFound (rules : ScanRules) : Found → Run (Option String)
  | .file name path => do
    if ← Run.ofTyped (endsWithAny name rules.extensions) then takePath rules path
    else return none
  | .unread path fault => do
    let shown := Text.quote path
    Run.log .warning .scanner s!"could not read directory {shown}: {fault.reason}"
    return none

/-- The files under a path, or the failure that the path leads nowhere. -/
def scanPath (d : Disk) (rules : ScanRules) (path : String) :
    Run (List String × List Failure) := do
  if holdsNull path then throw .embeddedNull
  match d.resolve path with
  | .error fault =>
    let shown := Text.quote path
    Run.log .warning .scanner s!"could not get file info for path {shown}: {fault.reason}"
    return ([], [.fileAccess path fault.reason])
  | .ok place =>
    match (d.entryAt? place).filter Entry.isDirectory with
    | some e => return (← (walk d place path e).filterMapM (takeFound rules), [])
    | none => return ((← takePath rules path).toList, [])

/-- The files under paths, and the failures of paths that lead nowhere. -/
def scan (d : Disk) (rules : ScanRules) (paths : List String) :
    Run (List String × List Failure) := do
  let results ← paths.mapM (scanPath d rules)
  return (results.flatMap Prod.fst, results.flatMap Prod.snd)

/-- The content of a source file. -/
def readSource (d : Disk) (path : String) : Except Problem ByteArray :=
  if holdsNull path then .error .embeddedNull
  else
    match d.read (displayPath path) with
    | .ok content => .ok content
    | .error fault => .error (.failure (.fileAccess path fault.reason))

end GoComplexity
