/-
# The logger

The logger hands every record at or above its level to the handlers that are
attached to it: one for the terminal, and one for a file if a file is given.
Setting it up first makes the new handlers, which fails if the file cannot be
opened, and only then detaches and closes the old handlers and attaches the new
ones.  What a set-up has changed stays changed if a later step of it fails.

Key definitions: `Logger`, `SetUp`, `Logger.configure`, `Logger.setUp`,
`loggerName`.
-/
import GoComplexity.Disk.Change
import GoComplexity.Log
import GoComplexity.Problem

namespace GoComplexity

/-- Where a handler writes. -/
inductive Sink where
  | terminal
  | file (path : String)
deriving DecidableEq, Repr, Inhabited

/-- A handler, told apart from others by its number. -/
structure Handler where
  number : Nat
  sink : Sink
deriving DecidableEq, Repr, Inhabited

/-- The state of the program's logger. -/
structure Logger where
  /-- The attached handlers. -/
  handlers : List Handler := []
  /-- The handlers that have been closed. -/
  closed : List Handler := []
  /-- The least level that is handled, if it has been set. -/
  level : Option Level := none
  /-- Whether records also go to the handlers of other programs. -/
  propagates : Bool := true
deriving DecidableEq, Repr, Inhabited

/-- The level that a verbosity stands for. -/
def levelOf (verbosity : String) : Level :=
  match verbosity with
  | "quiet" => .error
  | "verbose" => .debug
  | _ => .warning

/-- The name of a part of the program in logs: the program's own name stands
before it unless it does already. -/
def loggerName (part : String) : String :=
  if part = "" || part = "gosca" then "gosca"
  else if "gosca.".toList.isPrefixOf part.toList then part
  else s!"gosca.{part}"

/-- Opens a log file to write at its end: its whole path, and the disk on which
it exists. -/
def openLogFile (d : Disk) (logFile : Value) : Except Problem (Option String × Disk) :=
  if !logFile.truthy then .ok (none, d)
  else
    match logFile with
    | .text path =>
      let whole := d.absolutePath path
      if holdsNull path then .error .embeddedNull
      else
        match d.append whole "" with
        | .ok opened => .ok (some whole, opened)
        | .error fault => .error (.path whole fault)
    | v => .error (.type (.notPath v.typeName))

/-- A step of a set-up, which works on the logger and the disk. -/
abbrev SetUp := ExceptT Problem (StateM (Logger × Disk))

/-- Changes the logger. -/
def SetUp.change (f : Logger → Logger) : SetUp Unit := modify fun (l, d) => (f l, d)

/-- Opens the log file, if there is one. -/
def SetUp.openFile (logFile : Value) : SetUp (Option String) := do
  let (l, d) ← get
  match openLogFile d logFile with
  | .ok (file, opened) =>
    set (l, opened)
    return file
  | .error problem => throw problem

namespace Logger

/-- The least number above those of all handlers that are attached or closed. -/
def nextNumber (l : Logger) : Nat :=
  ((l.handlers ++ l.closed).map fun h => h.number + 1).foldr max 0

/-- New handlers, numbered from a number on: one for the terminal, and one for a file if
there is one. -/
def newHandlers (number : Nat) (file : Option String) : List Handler :=
  ⟨number, .terminal⟩ :: file.toList.map fun path => ⟨number + 1, .file path⟩

/-- Takes a handler off, once. -/
def detach (l : Logger) (h : Handler) : Logger := { l with handlers := l.handlers.erase h }

/-- Closes a handler. -/
def close (l : Logger) (h : Handler) : Logger := { l with closed := l.closed ++ [h] }

/-- Attaches a handler, unless it is attached already. -/
def attach (l : Logger) (h : Handler) : Logger :=
  if h ∈ l.handlers then l else { l with handlers := l.handlers ++ [h] }

/-- Sets the logger up for a verbosity and a log file.  All new handlers are made before
the first old one is taken off, and the old ones are those that were attached then. -/
def configure (verbosity : String) (logFile : Value) : SetUp Unit := do
  let file ← SetUp.openFile logFile
  let l := (← get).1
  let new := newHandlers l.nextNumber file
  l.handlers.forM fun h => SetUp.change fun l => (l.detach h).close h
  new.forM fun h => SetUp.change fun l => l.attach h
  SetUp.change fun l => { l with level := some (levelOf verbosity) }
  SetUp.change fun l => { l with propagates := false }

/-- The logger and the disk after a set-up, unless it fails. -/
def setUp (l : Logger) (d : Disk) (verbosity : String) (logFile : Value) :
    Except Problem (Logger × Disk) :=
  match (configure verbosity logFile).run.run (l, d) with
  | (.ok (), after) => .ok after
  | (.error problem, _) => .error problem

/-- The records that are handled. -/
def handled (l : Logger) (records : List Record) : List Record :=
  match l.level with
  | some level => records.filter (Record.passes level)
  | none => []

/-- The files that records go to. -/
def files (l : Logger) : List String :=
  l.handlers.filterMap fun h =>
    match h.sink with
    | .file path => some path
    | .terminal => none

end Logger

end GoComplexity
