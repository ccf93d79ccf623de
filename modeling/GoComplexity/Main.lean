/-
# The program

The program looks at the files that its words name, with the configuration
files and the environment, and hands them to the command as one disk; what the
command comes to is then printed and written to the log files.  A directory is
looked at without the contents of its files, and only those that the command is
going to use are read.

Key definitions: `main`.
-/
import GoComplexity.Command.Outcome

namespace GoComplexity

/-- The path to which a path leads through links, if it leads anywhere. -/
def realPath? (path : String) : IO (Option String) := do
  try return some (← IO.FS.realPath path).toString
  catch _ => return none

/-- The disk with what stands at a real path, without what is in it. -/
def addPlace (d : Disk) (real : String) : IO Disk := do
  let names := pathComponents real
  if (d.entryAt? names).isSome then return d
  if ← (← IO.FS.realPath real).isDir then return d.place names (.directory [])
  return d.place names (.file ByteArray.empty)

/-- The disk with everything at and under a real path. -/
partial def addTree (d : Disk) (real : String) : IO Disk := do
  let d ← addPlace d real
  let path ← IO.FS.realPath real
  if !(← path.isDir) then return d
  let listed ← path.readDir.toBaseIO
  let .ok entries := listed | return d.place (pathComponents real) .locked
  entries.foldlM (fun d entry => do
    let child := joinPath real entry.fileName
    let names := pathComponents child
    match ← realPath? child with
    | none => return d.place names (.link (String.singleton (Char.ofNat 0)))
    | some target =>
      if target = child then addTree d child
      else return (← addPlace d target).place names (.link target)) d

/-- The disk with a path that starts at a real path, and everything under it. -/
def addPath (d : Disk) (real : String) : List String → IO Disk
  | [] => addTree d real
  | name :: rest => do
    let d ← addPlace d real
    if name = "" || name = "." then addPath d real rest
    else if name = ".." then
      addPath d ("/" ++ "/".intercalate (pathComponents real).dropLast) rest
    else
      let child := joinPath real name
      match ← realPath? child with
      | none => return d
      | some target =>
        let d := if target = child then d else d.place (pathComponents child) (.link target)
        addPath d target rest

/-- The disk with a path as a user writes it. -/
def addWritten (d : Disk) (path : String) : IO Disk := do
  try addPath d (if isAbsolute path then "/" else d.workingPath) (componentsOf path)
  catch _ => return d

/-- The disk with the contents of a file. -/
def addContent (d : Disk) (path : String) : IO Disk := do
  match d.resolve path with
  | .error _ => return d
  | .ok names =>
    match d.entryAt? names with
    | some (.file _) =>
      try return d.place names (.file (← IO.FS.readBinFile ("/" ++ "/".intercalate names)))
      catch _ => return d
    | _ => return d

/-- Writes records at the end of a log file. -/
def appendRecords (records : List Record) (path : String) : IO Unit := do
  let h ← IO.FS.Handle.mk path .append
  records.forM fun r => h.putStr (r.renderPadded ++ "\n")

/-- The values that the environment gives to the variables of the settings. -/
def readEnvironment : IO (List (String × String)) := do
  let values ← Setting.all.mapM fun x => do
    return (← IO.getEnv x.variable).map fun value => (x.variable, value)
  return values.filterMap id

end GoComplexity

open GoComplexity in
/-- Runs the command and ends with its code. -/
def main (words : List String) : IO UInt32 := do
  let here ← IO.FS.realPath (← IO.currentDir)
  let home := (← IO.getEnv "HOME").getD ""
  let values ← readEnvironment
  let environment (name : String) : Option String := List.lookup name values
  let given := (readArguments words).toOption.getD {}
  let configFiles :=
    [joinPath home ".gosca.toml", "gosca.toml"] ++ (given.value? .config).toList
  let named := configFiles ++ (given.value? .logFile).toList ++ given.paths
  let d ← named.foldlM addWritten ⟨[], pathComponents here.toString⟩
  let d ← configFiles.foldlM addContent d
  let (logFile, sources) := Toolkit.go.filesToUse ⟨d, home, environment⟩ words
  let d ← logFile.toList.foldlM addWritten d
  let d ← sources.foldlM addContent d
  let outcome := runCommand ⟨d, home, environment⟩ words
  outcome.logFiles.forM (appendRecords outcome.records)
  IO.print outcome.printed.output
  outcome.records.forM fun r => IO.eprintln r.renderPadded
  outcome.printed.messages.forM IO.eprintln
  match outcome.printed.ending with
  | .problem p => IO.eprintln p.message
  | .code _ => pure ()
  return outcome.printed.ending.exitCode.toUInt32
