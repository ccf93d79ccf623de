/-
# Running the command

The command reads its words and its settings, sets up the logger, analyses the
paths, and prints what comes of it.  It is built on tools that may be any: a front
end for the files, a reader of the words, and a terminal.

Key definitions: `Toolkit`, `Outcome`, `Toolkit.runOptions`, `Toolkit.runCommand`.
-/
import GoComplexity.Command.Printed
import GoComplexity.Log.Logger

namespace GoComplexity

/-- What the command is built on. -/
structure Toolkit where
  front : Frontend
  /-- What the words of a command line ask for, on a disk. -/
  readWords : Disk → List String → Except Refusal Invocation
  terminal : Terminal

/-- What a run of the command leaves behind. -/
structure Outcome where
  printed : Printed
  /-- The records that the logger handles. -/
  records : List Record := []
  /-- The files that they are written to. -/
  logFiles : List String := []
deriving Inhabited

/-- Where the command runs. -/
structure Surroundings where
  disk : Disk
  /-- The home directory. -/
  home : String
  environment : String → Option String

/-- What the settings of a run with options are made from. -/
def requestOf (s : Surroundings) (o : Options) : Request :=
  ⟨s.disk, s.home, s.environment, o.config, o.overrides⟩

namespace Toolkit

variable (tools : Toolkit)

/-- Runs the command with settings. -/
def runSettings (o : Options) (settings : Settings) (d : Disk) : Outcome :=
  match ({} : Logger).setUp d (settings.value .verbosity).render (settings.value .logFile) with
  | .error p => { printed := Printed.stop p {} }
  | .ok (logger, d) =>
    let (result, records) := (tools.front.analyzeWith settings d o.paths).records
    ⟨tools.terminal.printedOf o settings result, logger.handled records, logger.files⟩

/-- Runs the command with options. -/
def runOptions (s : Surroundings) (o : Options) : Outcome :=
  match loadSettings (requestOf s o) with
  | .ok settings => tools.runSettings o settings s.disk
  | .error (.failure f) => { printed := tools.terminal.printFailure 2 f }
  | .error p => { printed := Printed.stop p {} }

/-- The line that tells the version. -/
def versionLine : String :=
  tools.terminal.line "[bold cyan]gosca[/bold cyan] version [green]0.3.0[/green]"

/-- Runs the command with the words of a command line. -/
def runCommand (s : Surroundings) (words : List String) : Outcome :=
  match tools.readWords s.disk words with
  | .ok (.run o) => tools.runOptions s o
  | .ok .version => { printed := { output := tools.versionLine } }
  | .ok (.help text) => { printed := { output := text } }
  | .error (.usage message) => { printed := { messages := [message], ending := .code 2 } }
  | .error (.problem p) => { printed := Printed.stop p {} }

/-- The log file and the source files that the command is going to use, as far
as it gets. -/
def filesToUse (s : Surroundings) (words : List String) : Option String × List String :=
  match tools.readWords s.disk words with
  | .ok (.run o) =>
    match loadSettings (requestOf s o) with
    | .ok settings =>
      let logFile :=
        match settings.value .logFile with
        | .text path => some path
        | _ => none
      let sources : Run (List String) := do
        let analyzer ← (Analyzer.ofSettings settings : Except Problem Analyzer)
        return (← scan s.disk analyzer.rules o.paths).1
      (logFile, sources.records.1.toOption.getD [])
    | .error _ => (none, [])
  | _ => (none, [])

end Toolkit

end GoComplexity
