/-
# The effective settings

Settings come in layers: a file in the home directory, a file in the working
directory, a file that is named, the environment, and what a caller gives.  A
later layer hides an earlier one key by key; a caller's value that is absent
hides nothing.  The two flags of a caller that stand for a verbosity hide
everything else, the quiet one before the verbose one.

Key definitions: `merge`, `configFileEntries`, `Request`, `Request.entries`,
`loadSettings`.
-/
import GoComplexity.Config.Environment
import GoComplexity.Config.Validation
import GoComplexity.Text.Lines
import GoComplexity.Text.Utf8
import GoComplexity.Toml.Parser

namespace GoComplexity

/-- Named values. -/
abbrev Entries := List (String × Value)

/-- One layer hidden key by key by the next one. -/
def merge (below above : Entries) : Entries := above.foldl (fun acc e => Toml.put e.1 e.2 acc) below

/-- The settings of a configuration text: a table of the program's name, or the
whole document. -/
def configTextEntries (text : String) : Except ConfigFileFault (Except IntegerFault Entries) :=
  let source := String.ofList (Text.unifyLines text.toList)
  match Toml.parse source with
  | .error (.number fault) => .ok (.error fault)
  | .error fault => .error (.malformed source fault)
  | .ok document =>
    match document.lookup "gosca" with
    | none => .ok (.ok document)
    | some (.table entries) => .ok (.ok entries)
    | some _ => .error .notTable

/-- The settings of a configuration file that has been read. -/
def configFileEntries (path : String) (content : ByteArray) : Except Problem Entries :=
  let shown := displayPath path
  match Text.decode? content with
  | none => .error (.failure (.configFile shown .notText))
  | some text =>
    match configTextEntries text with
    | .error fault => .error (.failure (.configFile shown fault))
    | .ok (.error fault) => .error (.integer fault)
    | .ok (.ok entries) => .ok entries

/-- What the settings of a run are made from. -/
structure Request where
  disk : Disk
  /-- The home directory. -/
  home : String
  environment : String → Option String
  /-- The configuration file that is named, if one is. -/
  configFile : Option String := none
  /-- What the caller gives. -/
  overrides : Entries := []

namespace Request

/-- The configuration file that is named has to exist. -/
def checkConfigFile (r : Request) : Except Problem Unit :=
  match r.configFile with
  | none => .ok ()
  | some path =>
    let shown := displayPath path
    let missing := Problem.failure (.invalidPath path "config file not found")
    if holdsNull path then .error missing
    else
      match r.disk.find shown with
      | .ok _ => .ok ()
      | .error fault => .error (if fault.tellsAbsence then missing else .path shown fault)

/-- The settings of a file, none if there is no such file. -/
def fileEntries (r : Request) (path : String) : Except Problem Entries :=
  match r.disk.find (displayPath path) with
  | .ok (.file content) => configFileEntries path content
  | .ok _ => .ok []
  | .error fault =>
    if fault.tellsAbsence then .ok [] else .error (.path (displayPath path) fault)

/-- The configuration files in the order of their layers. -/
def configFiles (r : Request) : List String :=
  [joinPath r.home ".gosca.toml", joinPath r.disk.workingPath "gosca.toml"] ++ r.configFile.toList

/-- What the caller gives, without absent values and the flags of the verbosity. -/
def plainOverrides (r : Request) : Entries :=
  r.overrides.filter fun e =>
    e.1 ≠ "verbose" && e.1 ≠ "quiet" &&
      match e.2 with
      | .none => false
      | _ => true

/-- Whether the caller gives a flag. -/
def hasFlag (r : Request) (flag : String) : Bool :=
  ((r.overrides.lookup flag).map Value.truthy).getD false

/-- The verbosity that the caller's flags stand for. -/
def flagEntries (r : Request) : Entries :=
  if r.hasFlag "quiet" then [("verbosity", .text "quiet")]
  else if r.hasFlag "verbose" then [("verbosity", .text "verbose")]
  else []

/-- The layers, from the one that hides nothing on. -/
def layers (r : Request) : Except Problem (List Entries) := do
  r.checkConfigFile
  let files ← r.configFiles.mapM r.fileEntries
  let environment ← (environmentEntries r.environment).mapError Problem.failure
  return files ++ [environment, r.plainOverrides, r.flagEntries]

/-- The effective values. -/
def entries (r : Request) : Except Problem Entries :=
  r.layers.map fun layers => layers.foldl merge []

end Request

/-- The keys that are no settings, in order. -/
def unknownKeys (entries : Entries) : List String :=
  (((entries.map Prod.fst).filter fun k => (Setting.ofKey? k).isNone).eraseDups).mergeSort
    fun a b => !(b < a)

/-- The settings that a caller gives directly. -/
def makeSettings (entries : Entries) : Except Problem Settings := do
  let s := Settings.ofEntries entries
  s.validate
  return s

/-- The settings of a run. -/
def loadSettings (r : Request) : Except Problem Settings := do
  let entries ← r.entries
  let unknown := unknownKeys entries
  if !unknown.isEmpty then throw (.failure (.unknownSettings unknown))
  match makeSettings entries with
  | .error (.type fault) => throw (.failure (.illTypedSetting fault))
  | other => other

end GoComplexity
