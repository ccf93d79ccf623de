/-
# Settings from the environment

Each setting may be given by a variable whose name is a fixed beginning and the
setting's key in capitals.  Integers, truth values and lists are read from the
variable's text, anything else is the text itself.

Key definitions: `Setting.variable`, `Setting.readVariable`,
`environmentEntries`.
-/
import GoComplexity.Config.Settings
import GoComplexity.Failure
import GoComplexity.Text.Blank
import GoComplexity.Text.Case

namespace GoComplexity

/-- The text with small ASCII letters made capital. -/
def capitals (s : String) : String := String.ofList (s.toList.map Char.toUpper)

/-- The variable of a setting. -/
def Setting.variable (x : Setting) : String := "GOSCA_" ++ capitals x.key

/-- A truth value. -/
def readTruth (raw : String) : Except String Value :=
  let word := Text.lowerText (Text.trim raw)
  if ["1", "true", "yes", "on"].contains word then .ok (.bool true)
  else if ["0", "false", "no", "off"].contains word then .ok (.bool false)
  else .error s!"expected a boolean, got {Text.quote raw}"

/-- The items between commas, without blanks around them and without empty ones. -/
def readItems (raw : String) : List Value :=
  (((raw.splitOn ",").map Text.trim).filter (· ≠ "")).map Value.text

/-- The value that a variable's text gives a setting, or why it gives none. -/
def Setting.readVariable (x : Setting) (raw : String) : Except String Value :=
  match x with
  | .workers | .top | .bound | .maxCyclomatic | .maxCognitive =>
    match readInteger raw with
    | .ok n => .ok (.int n)
    | .error fault => .error fault.message
  | .strict => readTruth raw
  | .fileExtensions => .ok (.list (readItems raw))
  | _ => .ok (.text raw)

/-- The settings that the environment gives. -/
def environmentEntries (environment : String → Option String) :
    Except Failure (List (String × Value)) :=
  Setting.all.foldlM (fun entries x =>
    match environment x.variable with
    | none => .ok entries
    | some raw =>
      match x.readVariable raw with
      | .ok v => .ok (entries ++ [(x.key, v)])
      | .error reason => .error (.invalidSetting x.variable (.text raw) reason)) []

end GoComplexity
