/-
# Checking settings

Settings are checked in a fixed order, and the first one that cannot be used is
reported: settings with fixed choices, the number of workers, the two maxima,
the file extensions and the pattern.  The other settings are taken as they are.

Key definitions: `Settings.validate`, `Settings.pattern?`.
-/
import GoComplexity.Config.Settings
import GoComplexity.Problem
import GoComplexity.Regex.Parser

namespace GoComplexity

namespace Settings

variable (s : Settings)

/-- The failure of a setting's value. -/
def invalid (x : Setting) (reason : String) : Problem :=
  .failure (.invalidSetting x.key (s.value x) reason)

/-- A setting with fixed choices has one of them. -/
def checkChoice (x : Setting) : Except Problem Unit :=
  let fault := s.invalid x ("expected one of " ++ ", ".intercalate x.choices)
  match s.value x with
  | .text t => if x.choices.contains t then .ok () else .error fault
  | _ => .error fault

/-- A setting with a least value is not below it. -/
def checkLeast (x : Setting) (least : Int) (reason : String) : Except Problem Unit :=
  match (s.value x).isBelow least with
  | .ok false => .ok ()
  | .ok true => .error (s.invalid x reason)
  | .error fault => .error (.type fault)

/-- There is a file extension. -/
def checkExtensions : Except Problem Unit :=
  if (s.value .fileExtensions).truthy then .ok ()
  else .error (s.invalid .fileExtensions "must not be empty")

/-- The pattern of files that are left out, if there is one. -/
def pattern? : Except Problem (Option Regex) :=
  let v := s.value .ignorePattern
  if !v.truthy then .ok none
  else
    match v with
    | .text t =>
      match Regex.ofString t with
      | .ok r => .ok (some r)
      | .error (.malformed cause position) =>
        let fault := Regex.Fault.malformed cause position
        .error (s.invalid .ignorePattern (fault.message t))
      | .error fault => .error (.pattern t fault)
    | .list _ | .table _ => .error (.type (.unhashable v.typeName))
    | _ => .error (.type .notPattern)

/-- Reports the first setting that cannot be used. -/
def validate : Except Problem Unit := do
  s.checkChoice .metric
  s.checkChoice .outputFormat
  s.checkChoice .verbosity
  s.checkLeast .workers 1 "must be at least 1"
  s.checkLeast .maxCyclomatic 0 "must be 0 (off) or positive"
  s.checkLeast .maxCognitive 0 "must be 0 (off) or positive"
  s.checkExtensions
  let _ ← s.pattern?

end Settings

end GoComplexity
