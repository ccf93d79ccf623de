/-
# Problems

What ends a run: a failure of the program, or a value or path of which the
program makes no failure of its own, each with its wording.

Key definitions: `Problem`, `Problem.message`.
-/
import GoComplexity.Disk.Entry
import GoComplexity.Failure
import GoComplexity.Regex.Fault

namespace GoComplexity

/-- What ends a run. -/
inductive Problem where
  /-- A failure of the program. -/
  | failure (f : Failure)
  /-- A value has the wrong type. -/
  | type (fault : TypeFault)
  /-- A path holds a character that no path may hold. -/
  | embeddedNull
  /-- An integer cannot be read. -/
  | integer (fault : IntegerFault)
  /-- A pattern cannot be used although it is not malformed. -/
  | pattern (text : String) (fault : Regex.Fault)
  /-- A path cannot be used. -/
  | path (path : String) (fault : DiskFault)
  /-- A quotient of integers is too large for a floating-point number. -/
  | quotientTooLarge
deriving Inhabited

/-- The wording of a problem. -/
def Problem.message : Problem → String
  | .failure f => f.render
  | .type fault => fault.message
  | .embeddedNull => "embedded null byte"
  | .integer fault => fault.message
  | .pattern text fault => fault.message text
  | .path p fault => s!"[Errno {fault.number}] {fault.reason}: {Text.quote p}"
  | .quotientTooLarge => "integer division result too large for a float"

end GoComplexity
