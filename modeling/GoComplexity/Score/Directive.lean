/-
# Directives in comments

A comment line that begins with the marker `//go-sca:` carries a keyword, the
rest of the line without the blanks around it.  A declaration whose doc comment
carries the keyword `ignore` is not reported.

Key definitions: `directives`, `hasIgnore`.
-/
import GoComplexity.Text.Blank

namespace GoComplexity

/-- What begins a directive. -/
def directiveMarker : String := "//go-sca:"

/-- The keyword of a comment line, if it is a directive. -/
def directive? (comment : String) : Option String :=
  let marker := directiveMarker.toList
  let line := comment.toList
  if marker.isPrefixOf line then
    some (String.ofList (Text.trimChars (line.drop marker.length)))
  else none

/-- The keywords of a list of comment lines, in order. -/
def directives (comments : List String) : List String := comments.filterMap directive?

/-- Whether one of the comment lines says that the declaration is not reported. -/
def hasIgnore (comments : List String) : Bool := (directives comments).contains "ignore"

end GoComplexity
