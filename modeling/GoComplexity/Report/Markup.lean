/-
# Marked-up text

A text for a terminal may hold tags in brackets, which style it and are not
shown.  A tag begins with a small letter, `#`, `/` or `@`; one after an odd
number of backslashes is text.  Names of pictures between colons are shown as
the pictures, and control characters that move the cursor are dropped.

Key definitions: `splitTags`, `escapeMarkup`, `displayMarkup`.
-/
import GoComplexity.Text.Emoji

namespace GoComplexity

/-- A part of a marked-up text. -/
inductive Piece where
  /-- Text without tags. -/
  | plain (cs : List Char)
  /-- A tag in brackets, with the number of backslashes before it. -/
  | tag (backslashes : Nat) (body : List Char)
deriving DecidableEq, Repr, Inhabited

/-- A character with which a tag may begin. -/
def beginsTag (c : Char) : Bool := ('a' ≤ c && c ≤ 'z') || c = '#' || c = '/' || c = '@'

/-- A character that may stand in a tag. -/
def inTag (c : Char) : Bool := c ≠ '[' && c ≠ ']'

/-- The tag at the beginning of a text, without its brackets, and what follows. -/
def tagAt? : List Char → Option (List Char × List Char)
  | '[' :: c :: rest =>
    if beginsTag c then
      let inner := rest.takeWhile inTag
      match rest.drop inner.length with
      | ']' :: after => some (c :: inner, after)
      | _ => none
    else none
  | _ => none

/-- What follows a tag is shorter than the text that begins with it. -/
theorem length_of_tagAt?_eq_some {cs body after : List Char} (h : tagAt? cs = some (body, after)) :
    after.length < cs.length := by
  unfold tagAt? at h
  split at h
  · rename_i c rest
    split at h
    · dsimp only at h
      split at h
      · rename_i heq
        have hle := (List.drop_sublist (rest.takeWhile inTag).length rest).length_le
        rw [heq] at hle
        simp only [Option.some.injEq, Prod.mk.injEq] at h
        rw [← h.2]
        simp only [List.length_cons] at hle ⊢
        omega
      · simp at h
    · simp at h
  · simp at h

/-- A text before the pieces of what follows it. -/
def consPlain (cs : List Char) : List Piece → List Piece
  | .plain more :: pieces => .plain (cs ++ more) :: pieces
  | pieces => if cs.isEmpty then pieces else .plain cs :: pieces

/-- The pieces of what follows so many backslashes, and of these. -/
def splitTagsAfter (backslashes : Nat) : List Char → List Piece
  | [] => consPlain (List.replicate backslashes '\\') []
  | c :: rest =>
    match h : tagAt? (c :: rest) with
    | some (body, after) =>
      have := length_of_tagAt?_eq_some h
      .tag backslashes body :: splitTagsAfter 0 after
    | none =>
      if c = '\\' then splitTagsAfter (backslashes + 1) rest
      else consPlain (List.replicate backslashes '\\' ++ [c]) (splitTagsAfter 0 rest)
termination_by cs => cs.length
decreasing_by
  · assumption
  all_goals simp only [List.length_cons]; omega

/-- The pieces of a text. -/
def splitTags (cs : List Char) : List Piece := splitTagsAfter 0 cs

/-- The text of a tag in its brackets. -/
def bracketed (body : List Char) : List Char := '[' :: body ++ [']']

/-- A piece as text: a tag gets a backslash, and those before it are doubled. -/
def escapePiece : Piece → List Char
  | .plain cs => cs
  | .tag backslashes body => List.replicate (2 * backslashes + 1) '\\' ++ bracketed body

/-- A text as marked-up text that shows it; a backslash at the end is doubled
unless there are two. -/
def escapeMarkup (s : String) : String :=
  let cs := (splitTags s.toList).flatMap escapePiece
  let ending :=
    match cs.reverse with
    | '\\' :: '\\' :: _ => []
    | '\\' :: _ => ['\\']
    | _ => []
  String.ofList (cs ++ ending)

/-- Whether a control character is dropped. -/
def isDropped (c : Char) : Bool :=
  let n := c.toNat
  n = 7 || n = 8 || n = 11 || n = 12 || n = 13

/-- A text without tags as it is shown: a backslash before a bracket goes. -/
def showPlain : List Char → List Char
  | [] => []
  | '\\' :: '[' :: rest => '[' :: showPlain rest
  | c :: rest => c :: showPlain rest

/-- What a text without tags shows. -/
def displayPlain (cs : List Char) : List Char :=
  (Text.replacePictures (showPlain cs)).filter fun c => !isDropped c

/-- What a piece shows. -/
def displayPiece : Piece → List Char
  | .plain cs => displayPlain cs
  | .tag backslashes body =>
    List.replicate (backslashes / 2) '\\' ++
      if backslashes % 2 = 1 then displayPlain (bracketed body) else []

/-- What a marked-up text shows. -/
def displayMarkup (s : String) : List Char := (splitTags s.toList).flatMap displayPiece

end GoComplexity
