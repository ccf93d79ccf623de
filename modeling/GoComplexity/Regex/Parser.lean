/-
# Patterns from text

A pattern is alternatives of sequences; a sequence is characters, sets, places
and groups, each of which may be repeated.  In verbose patterns blanks and
comments are left out.  Flags for the whole pattern stand at its start.

Two things are checked once the whole pattern is known: a look behind has to
have a fixed width, and a template has no repetitions.

Key definitions: `parse`, `Regex`, `Regex.ofString`.
-/
import GoComplexity.Regex.Group

namespace GoComplexity.Regex

open Reader

/-! ### Sets -/

/-- Takes a piece of a set that began at a place. -/
def takeInSet (start : Nat) : Reader Piece := do
  match ← take with
  | some p => return p
  | none => failAt .unterminatedSet start

/-- The item that a piece of a set begins. -/
def setItem (limit : Nat) : Piece → Reader SetItem
  | .char c => return .char c.toNat
  | .escape c => escapeInSet c limit

/-- The range between two items of a set, written as two pieces. -/
def rangeOf (this that : Piece) (first last : SetItem) : Reader SetItem := do
  let fault := Cause.badRange (this.text ++ "-" ++ that.text)
  let back := this.length + 1 + that.length
  match first, last with
  | .char lo, .char hi => if hi < lo then failBack fault back else return .range lo hi
  | _, _ => failBack fault back

/-- The items of a set that began at a place, up to its end. -/
def setItems (limit start : Nat) : Nat → List SetItem → Reader (List SetItem)
  | 0, _ => failAt .unterminatedSet start
  | fuel + 1, items => do
    let this ← takeInSet start
    if this = .char ']' && !items.isEmpty then return items.reverse
    let first ← setItem limit this
    if ← accepts '-' then
      let that ← takeInSet start
      if that = .char ']' then return (.char 0x2d :: first :: items).reverse
      let last ← setItem limit that
      setItems limit start fuel ((← rangeOf this that first last) :: items)
    else setItems limit start fuel (first :: items)

/-- A set after its opening bracket. -/
def setRule (limit : Nat) : Reader Pattern := do
  let start := (← position) - 1
  let negated ← accepts '^'
  return .set negated (← setItems limit start (limit + 1) [])

/-! ### Repetitions -/

/-- Repetition numbers stay below this one. -/
def repetitionLimit : Nat := 4294967295

/-- The repetition number of digits; none for no digits. -/
def repetitionNumber? (digits : List Char) : Reader (Option Nat) :=
  if digits.isEmpty then return none
  else if digitLimit < digits.length then throw (.number (.tooLong digits.length))
  else
    let n := ofDigits (digits.map fun c => c.toNat - 0x30)
    if repetitionLimit ≤ n then throw .repetitionTooLarge else return some n

/-- The bounds of a repetition in braces after the opening one; if they are none
the brace stands for itself and nothing has been taken. -/
def bounds? (limit : Nat) : Reader (Option (Nat × Option Nat)) := do
  let start ← get
  if (← peek) = some (.char '\x7d') then return none
  let lo ← takeWhile Char.isDigit limit
  let hi ← if ← accepts ',' then takeWhile Char.isDigit limit else pure lo
  if ← accepts '\x7d' then
    let least ← repetitionNumber? lo
    let most ← repetitionNumber? hi
    if most.any fun m => m < least.getD 0 then failAt .reversedRepetition start.source.position
    return some (least.getD 0, most)
  else
    set start
    return none

namespace Pattern

def isAnchor : Pattern → Bool
  | .anchor _ => true
  | _ => false

def isRepeated : Pattern → Bool
  | .repeated .. => true
  | _ => false

end Pattern

/-- Repeats the last of the parts before a repetition sign at a place. -/
def repeatLast (place least : Nat) (most : Option Nat) (done : List Pattern) :
    Reader (List Pattern) := do
  match done with
  | [] => failAt .nothingToRepeat place
  | last :: before =>
    if last.isAnchor then failAt .nothingToRepeat place
    if last.isRepeated then failAt .multipleRepeat place
    let isLazy ← accepts '?'
    let isPossessive ← if isLazy then pure false else accepts '+'
    let greed := if isLazy then Greed.lazy else if isPossessive then .possessive else .greedy
    return .repeated greed least most last :: before

/-! ### Sequences and alternatives -/

/-- A blank that verbose patterns leave out. -/
def isLayout (c : Char) : Bool := c = ' ' || ('\t' ≤ c && c ≤ '\r')

/-- Skips a comment of a verbose pattern up to the end of the line. -/
def skipComment : Nat → Reader Unit
  | 0 => return ()
  | limit + 1 => do
    match ← take with
    | none => return ()
    | some p => if p = .char '\n' then return () else skipComment limit

/-- Parts of a sequence, the last one first; `first` holds at the start of the
whole pattern. -/
def parts (g : Grammar) (first : Bool) : Nat → Bool → List Pattern → Reader (List Pattern)
  | 0, _, done => return done
  | fuel + 1, verbose, done => do
    let place ← position
    match ← peek with
    | none => return done
    | some (.escape c) =>
      let _ ← take
      parts g first fuel verbose ((← escape c g.limit) :: done)
    | some (.char c) =>
      if c = '|' || c = ')' then return done
      let _ ← take
      if verbose && isLayout c then parts g first fuel verbose done
      else if verbose && c = '#' then
        skipComment (g.limit + 1)
        parts g first fuel verbose done
      else
        match c with
        | '[' => parts g first fuel verbose ((← setRule g.limit) :: done)
        | '.' => parts g first fuel verbose (.any :: done)
        | '^' => parts g first fuel verbose (.anchor .start :: done)
        | '$' => parts g first fuel verbose (.anchor .finish :: done)
        | '?' => parts g first fuel verbose (← repeatLast place 0 (some 1) done)
        | '*' => parts g first fuel verbose (← repeatLast place 0 none done)
        | '+' => parts g first fuel verbose (← repeatLast place 1 none done)
        | '\x7b' =>
          match ← bounds? g.limit with
          | some (least, most) => parts g first fuel verbose (← repeatLast place least most done)
          | none => parts g first fuel verbose (.char 0x7b :: done)
        | '(' =>
          match ← groupRule g verbose place with
          | .part p => parts g first fuel verbose (p :: done)
          | .nothing => parts g first fuel verbose done
          | .globalFlags =>
            if !first || !done.isEmpty then failAt .lateGlobalFlags place
            parts g first fuel ((← get).flags.contains .verbose) done
        | _ => parts g first fuel verbose (.char c.toNat :: done)

/-- A sequence. -/
def sequenceRule (g : Grammar) (first verbose : Bool) : Reader Pattern := do
  return .sequence (← parts g first (g.limit + 1) verbose []).reverse

/-- The alternatives after the first one. -/
def otherAlternatives (g : Grammar) (outermost : Bool) : Nat → Bool → Reader (List Pattern)
  | 0, _ => return []
  | fuel + 1, verbose => do
    if ← accepts '|' then
      let flags := (← get).flags
      let verbose := if outermost then flags.contains .verbose else verbose
      let p ← sequenceRule g false verbose
      return p :: (← otherAlternatives g outermost fuel verbose)
    else return []

/-- Alternatives, of the whole pattern or of a part. -/
def alternativesRule (g : Grammar) (outermost verbose : Bool) : Reader Pattern := do
  let p ← sequenceRule g outermost verbose
  let others ← otherAlternatives g outermost (g.limit + 1) verbose
  return if others.isEmpty then p else .alternatives (p :: others)

/-- The rules for parts nested up to a depth, in a pattern of so many
characters. -/
def grammar (limit : Nat) : Nat → Grammar
  | 0 => ⟨fun _ => failBack .endOfPattern 0, fun _ => failBack .endOfPattern 0, limit⟩
  | depth + 1 =>
    let g := grammar limit depth
    ⟨alternativesRule g false, sequenceRule g false, limit⟩

/-! ### Checks of the whole pattern -/

/-- The name of a repetition in faults. -/
def Greed.name : Greed → String
  | .greedy => "MAX_REPEAT"
  | .lazy => "MIN_REPEAT"
  | .possessive => "POSSESSIVE_REPEAT"

/-- The widest look behind. -/
def lookbehindLimit : Nat := 4294967295

mutual

/-- The first fault that shows only in the whole pattern. -/
def Pattern.lateFault? (template : Bool) : Pattern → Option Cause
  | .char _ | .set .. | .any | .anchor _ | .reference .. => none
  | .sequence parts => firstLateFault? template parts
  | .alternatives options => firstLateFault? template options
  | .repeated greed _ _ body =>
    if template then some (.templateRepeat greed.name) else body.lateFault? template
  | .group _ _ _ body | .atomic body => body.lateFault? template
  | .look behind _ body =>
    if behind && lookbehindLimit < body.width.least then some .lookbehindTooWide
    else if behind && body.width.least ≠ body.width.most then some .lookbehindWidth
    else body.lateFault? template
  | .conditional _ yes none => yes.lateFault? template
  | .conditional _ yes (some no) => (yes.lateFault? template).or (no.lateFault? template)

def firstLateFault? (template : Bool) : List Pattern → Option Cause
  | [] => none
  | p :: ps => (p.lateFault? template).or (firstLateFault? template ps)

end

end GoComplexity.Regex

namespace GoComplexity

/-- A pattern with the flags for the whole of it. -/
structure Regex where
  pattern : Regex.Pattern
  flags : List Regex.Flag
deriving Inhabited

namespace Regex

open Reader

/-- Reads a whole pattern of so many characters. -/
def wholePattern (limit : Nat) : Reader Regex := do
  let p ← alternativesRule (grammar limit limit) true false
  let flags := (← get).flags
  if flags.contains .ascii && flags.contains .unicode then throw .flagClash
  if (← peek).isSome then failBack .unbalanced 0
  let progress ← get
  match progress.conditions.find? fun c => progress.groups.length < c.1 with
  | some (number, place) => failAt (.noGroup number) place
  | none => pure ()
  match p.lateFault? (flags.contains .template) with
  | some cause => throw (.malformed cause none)
  | none => return ⟨p, flags⟩

/-- The pattern that a text describes. -/
def ofString (s : String) : Except Fault Regex := do
  let source ← Source.load 0 s.toList
  let (regex, _) ← (wholePattern (s.length + 1)).run { source := source }
  return regex

end Regex

end GoComplexity
