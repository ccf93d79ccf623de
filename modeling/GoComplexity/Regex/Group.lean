/-
# Groups of a pattern

What stands in parentheses is a group that is remembered, or, after a question
mark, something else: a named group, a reference to one, a comment, a look
ahead or behind, a condition, an atomic group, or flags for the group or for
the whole pattern.

Key definitions: `Grammar`, `groupRule`, `flagsRule`.
-/
import GoComplexity.Regex.Escape
import GoComplexity.Text.Identifier

namespace GoComplexity.Regex

open Reader

/-- How the parts of a group are read, with blanks left out or not, and how
many characters the pattern has. -/
structure Grammar where
  alternatives : (verbose : Bool) → Reader Pattern
  sequence : (verbose : Bool) → Reader Pattern
  limit : Nat

/-- What stands in parentheses: a part of the pattern, nothing, or flags for the
whole pattern. -/
inductive GroupItem where
  | part (p : Pattern)
  | nothing
  | globalFlags
deriving Inhabited

/-- Takes the next piece, which has to be there. -/
def takePiece : Reader Piece := do
  match ← take with
  | some p => return p
  | none => failBack .endOfPattern 0

/-- The end of a group that began at a place. -/
def closing (start : Nat) : Reader Unit := do
  unless ← accepts ')' do failAt .unterminatedGroup start

/-! ### Flags -/

/-- The flag of a piece. -/
def flagOf? : Piece → Option Flag
  | .char c => Flag.ofChar? c
  | .escape _ => none

/-- Takes the piece after a flag: another flag, or one of the terminators. -/
def afterFlag (terminators : List Char) (what : String) : Reader (Piece × Option Flag) := do
  match ← take with
  | none => failBack (.missing what) 0
  | some p =>
    if terminators.any fun c => p = .char c then return (p, none)
    else
      match flagOf? p with
      | some f => return (p, some f)
      | none => failBack (if p.isLetter then .unknownFlag else .missing what) p.length

/-- Flags that are added, from the first one on, and what ends them. -/
def addedFlags : Nat → Flag → List Flag → Reader (List Flag × Piece)
  | 0, _, _ => failBack .unknownFlag 0
  | limit + 1, f, flags => do
    if f = .locale then failBack .localeFlag 0
    let flags := if flags.contains f then flags else flags ++ [f]
    if f.isType && flags.any (fun g => g.isType && g ≠ f) then failBack .exclusiveFlags 0
    match ← afterFlag [')', '-', ':'] "-, : or )" with
    | (_, some next) => addedFlags limit next flags
    | (p, none) => return (flags, p)

/-- Flags that are removed, from the first one on, up to the colon. -/
def removedFlags : Nat → Flag → List Flag → Reader (List Flag)
  | 0, _, _ => failBack .unknownFlag 0
  | limit + 1, f, flags => do
    if f.isType then failBack .typeFlagOff 0
    let flags := if flags.contains f then flags else flags ++ [f]
    match ← afterFlag [':'] ":" with
    | (_, some next) => removedFlags limit next flags
    | (_, none) => return flags

/-- The flags that a group adds and removes; none if they are for the whole
pattern. -/
def flagsRule (limit : Nat) (first : Piece) : Reader (Option (List Flag × List Flag)) := do
  let (added, ending) ←
    match flagOf? first with
    | some f => addedFlags limit f []
    | none => pure ([], first)
  if ending = .char ')' then
    modify fun p => { p with flags := p.flags ++ added.filter fun f => !p.flags.contains f }
    return none
  if added.contains .template then failBack .globalFlagOn 1
  let removed ←
    if ending = .char '-' then
      match ← afterFlag [] "flag" with
      | (_, some f) => removedFlags limit f []
      | (_, none) => pure []
    else pure []
  if removed.contains .template then failBack .globalFlagOff 1
  if added.any removed.contains then failBack .flagOnAndOff 1
  return some (added, removed)

/-! ### Names -/

/-- The name of a group up to a terminator, which has to be an identifier. -/
def groupName (terminator : Char) (limit : Nat) : Reader String := do
  let name ← takeName terminator "group name" limit
  let text := String.ofList name
  if Text.isIdentifier name then return text
  else failBack (.badGroupName text) (name.length + 1)

/-- The number of a group that has to be known by its name. -/
def knownGroup (name : String) : Reader Nat := do
  match ← groupNamed? name with
  | some number => return number
  | none => failBack (.unknownGroupName name) (name.length + 1)

/-- The most groups that a pattern may have. -/
def groupLimit : Nat := 1073741823

/-- The group that a condition names, by name or number. -/
def conditionGroup (limit : Nat) : Reader Nat := do
  let name ← takeName ')' "group name" limit
  let text := String.ofList name
  let back := name.length + 1
  if Text.isIdentifier name then knownGroup text
  else
    match readInteger text with
    | .error _ => failBack (.badGroupName text) back
    | .ok n =>
      if n < 0 then failBack (.badGroupName text) back
      else if n = 0 then failBack .badGroupNumber back
      else if (groupLimit : Int) ≤ n then failBack (.noGroup n) back
      else
        let place := (← position) - back
        let number := n.toNat
        modify fun p =>
          if p.conditions.any fun c => c.1 = number then p
          else { p with conditions := p.conditions ++ [(number, place)] }
        return number

/-! ### What stands in parentheses -/

variable (g : Grammar) (verbose : Bool)

/-- A group with a body, remembered or not. -/
def bodyRule (start : Nat) (number : Option Nat) (added removed : List Flag) :
    Reader Pattern := do
  let inner := (verbose || added.contains .verbose) && !removed.contains .verbose
  let body ← g.alternatives inner
  closing start
  match number with
  | some n => closeGroup n body.width
  | none => pure ()
  return .group number added removed body

/-- A look ahead or behind. -/
def lookRule (start : Nat) (behind negated : Bool) : Reader Pattern := do
  let outer := (← get).lookbehindGroups
  if behind && outer.isNone then
    modify fun p => { p with lookbehindGroups := some p.groups.length }
  let body ← g.alternatives verbose
  if behind then modify fun p => { p with lookbehindGroups := outer }
  closing start
  return .look behind negated body

/-- A choice between two patterns by what a group has matched. -/
def conditionRule (start : Nat) : Reader Pattern := do
  let number ← conditionGroup g.limit
  checkLookbehind number
  let yes ← g.sequence verbose
  let no ←
    if ← accepts '|' then
      let no ← g.sequence verbose
      if (← peek) = some (.char '|') then failBack .threeBranches 0
      pure (some no)
    else pure none
  closing start
  return .conditional number yes no

/-- Skips a comment in a group that began at a place. -/
def commentRule (start : Nat) : Nat → Reader Unit
  | 0 => failAt .unterminatedComment start
  | limit + 1 => do
    match ← take with
    | none => failAt .unterminatedComment start
    | some p => if p = .char ')' then return () else commentRule start limit

/-- A named group or a reference to one. -/
def namedRule (start : Nat) : Reader Pattern := do
  if ← accepts '<' then
    let number ← openGroup (some (← groupName '>' g.limit))
    bodyRule g verbose start (some number) [] []
  else if ← accepts '=' then
    let name ← groupName ')' g.limit
    reference (← knownGroup name) (name.length + 1)
  else
    let p ← takePiece
    failBack (.unknownExtension ("P" ++ p.text)) (p.length + 2)

/-- What follows a question mark in a group that began at a place. -/
def extensionRule (start : Nat) : Reader GroupItem := do
  let p ← takePiece
  match p with
  | .char 'P' => return .part (← namedRule g verbose start)
  | .char ':' => return .part (← bodyRule g verbose start none [] [])
  | .char '#' =>
    commentRule start (g.limit + 1)
    return .nothing
  | .char '=' => return .part (← lookRule g verbose start false false)
  | .char '!' => return .part (← lookRule g verbose start false true)
  | .char '<' =>
    let q ← takePiece
    if q = .char '=' then return .part (← lookRule g verbose start true false)
    else if q = .char '!' then return .part (← lookRule g verbose start true true)
    else failBack (.unknownExtension ("<" ++ q.text)) (q.length + 2)
  | .char '(' => return .part (← conditionRule g verbose start)
  | .char '>' =>
    let body ← g.alternatives verbose
    closing start
    return .part (.atomic body)
  | _ =>
    if (flagOf? p).isSome || p = .char '-' then
      match ← flagsRule (g.limit + 1) p with
      | some (added, removed) => return .part (← bodyRule g verbose start none added removed)
      | none => return .globalFlags
    else failBack (.unknownExtension p.text) (p.length + 1)

/-- What stands in parentheses that began at a place. -/
def groupRule (start : Nat) : Reader GroupItem := do
  if ← accepts '?' then extensionRule g verbose start
  else
    let number ← openGroup none
    return .part (← bodyRule g verbose start (some number) [] [])

end GoComplexity.Regex
