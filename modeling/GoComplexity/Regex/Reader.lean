/-
# Reading a pattern's text

A pattern is read in pieces: a character, or a backslash with the character
after it.  The reader always knows the next piece and its place, so that a lone
backslash at the end is a fault as soon as the piece before it has been taken.
It also keeps what has been learnt of the pattern: its flags, its groups, and
the groups that are referred to before they are known.

Key definitions: `Piece`, `Source`, `Progress`, `Reader`.
-/
import GoComplexity.Regex.Fault
import GoComplexity.Regex.Pattern
import GoComplexity.Text.Word

namespace GoComplexity.Regex

/-- A piece of a pattern's text. -/
inductive Piece where
  | char (c : Char)
  | escape (c : Char)
deriving DecidableEq, Repr, Inhabited

namespace Piece

/-- The characters of a piece. -/
def chars : Piece → List Char
  | .char c => [c]
  | .escape c => ['\\', c]

def text (p : Piece) : String := String.ofList p.chars

def length (p : Piece) : Nat := p.chars.length

/-- Whether a piece is a letter. -/
def isLetter : Piece → Bool
  | .char c => Text.isLetter c
  | .escape _ => false

end Piece

/-- The next piece, its place, and the text after it. -/
structure Source where
  next : Option Piece
  position : Nat
  rest : List Char
deriving Repr, Inhabited

/-- Reads the next piece at a place. -/
def Source.load (position : Nat) : List Char → Except Fault Source
  | [] => .ok ⟨none, position, []⟩
  | ['\\'] => .error (.malformed .trailingBackslash (some position))
  | '\\' :: c :: rest => .ok ⟨some (.escape c), position, rest⟩
  | c :: rest => .ok ⟨some (.char c), position, rest⟩

/-- A group: its name if it has one, and its width once it is closed. -/
structure Group where
  name : Option String
  width : Option Width
deriving Repr, Inhabited

/-- What has been learnt of a pattern while it is read. -/
structure Progress where
  source : Source
  flags : List Flag := []
  /-- The groups in the order of their numbers, from one on. -/
  groups : List Group := []
  /-- Inside a look behind, the number of groups opened before it. -/
  lookbehindGroups : Option Nat := none
  /-- Numbers of groups that conditions name, each with the place of the first. -/
  conditions : List (Nat × Nat) := []
deriving Inhabited

/-- A step of reading a pattern. -/
abbrev Reader := StateT Progress (Except Fault)

namespace Reader

/-- The next piece. -/
def peek : Reader (Option Piece) := return (← get).source.next

/-- The place of the next piece. -/
def position : Reader Nat := return (← get).source.position

/-- A fault at a place so many characters before the next piece. -/
def failBack {α : Type} (cause : Cause) (back : Nat) : Reader α := do
  throw (.malformed cause (some ((← position) - back)))

/-- A fault at a given place. -/
def failAt {α : Type} (cause : Cause) (place : Nat) : Reader α :=
  throw (.malformed cause (some place))

/-- Takes the next piece, if there is one. -/
def take : Reader (Option Piece) := do
  let s := (← get).source
  let width := (s.next.map Piece.length).getD 0
  let source ← Source.load (s.position + width) s.rest
  modify fun p => { p with source := source }
  return s.next

/-- Takes the next piece if it is a given character. -/
def accepts (c : Char) : Reader Bool := do
  if (← peek) = some (.char c) then
    let _ ← take
    return true
  else return false

/-- Takes up to a number of characters of a kind. -/
def takeWhile (kind : Char → Bool) : Nat → Reader (List Char)
  | 0 => return []
  | limit + 1 => do
    match ← peek with
    | some (.char c) =>
      if kind c then
        let _ ← take
        return c :: (← takeWhile kind limit)
      else return []
    | _ => return []

/-- Takes a name up to a terminator, which is taken too. -/
def takeName (terminator : Char) (what : String) (limit : Nat) : Reader (List Char) :=
  go limit []
where
  go : Nat → List Char → Reader (List Char)
    | 0, _ => failBack (.missing what) 0
    | limit + 1, name => do
      match ← take with
      | none =>
        if name.isEmpty then failBack (.missing what) 0
        else failBack (.unterminatedName (String.singleton terminator)) name.length
      | some p =>
        if p = .char terminator then
          if name.isEmpty then failBack (.missing what) 1 else return name
        else go limit (name ++ p.chars)

/-! ### Groups -/

/-- The number of a named group. -/
def groupNamed? (name : String) : Reader (Option Nat) := do
  return ((← get).groups.findIdx? fun g => g.name == some name).map (· + 1)

/-- The width of a group that is closed. -/
def closedWidth? (number : Nat) : Reader (Option Width) := do
  if number = 0 then return none
  else return ((← get).groups[number - 1]?).bind Group.width

/-- Opens a group and gives its number. -/
def openGroup (name : Option String) : Reader Nat := do
  let number := (← get).groups.length + 1
  match name with
  | none => pure ()
  | some n =>
    match ← groupNamed? n with
    | some earlier => failBack (.groupRedefined n number earlier) (n.length + 1)
    | none => pure ()
  modify fun p => { p with groups := p.groups ++ [⟨name, none⟩] }
  return number

/-- Closes a group. -/
def closeGroup (number : Nat) (width : Width) : Reader Unit :=
  modify fun p => { p with
    groups := p.groups.modify (number - 1) fun g => { g with width := some width } }

/-- Inside a look behind, a group that is referred to must have been closed
before it. -/
def checkLookbehind (number : Nat) : Reader Unit := do
  match (← get).lookbehindGroups with
  | none => return ()
  | some before =>
    if (← closedWidth? number).isNone then failBack .openGroup 0
    else if before < number then failBack .lookbehindGroup 0

/-- A reference to a group, with the places of the faults counted back. -/
def reference (number back : Nat) : Reader Pattern := do
  match ← closedWidth? number with
  | none => failBack .openGroup back
  | some width =>
    checkLookbehind number
    return .reference number width

end Reader

end GoComplexity.Regex
