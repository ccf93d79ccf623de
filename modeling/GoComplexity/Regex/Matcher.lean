/-
# Searching with a pattern

A pattern is run at a place of the text with what has to match after it; the
first way to match that lets the rest match is taken.  What groups have matched
is kept as places of the text.  A repetition that has matched often enough is
not repeated on the empty text at the same place, so that it ends.

Key definitions: `run`, `Regex.matchesAt`, `Regex.search`.
-/
import GoComplexity.Regex.Parser
import GoComplexity.Text.Case

namespace GoComplexity.Regex

/-- How the characters of a text are compared in a part of a pattern. -/
structure Mode where
  ignoreCase : Bool
  multiline : Bool
  dotAll : Bool
  ascii : Bool
deriving DecidableEq, Repr, Inhabited

/-- The mode under flags. -/
def Mode.ofFlags (flags : List Flag) : Mode where
  ignoreCase := flags.contains .ignoreCase
  multiline := flags.contains .multiline
  dotAll := flags.contains .dotAll
  ascii := flags.contains .ascii

/-- A place in the text and where the groups that have been entered start and
end. -/
structure State where
  position : Nat
  starts : List (Nat × Nat) := []
  stops : List (Nat × Nat) := []
deriving Repr, Inhabited

/-- The text that a group has matched, from one place to another. -/
def State.span? (s : State) (number : Nat) : Option (Nat × Nat) := do
  let start ← s.starts.lookup number
  let stop ← s.stops.lookup number
  if start ≤ stop then some (start, stop) else none

/-! ### Characters -/

/-- The lower case of a letter. -/
def Mode.lower (m : Mode) (n : Nat) : Nat :=
  if m.ascii then (if 0x41 ≤ n && n ≤ 0x5a then n + 0x20 else n) else Text.lower n

/-- The characters that a character of the text may stand for. -/
def Mode.variants (m : Mode) (n : Nat) : List Nat :=
  if !m.ignoreCase then [n]
  else if m.ascii then
    if 0x61 ≤ m.lower n && m.lower n ≤ 0x7a then [m.lower n, m.lower n - 0x20] else [n]
  else Text.variants n

/-- Membership in a class. -/
def CharClass.contains (m : Mode) (k : CharClass) (c : Char) : Bool :=
  if m.ascii then
    match k with
    | .digit => c.isDigit
    | .space => c = ' ' || ('\t' ≤ c && c ≤ '\r')
    | .word => c.isAlphanum || c = '_'
  else
    match k with
    | .digit => Text.isDecimal c
    | .space => Text.isBlank c
    | .word => Text.isWord c

/-- Whether an item accepts a character, whose variants are given too. -/
def SetItem.accepts (m : Mode) (c : Char) (variants : List Nat) : SetItem → Bool
  | .char code => variants.contains code
  | .range first last => variants.any fun v => first ≤ v && v ≤ last
  | .charClass k negated => k.contains m c != negated

/-! ### Places -/

/-- Whether the character at a place is a word character. -/
def wordAt (m : Mode) (text : Array Char) (i : Nat) : Bool :=
  (text[i]?).any fun c => CharClass.word.contains m c

/-- Whether a place lies between a word character and none. -/
def isBoundary (m : Mode) (text : Array Char) (i : Nat) : Bool :=
  (i ≠ 0 && wordAt m text (i - 1)) != wordAt m text i

/-- Whether an anchor holds at a place. -/
def Anchor.holds (m : Mode) (text : Array Char) (i : Nat) : Anchor → Bool
  | .textStart => i = 0
  | .textEnd => i = text.size
  | .start => i = 0 || (m.multiline && text[i - 1]? = some '\n')
  | .finish =>
    i = text.size || (text[i]? = some '\n' && (m.multiline || i + 1 = text.size))
  | .boundary => text.size ≠ 0 && isBoundary m text i
  | .noBoundary => text.size ≠ 0 && !isBoundary m text i

/-! ### Running -/

/-- What has to match after a part of a pattern. -/
abbrev Rest := State → Option State

/-- Takes one character of a kind. -/
def step (text : Array Char) (kind : Char → Bool) (s : State) (rest : Rest) : Option State :=
  match text[s.position]? with
  | some c => if kind c then rest { s with position := s.position + 1 } else none
  | none => none

/-- Whether a text stands at a place, up to case where it does not count. -/
def repeatsAt (m : Mode) (text : Array Char) (start stop i : Nat) : Bool :=
  i + (stop - start) ≤ text.size &&
    (List.range (stop - start)).all fun k =>
      let (a, b) := (text.getD (start + k) ' ', text.getD (i + k) ' ')
      if m.ignoreCase then m.lower a.toNat = m.lower b.toNat else a = b

/-- Repeats a body that has matched `count` times, last at the place `last` when
it need not have.  Each round but the last makes the count nearer to the least
one or takes a character, which bounds their number. -/
def again (body : State → Rest → Option State) (greed : Greed) (least : Nat)
    (most : Option Nat) : Nat → Nat → Option Nat → State → Rest → Option State
  | 0, _, _, _, _ => none
  | fuel + 1, count, last, s, rest =>
    if count < least then
      body s fun s' => again body greed least most fuel (count + 1) last s' rest
    else
      let onward (_ : Unit) : Option State :=
        if most.all (count < ·) && last ≠ some s.position then
          body s fun s' =>
            again body greed least most fuel (count + 1) (some s.position) s' rest
        else none
      match greed with
      | .lazy => (rest s).or (onward ())
      | _ => (onward ()).or (rest s)

/-- Repeats a body as often as it can, each time taking its first match. -/
def exhaust (body : State → Rest → Option State) (least : Nat) (most : Option Nat) :
    Nat → Nat → State → Option State
  | 0, _, _ => none
  | fuel + 1, count, s =>
    if count < least then (body s some).bind (exhaust body least most fuel (count + 1))
    else if most.all (count < ·) then
      match body s some with
      | none => some s
      | some s' =>
        if s'.position = s.position then some s' else exhaust body least most fuel (count + 1) s'
    else some s

/-- A pattern with a body that is run by a function, repeated. -/
def runRepeated (text : Array Char) (body : State → Rest → Option State) (greed : Greed)
    (least : Nat) (most : Option Nat) (s : State) (rest : Rest) : Option State :=
  let rounds := least + (text.size - s.position) + 2
  match greed with
  | .possessive => (exhaust body least most rounds 0 s).bind rest
  | _ => again body greed least most rounds 0 none s rest

mutual

/-- Runs a pattern at a place: the first way to match it and the rest. -/
def run (text : Array Char) (flags : List Flag) : Pattern → State → Rest → Option State
  | .char code, s, rest =>
    step text (fun c => ((Mode.ofFlags flags).variants c.toNat).contains code) s rest
  | .set negated items, s, rest =>
    let m := Mode.ofFlags flags
    step text (fun c =>
      let variants := m.variants c.toNat
      (items.any fun item => item.accepts m c variants) != negated) s rest
  | .any, s, rest => step text (fun c => (Mode.ofFlags flags).dotAll || c ≠ '\n') s rest
  | .anchor place, s, rest =>
    if place.holds (Mode.ofFlags flags) text s.position then rest s else none
  | .sequence parts, s, rest => runAll text flags parts s rest
  | .alternatives options, s, rest => runAny text flags options s rest
  | .repeated greed least most body, s, rest =>
    runRepeated text (run text flags body) greed least most s rest
  | .group none added removed body, s, rest =>
    run text (Flag.combine flags added removed) body s rest
  | .group (some n) added removed body, s, rest =>
    run text (Flag.combine flags added removed) body
      { s with starts := (n, s.position) :: s.starts }
      fun s' => rest { s' with stops := (n, s'.position) :: s'.stops }
  | .atomic body, s, rest => (run text flags body s some).bind rest
  | .look behind negated body, s, rest =>
    let back := if behind then body.width.least else 0
    let found :=
      if s.position < back then none
      else run text flags body { s with position := s.position - back } some
    if negated then (if found.isNone then rest s else none)
    else found.bind fun s' => rest { s' with position := s.position }
  | .reference n _, s, rest =>
    match s.span? n with
    | some (start, stop) =>
      if repeatsAt (Mode.ofFlags flags) text start stop s.position then
        rest { s with position := s.position + (stop - start) }
      else none
    | none => none
  | .conditional n yes none, s, rest =>
    if (s.span? n).isSome then run text flags yes s rest else rest s
  | .conditional n yes (some no), s, rest =>
    if (s.span? n).isSome then run text flags yes s rest else run text flags no s rest

/-- Runs patterns one after another. -/
def runAll (text : Array Char) (flags : List Flag) : List Pattern → State → Rest → Option State
  | [], s, rest => rest s
  | p :: ps, s, rest => run text flags p s fun s' => runAll text flags ps s' rest

/-- Runs the first of several patterns that lets the rest match. -/
def runAny (text : Array Char) (flags : List Flag) : List Pattern → State → Rest → Option State
  | [], _, _ => none
  | p :: ps, s, rest => (run text flags p s rest).or (runAny text flags ps s rest)

end

end GoComplexity.Regex

namespace GoComplexity.Regex

/-- Whether a pattern matches at a place of a text. -/
def matchesAt (r : Regex) (text : Array Char) (i : Nat) : Bool :=
  (run text r.flags r.pattern { position := i } some).isSome

/-- Whether a pattern matches anywhere in a text. -/
def search (r : Regex) (s : String) : Bool :=
  let text := s.toList.toArray
  (List.range (text.size + 1)).any fun i => r.matchesAt text i

end GoComplexity.Regex
