/-
# Patterns

A pattern describes texts: single characters and classes of them, places in
the text, sequences, alternatives, repetitions, groups that remember what they
matched, and looks at what stands before or after.  Characters are kept as code
points, since a pattern may name some that no text holds.

The width of a pattern is the least and the greatest number of characters that
it can match.

Key definitions: `Pattern`, `Pattern.width`, `Flag`.
-/
namespace GoComplexity.Regex

/-- How letters, lines and classes are understood in a part of a pattern. -/
inductive Flag where
  | ignoreCase
  | locale
  | multiline
  | dotAll
  | verbose
  | ascii
  | template
  | unicode
deriving DecidableEq, Repr, Inhabited

namespace Flag

/-- The flag of a letter. -/
def ofChar? : Char → Option Flag
  | 'i' => some ignoreCase
  | 'L' => some locale
  | 'm' => some multiline
  | 's' => some dotAll
  | 'x' => some verbose
  | 'a' => some ascii
  | 't' => some template
  | 'u' => some unicode
  | _ => none

/-- Flags that say what a letter is; they exclude each other. -/
def isType (f : Flag) : Bool := f = ascii || f = locale || f = unicode

/-- The flags in force after some are added and others removed. -/
def combine (flags added removed : List Flag) : List Flag :=
  let kept := if added.any isType then flags.filter fun f => !f.isType else flags
  (kept ++ added).filter fun f => !removed.contains f

end Flag

/-- Classes of characters with a name of their own. -/
inductive CharClass where
  | digit
  | space
  | word
deriving DecidableEq, Repr, Inhabited

/-- A member of a set of characters. -/
inductive SetItem where
  | char (code : Nat)
  | range (first last : Nat)
  | charClass (c : CharClass) (negated : Bool)
deriving DecidableEq, Repr, Inhabited

/-- A place in the text. -/
inductive Anchor where
  | textStart
  | textEnd
  /-- The start of the text, or of a line. -/
  | start
  /-- The end of the text or before the line feed that ends it, or the end of
  a line. -/
  | finish
  | boundary
  | noBoundary
deriving DecidableEq, Repr, Inhabited

/-- How a repetition goes on: as long as it can, as short as it can, or as long
as it can without giving anything back. -/
inductive Greed where
  | greedy
  | lazy
  | possessive
deriving DecidableEq, Repr, Inhabited

/-- The least and the greatest number of characters that a pattern matches. -/
structure Width where
  least : Nat
  most : Nat
deriving DecidableEq, Repr, Inhabited

/-- A pattern. -/
inductive Pattern where
  | char (code : Nat)
  | set (negated : Bool) (items : List SetItem)
  | any
  | anchor (place : Anchor)
  | sequence (parts : List Pattern)
  | alternatives (options : List Pattern)
  /-- Between `least` and `most` times; no `most` is no bound. -/
  | repeated (greed : Greed) (least : Nat) (most : Option Nat) (body : Pattern)
  /-- A group, remembered under a number if it has one, with flags of its own. -/
  | group (number : Option Nat) (added removed : List Flag) (body : Pattern)
  /-- What is matched first is kept. -/
  | atomic (body : Pattern)
  /-- A look at what stands ahead or behind, which has to match or not to. -/
  | look (behind negated : Bool) (body : Pattern)
  /-- What a group matched, once more; the width is that of the group. -/
  | reference (number : Nat) (width : Width)
  /-- One of two patterns, as a group has matched or not. -/
  | conditional (number : Nat) (yes : Pattern) (no : Option Pattern)
deriving Inhabited

/-- Widths are counted up to here. -/
def widthLimit : Nat := 0x10000000000000000

namespace Width

def zero : Width := ⟨0, 0⟩

def one : Width := ⟨1, 1⟩

/-- The width of one thing after another. -/
def add (a b : Width) : Width :=
  ⟨min widthLimit (a.least + b.least), min widthLimit (a.most + b.most)⟩

/-- The width of one thing or another. -/
def or (a b : Width) : Width := ⟨min a.least b.least, max a.most b.most⟩

/-- The width of a repetition. -/
def times (w : Width) (least : Nat) (most : Option Nat) : Width :=
  ⟨min widthLimit (w.least * least),
    match most with
    | none => if w.most = 0 then 0 else widthLimit
    | some n => min widthLimit (w.most * n)⟩

end Width

namespace Pattern

mutual

/-- The width of a pattern. -/
def width : Pattern → Width
  | .char _ | .set .. | .any => .one
  | .anchor _ | .look .. => .zero
  | .sequence parts => widthOfAll parts
  | .alternatives options => widthOfAny options
  | .repeated _ least most body => body.width.times least most
  | .group _ _ _ body | .atomic body => body.width
  | .reference _ w => w
  | .conditional _ yes none => ⟨0, yes.width.most⟩
  | .conditional _ yes (some no) => yes.width.or no.width

/-- The width of patterns one after another. -/
def widthOfAll : List Pattern → Width
  | [] => .zero
  | p :: ps => p.width.add (widthOfAll ps)

/-- The width of one of several patterns. -/
def widthOfAny : List Pattern → Width
  | [] => ⟨widthLimit, 0⟩
  | p :: ps => p.width.or (widthOfAny ps)

end

end Pattern

end GoComplexity.Regex
