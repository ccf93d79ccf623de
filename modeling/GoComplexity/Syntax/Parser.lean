/-
# Parsers over tokens

A parser reads tokens and gives a syntax tree, or fails at a point.  Of two
alternatives that both fail, the failure further on is kept.

The grammar's rules refer to one another through a `Grammar`, which says how
each goal is parsed; the recursion is tied later, with a bound on its depth.

Key definitions: `Parser`, `Goal`, `Grammar`, `Parser.symbol`, `Parser.orElse`,
`Parser.collect`, `build`.
-/
import GoComplexity.Syntax.Token

namespace GoComplexity

/-- The end of the file, for want of any token. -/
def Token.fileEnd : Token := ⟨.fileEnd, "", {}, {}⟩

/-- Whether a token is a given symbol or keyword. -/
def Token.isSymbol (t : Token) (s : String) : Bool := t.kind == .symbol && t.text == s

/-- Whether a token is a name. -/
def Token.isName (t : Token) : Bool := t.kind == .identifier

/-- A parser: it reads the tokens of its state, or fails at a point. -/
abbrev Parser := StateT (List Token) (Except Point)

namespace Parser

/-- The next token. -/
def peek : Parser Token := fun ts => .ok (ts.headD Token.fileEnd, ts)

/-- The token after the next. -/
def peekSecond : Parser Token := fun ts => .ok ((ts.drop 1).headD Token.fileEnd, ts)

/-- The token after that. -/
def peekThird : Parser Token := fun ts => .ok ((ts.drop 2).headD Token.fileEnd, ts)

/-- Fails at the next token. -/
def fail {α : Type} : Parser α := fun ts => .error (ts.headD Token.fileEnd).start

/-- Takes the next token. -/
def take : Parser Token := fun ts => .ok (ts.headD Token.fileEnd, ts.drop 1)

/-- Whether the next token is a given symbol. -/
def sees (s : String) : Parser Bool := do return (← peek).isSymbol s

/-- Tries the second parser where the first one fails. -/
def orElse {α : Type} (p q : Parser α) : Parser α := fun ts =>
  match p ts with
  | .ok r => .ok r
  | .error at₁ =>
    match q ts with
    | .ok r => .ok r
    | .error at₂ => .error (if at₂.isBefore at₁ then at₁ else at₂)

/-- Gives nothing, and reads nothing, where a parser fails. -/
def attempt {α : Type} (p : Parser α) : Parser (Option α) := fun ts =>
  match p ts with
  | .ok (a, rest) => .ok (some a, rest)
  | .error _ => .ok (none, ts)

/-- Runs a parser until it gives nothing, at most a number of times. -/
def collect {α : Type} (step : Parser (Option α)) (limit : Nat) : Parser (List α) :=
  go limit []
where
  go : Nat → List α → Parser (List α)
    | 0, _ => fail
    | limit + 1, found => do
      match ← step with
      | some a => go limit (a :: found)
      | none => return found.reverse

end Parser

/-! ### Building trees -/

/-- The tree of one token. -/
def Token.tree (named : Bool) (kind : String) (t : Token) : Tree :=
  .node { kind := kind, start := t.start, stop := t.stop, text := some t.text, isNamed := named } []

/-- A node over its children, from the start of the first to the stop of the
last. -/
def build (kind : String) (children : List Tree) : Tree :=
  .node
    { kind := kind
      start := (children.head?.map Tree.start).getD {}
      stop := (children.getLast?.map Tree.stop).getD {} }
    children

namespace Tree

/-- The tree as a field of its parent. -/
def withField (name : String) : Tree → Tree
  | .node tag cs => .node { tag with field := some name } cs

/-- The tree as another kind of node. -/
def withKind (kind : String) : Tree → Tree
  | .node tag cs => .node { tag with kind := kind } cs

end Tree

namespace Parser

/-- Takes a given symbol. -/
def symbol (s : String) : Parser Tree := do
  if ← sees s then return (← take).tree false s else fail

/-- Takes a given symbol if it is next. -/
def symbol? (s : String) : Parser (List Tree) := do
  if ← sees s then return [(← take).tree false s] else return []

/-- Takes a name as a node of a kind. -/
def name (kind : String) : Parser Tree := do
  if (← peek).isName then return (← take).tree true kind else fail

/-- Takes a literal. -/
def literal : Parser Tree := do
  match (← peek).kind with
  | .literal kind => return (← take).tree true kind
  | _ => fail

/-- Items between separators, at least one. -/
def separated (separator : String) (item : Parser Tree) (limit : Nat) : Parser (List Tree) := do
  let first ← item
  let rest ← collect (do
    if ← sees separator then
      let s ← symbol separator
      let t ← item
      return some [s, t]
    else return none) limit
  return first :: rest.flatten

/-- Items between separators up to a closing symbol, before which one more
separator may stand; the closing symbol is not taken. -/
def listUntil (separator closing : String) (item : Parser (List Tree)) (limit : Nat) :
    Parser (List Tree) := do
  let items ← collect (do
    if ← sees closing then return none
    else
      let t ← item
      if ← sees closing then return some t
      else
        let s ← symbol separator
        return some (t ++ [s])) limit
  return items.flatten

/-- The end of a statement or declaration: a semicolon or the end of a line. -/
def terminator : Parser (List Tree) := do
  if (← peek).kind = .lineEnd then
    let _ ← take
    return []
  else return [← symbol ";"]

/-- The end of a statement before a closing symbol, where it may be left out. -/
def terminatorBefore (closing : String) : Parser (List Tree) := do
  if ← sees closing then return [] else terminator

end Parser

/-- What the rules of the grammar ask of one another.  In the header of a
statement a composite literal of a named type is not read. -/
inductive Goal where
  | expression (header : Bool)
  | unary (header : Bool)
  | type
  | statement
  | block
  | literalValue
deriving DecidableEq, Repr, Inhabited

/-- How each goal is parsed, and how often a rule may repeat a part. -/
structure Grammar where
  parse : Goal → Parser Tree
  limit : Nat

end GoComplexity
