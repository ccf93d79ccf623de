/-
# The syntax tree of a source file

A source file is declarations and statements, each up to the end of a line or
a semicolon; after a declaration that may be left out.  Comments stand at the
top level of the tree unless they lie inside one of its nodes.

The rules of the grammar are tied together with a bound on the depth of their
recursion, which no source text reaches: every rule that calls another one
without reading a token does so only a few times in a row.

A file that is not well formed has a tree too, which holds one error node at
the place where reading stopped.

Key definitions: `parseGoal`, `grammar`, `sourceFile`, `Tree.ofSource`.
-/
import GoComplexity.Syntax.Grammar.Statements
import GoComplexity.Syntax.Lexer

namespace GoComplexity

open GoComplexity.Parser

/-- Parses a goal by the rules of the grammar, tied together up to a depth. -/
def parseGoal : Nat → Goal → Parser Tree
  | 0, _ => fail
  | depth + 1, goal =>
    let g : Grammar := ⟨parseGoal depth, depth⟩
    match goal with
    | .expression header => expressionRule g header
    | .unary header => unaryRule g header
    | .type => typeRule g
    | .statement => statementRule g
    | .block => blockRule g
    | .literalValue => literalValueRule g

/-- The grammar up to a depth. -/
def grammar (depth : Nat) : Grammar := ⟨parseGoal depth, depth⟩

variable (g : Grammar)

/-- The parameters, result and body of a function after its name. -/
def signatureAndBody : Parser (List Tree) := do
  let parameters ← parameterList g
  let result ← result? g
  let body ← if ← sees "\x7b" then pure [← blockField g "body"] else pure []
  return parameters.withField "parameters" :: result ++ body

/-- A function. -/
def functionDeclaration : Parser Tree := do
  let keyword ← symbol "func"
  let n ← name "identifier"
  let generic ←
    if ← sees "[" then pure [(← typeParameters g).withField "type_parameters"] else pure []
  return build "function_declaration"
    (keyword :: n.withField "name" :: generic ++ (← signatureAndBody g))

/-- A method. -/
def methodDeclaration : Parser Tree := do
  let keyword ← symbol "func"
  let receiver ← parameterList g
  let n ← name "field_identifier"
  return build "method_declaration"
    (keyword :: receiver.withField "receiver" :: n.withField "name" :: (← signatureAndBody g))

/-- The words with which declarations begin. -/
def declaringWords : List String := ["package", "import", "func", "var", "const", "type"]

/-- Whether a declaration begins with the next token. -/
def seesDeclaration : Parser Bool := do
  let t ← peek
  return t.kind = .symbol && declaringWords.contains t.text

/-- A declaration or a statement at the top level, and whether it is a
declaration. -/
def topLevelItem : Parser (Tree × Bool) := do
  let t ← peek
  if t.isSymbol "package" then return (← packageClause, true)
  else if t.isSymbol "import" then return (← importDeclaration g, true)
  else if t.isSymbol "func" then
    if (← peekSecond).isName then return (← functionDeclaration g, true)
    else
      let start ← get
      match ← attempt (do
        let _ ← symbol "func"
        let _ ← parameterList g
        name "field_identifier") with
      | some _ =>
        set start
        return (← methodDeclaration g, true)
      | none => return (← g.parse .statement, false)
  else return (← g.parse .statement, ← pure (declaringWords.contains t.text))

/-- The end of a top-level item; it may be left out between declarations and at
the end of the file. -/
def topLevelEnd (isDeclaration : Bool) : Parser Unit := do
  if (← peek).kind = .fileEnd || (isDeclaration && (← seesDeclaration)) then return ()
  else
    let _ ← terminator

/-- The top-level nodes of a source file. -/
def sourceFile : Parser (List Tree) := do
  collect (do
    let t ← peek
    if t.kind = .fileEnd then return none
    else
      let (item, isDeclaration) ← topLevelItem g
      if item.kind ≠ "empty_statement" then topLevelEnd isDeclaration
      return some item) g.limit

/-- Puts each comment that lies in none of the items in its place among them. -/
def mergeComments : List Tree → List Tree → List Tree
  | comments, [] => comments
  | comments, item :: items =>
    let before := comments.takeWhile fun c => c.start.isBefore item.start
    let after := (comments.drop before.length).dropWhile fun c => c.start.isBefore item.stop
    before ++ item :: mergeComments after items

/-- The tree of a file that is not well formed at a point. -/
def errorTree (p : Point) : Tree :=
  .node { kind := "source_file", hasError := true }
    [.node { kind := "ERROR", start := p, stop := p, hasError := true } []]

/-- The tree of a source text. -/
def Tree.ofGlyphs (gs : List Text.Glyph) : Tree :=
  match tokensOf gs with
  | .error p => errorTree p
  | .ok (tokens, comments) =>
    match sourceFile (grammar (20 * tokens.length + 20)) tokens with
    | .error p => errorTree p
    | .ok (items, _) => .node { kind := "source_file" } (mergeComments comments items)

/-- The tree of a source file. -/
def Tree.ofSource (bytes : ByteArray) : Tree := Tree.ofGlyphs (Text.glyphs bytes.toList)

end GoComplexity
