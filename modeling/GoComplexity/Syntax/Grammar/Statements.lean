/-
# The grammar of statements

The header of a conditional, a loop or a switch is read as simple statements
between semicolons; what the last one is decides the form of the statement.  A
loop whose header holds a range is one over a collection; a switch whose header
ends in a type mark is one over types.

Key definitions: `statementRule`, `blockRule`, `simpleStatement`,
`forStatement`, `switchStatement`.
-/
import GoComplexity.Syntax.Grammar.Declarations

namespace GoComplexity

open GoComplexity.Parser

variable (g : Grammar)

/-! ### Simple statements -/

/-- Operators that assign. -/
def assignments : List String :=
  ["=", "+=", "-=", "*=", "/=", "%=", "&=", "|=", "^=", "<<=", ">>=", "&^="]

/-- A simple statement whose first expressions are read. -/
def simpleTail (header : Bool) (left : Tree) : Parser Tree := do
  let t ← peek
  if t.kind ≠ .symbol then plain left
  else if t.text = ":=" then
    let operator ← symbol ":="
    let right ← expressionList g header
    return build "short_var_declaration"
      [left.withField "left", operator, right.withField "right"]
  else if assignments.contains t.text then
    let operator ← symbol t.text
    let right ← expressionList g header
    return build "assignment_statement"
      [left.withField "left", operator.withField "operator", right.withField "right"]
  else if t.text = "++" || t.text = "--" then
    let operator ← symbol t.text
    let kind := if t.text = "++" then "inc_statement" else "dec_statement"
    match left.children with
    | [x] => return build kind [x, operator]
    | _ => fail
  else if t.text = "<-" then
    match left.children with
    | [x] =>
      let arrow ← symbol "<-"
      let value ← g.parse (.expression header)
      return build "send_statement"
        [x.withField "channel", arrow, value.withField "value"]
    | _ => fail
  else plain left
where
  /-- A statement that is one expression. -/
  plain (left : Tree) : Parser Tree := do
    match left.children with
    | [x] => return build "expression_statement" [x]
    | _ => fail

/-- A simple statement. -/
def simpleStatement (header : Bool) : Parser Tree := do
  simpleTail g header (← expressionList g header)

/-- The expression that a statement is, if it is one. -/
def expressionOf (statement : Tree) : Parser Tree := do
  match statement.kind, statement.children with
  | "expression_statement", [x] => return x
  | _, _ => fail

/-! ### Blocks -/

/-- Whether a list of statements ends before the next token. -/
def endsStatements : Parser Bool := do
  let t ← peek
  return t.isSymbol "\x7d" || t.isSymbol "case" || t.isSymbol "default" || t.kind = .fileEnd

/-- Statements up to a closing brace or the next clause; no node if there are
none. -/
def statementList : Parser (List Tree) := do
  let statements ← collect (do
    if ← endsStatements then return none
    else if ← sees ";" then return some [build "empty_statement" [← symbol ";"]]
    else
      let s ← g.parse .statement
      return some (s :: (← terminatorBefore "\x7d"))) g.limit
  match statements.flatten with
  | [] => return []
  | list => return [build "statement_list" list]

/-- A block in braces. -/
def blockRule : Parser Tree := do
  let opening ← symbol "\x7b"
  let statements ← statementList g
  return build "block" (opening :: statements ++ [← symbol "\x7d"])

/-- A block as a field. -/
def blockField (name : String) : Parser Tree := do
  return (← g.parse .block).withField name

/-! ### Statements with headers -/

/-- A conditional. -/
def ifStatement : Parser Tree := do
  let keyword ← symbol "if"
  let first ← simpleStatement g true
  let header ←
    if ← sees ";" then
      let semicolon ← symbol ";"
      let condition ← g.parse (.expression true)
      pure [first.withField "initializer", semicolon, condition.withField "condition"]
    else pure [(← expressionOf first).withField "condition"]
  let consequence ← blockField g "consequence"
  let alternative ←
    if ← sees "else" then
      let otherwise ← symbol "else"
      if (← sees "if") || (← sees "\x7b") then
        pure [otherwise, (← g.parse .statement).withField "alternative"]
      else fail
    else pure []
  return build "if_statement" (keyword :: header ++ consequence :: alternative)

/-- The range of a loop over a collection, after the names it sets. -/
def rangeTail (left : List Tree) : Parser Tree := do
  let keyword ← symbol "range"
  let right ← g.parse (.expression true)
  return build "range_clause" (left ++ [keyword, right.withField "right"])

/-- The condition and the step of a loop, after its initial statement. -/
def clauseTail (initial : List Tree) : Parser Tree := do
  let first ← symbol ";"
  let condition ←
    if ← sees ";" then pure []
    else pure [(← g.parse (.expression true)).withField "condition"]
  let second ← symbol ";"
  let step ←
    if ← sees "\x7b" then pure []
    else pure [(← simpleStatement g true).withField "update"]
  return build "for_clause" (initial ++ first :: condition ++ second :: step)

/-- The header of a loop: nothing, a condition, a clause of three parts, or a
range. -/
def forHeader : Parser (List Tree) := do
  if ← sees "\x7b" then return []
  else if ← sees "range" then return [← rangeTail g []]
  else if ← sees ";" then return [← clauseTail g []]
  else
    let left ← expressionList g true
    let t ← peek
    if (t.isSymbol ":=" || t.isSymbol "=") && (← peekSecond).isSymbol "range" then
      let operator ← symbol t.text
      return [← rangeTail g [left.withField "left", operator]]
    else
      let first ← simpleTail g true left
      if ← sees ";" then return [← clauseTail g [first.withField "initializer"]]
      else return [← expressionOf first]

/-- A loop. -/
def forStatement : Parser Tree := do
  let keyword ← symbol "for"
  let header ← forHeader g
  return build "for_statement" (keyword :: header ++ [← blockField g "body"])

/-- The clauses of a switch or a select in braces. -/
def clausesOf (clause : Parser Tree) : Parser (List Tree) := do
  let opening ← symbol "\x7b"
  let clauses ← collect (do
    if ← sees "\x7d" then return none else return some (← clause)) g.limit
  return opening :: clauses ++ [← symbol "\x7d"]

/-- The default clause. -/
def defaultClause : Parser Tree := do
  let keyword ← symbol "default"
  let colon ← symbol ":"
  return build "default_case" (keyword :: colon :: (← statementList g))

/-- A clause of a switch over values. -/
def expressionClause : Parser Tree := do
  if ← sees "default" then defaultClause g
  else
    let keyword ← symbol "case"
    let values ← expressionList g false
    let colon ← symbol ":"
    return build "expression_case"
      (keyword :: values.withField "value" :: colon :: (← statementList g))

/-- A clause of a switch over types. -/
def typeClause : Parser Tree := do
  if ← sees "default" then defaultClause g
  else
    let keyword ← symbol "case"
    let types ← separated "," (typeField g "type") g.limit
    let colon ← symbol ":"
    return build "type_case" (keyword :: types ++ colon :: (← statementList g))

/-- A switch over types, when the part of its header before the type mark is
read. -/
def typeSwitchTail (keyword : Tree) (initial : List Tree) (subject : Tree) : Parser Tree := do
  let mark := [← symbol ".", ← symbol "(", ← symbol "type", ← symbol ")"]
  let header ←
    match subject.kind, subject.children with
    | "short_var_declaration", [left, operator, right] =>
      match right.children with
      | [value] => pure [left.withField "alias", operator, value.withField "value"]
      | _ => fail
    | "expression_statement", [value] => pure [value.withField "value"]
    | _, _ => fail
  return build "type_switch_statement"
    (keyword :: initial ++ header ++ mark ++ (← clausesOf g (typeClause g)))

/-- A switch whose header is one more statement, a mark or nothing, after its
initial statement. -/
def switchTail (keyword : Tree) (initial : List Tree) : Parser Tree := do
  if ← sees "\x7b" then
    return build "expression_switch_statement"
      (keyword :: initial ++ (← clausesOf g (expressionClause g)))
  else
    let subject ← simpleStatement g true
    if ← seesTypeMark then typeSwitchTail g keyword initial subject
    else
      let value := (← expressionOf subject).withField "value"
      return build "expression_switch_statement"
        (keyword :: initial ++ value :: (← clausesOf g (expressionClause g)))

/-- A switch over values or types. -/
def switchStatement : Parser Tree := do
  let keyword ← symbol "switch"
  if ← sees "\x7b" then switchTail g keyword []
  else
    let subject ← simpleStatement g true
    if ← sees ";" then
      let semicolon ← symbol ";"
      switchTail g keyword [subject.withField "initializer", semicolon]
    else if ← seesTypeMark then typeSwitchTail g keyword [] subject
    else
      let value := (← expressionOf subject).withField "value"
      return build "expression_switch_statement"
        (keyword :: value :: (← clausesOf g (expressionClause g)))

/-- What a clause of a select waits for: a value sent, or one received and
possibly kept. -/
def communication : Parser Tree := do
  let left ← expressionList g false
  let t ← peek
  if t.isSymbol ":=" || t.isSymbol "=" then
    let operator ← symbol t.text
    let right ← g.parse (.expression false)
    return build "receive_statement"
      [left.withField "left", operator, right.withField "right"]
  else if t.isSymbol "<-" then simpleTail g false left
  else
    match left.children with
    | [x] => return build "receive_statement" [x.withField "right"]
    | _ => fail

/-- A clause of a select. -/
def communicationClause : Parser Tree := do
  if ← sees "default" then defaultClause g
  else
    let keyword ← symbol "case"
    let awaited ← communication g
    let colon ← symbol ":"
    return build "communication_case"
      (keyword :: awaited.withField "communication" :: colon :: (← statementList g))

/-- A select. -/
def selectStatement : Parser Tree := do
  let keyword ← symbol "select"
  return build "select_statement" (keyword :: (← clausesOf g (communicationClause g)))

/-! ### All statements -/

/-- A keyword with an expression. -/
def keywordExpression (keyword : String) : Parser Tree := do
  return build (keyword ++ "_statement") [← symbol keyword, ← g.parse (.expression false)]

/-- Whether a statement may end before the next token. -/
def seesEnd : Parser Bool := do
  let t ← peek
  return t.kind = .lineEnd || t.kind = .fileEnd || t.isSymbol ";" || t.isSymbol "\x7d"

/-- A return with its values. -/
def returnStatement : Parser Tree := do
  let keyword ← symbol "return"
  if ← seesEnd then return build "return_statement" [keyword]
  else return build "return_statement" [keyword, ← expressionList g false]

/-- A jump, possibly to a label. -/
def jumpStatement (keyword : String) : Parser Tree := do
  let k ← symbol keyword
  let label ← if (← peek).isName then pure [← name "label_name"] else pure []
  if keyword = "goto" && label.isEmpty then fail
  return build (keyword ++ "_statement") (k :: label)

/-- A label and the statement after it, if there is one. -/
def labeledStatement : Parser Tree := do
  let label := (← name "label_name").withField "label"
  let colon ← symbol ":"
  if ← endsStatements then return build "labeled_statement" [label, colon]
  else return build "labeled_statement" [label, colon, ← g.parse .statement]

/-- Any statement. -/
def statementRule : Parser Tree := do
  let t ← peek
  if t.isName && (← peekSecond).isSymbol ":" then labeledStatement g
  else if t.kind = .symbol then
    match t.text with
    | "\x7b" => g.parse .block
    | ";" => return build "empty_statement" [← symbol ";"]
    | "if" => ifStatement g
    | "for" => forStatement g
    | "switch" => switchStatement g
    | "select" => selectStatement g
    | "go" | "defer" => keywordExpression g t.text
    | "return" => returnStatement g
    | "break" | "continue" | "goto" => jumpStatement t.text
    | "fallthrough" => return build "fallthrough_statement" [← symbol t.text]
    | "var" | "const" => valueDeclaration g t.text
    | "type" => typeDeclaration g
    | _ => simpleStatement g false
  else simpleStatement g false

end GoComplexity
