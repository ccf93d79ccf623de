/-
# The grammar of expressions

An expression is operands joined by binary operators of five precedences, each
from the left.  An operand may have unary operators before it and selectors,
indexes, arguments and composite values after it.

A type followed by a parenthesised value is a conversion.  Where brackets
follow a name, what they hold decides between an index and type arguments:

* one plain argument, and brackets that read as types: a conversion;
* brackets that read as one index: a call of the indexed value;
* otherwise: a call with type arguments.

Key definitions: `expressionRule`, `unaryRule`, `literalValueRule`,
`precedence`, `attach`, `applyBrackets`.
-/
import GoComplexity.Syntax.Grammar.Types

namespace GoComplexity

open GoComplexity.Parser

/-! ### Binary operators -/

/-- The precedence of a binary operator; a higher one binds tighter. -/
def precedence (operator : String) : Option Nat :=
  match operator with
  | "||" => some 1
  | "&&" => some 2
  | "==" | "!=" | "<" | "<=" | ">" | ">=" => some 3
  | "+" | "-" | "|" | "^" => some 4
  | "*" | "/" | "%" | "<<" | ">>" | "&" | "&^" => some 5
  | _ => none

/-- A binary expression. -/
def binary (left operator right : Tree) : Tree :=
  build "binary_expression"
    [left.withField "left", operator.withField "operator", right.withField "right"]

/-- Adds an operator and its right operand to an expression: they go below the
last operator of lower precedence. -/
def attach (operator right : Tree) : Tree → Tree
  | .node tag cs =>
    let whole := Tree.node tag cs
    match tag.kind, cs with
    | "binary_expression", [l, o, r] =>
      if (precedence o.kind).getD 0 < (precedence operator.kind).getD 0 then
        binary l o (attach operator right r)
      else binary whole operator right
    | _, _ => binary whole operator right

/-- The next token's binary operator, if it is one. -/
def binaryOperator? : Parser (Option Tree) := do
  let t ← peek
  if t.kind = .symbol && (precedence t.text).isSome then return some ((← take).tree false t.text)
  else return none

variable (g : Grammar)

/-! ### Operands -/

/-- Names that stand for values of the language itself. -/
def constantNames : List String := ["true", "false", "nil", "iota"]

/-- A name as an operand. -/
def nameOperand : Parser Tree := do
  let t ← peek
  name (if constantNames.contains t.text then t.text else "identifier")

/-- One element of a composite value. -/
def element : Parser Tree := do
  let inner ←
    if ← sees "\x7b" then g.parse .literalValue else g.parse (.expression false)
  return build "literal_element" [inner]

/-- An element of a composite value, possibly with its key. -/
def keyedElement : Parser (List Tree) := do
  let first ← element g
  if ← sees ":" then
    let colon ← symbol ":"
    return [build "keyed_element"
      [first.withField "key", colon, (← element g).withField "value"]]
  else return [first]

/-- The braces of a composite value. -/
def literalValueRule : Parser Tree := do
  let opening ← symbol "\x7b"
  let elements ← listUntil "," "\x7d" (keyedElement g) g.limit
  return build "literal_value" (opening :: elements ++ [← symbol "\x7d"])

/-- A composite value of a type. -/
def composite (type : Tree) : Parser Tree := do
  let value ← g.parse .literalValue
  return build "composite_literal" [type.withField "type", value.withField "body"]

/-- The kinds of type of which composite values can be written anywhere. -/
def literalTypeKinds : List String :=
  ["slice_type", "array_type", "implicit_length_array_type", "map_type", "struct_type"]

/-- A conversion of one value to a type. -/
def conversion (type : Tree) : Parser Tree := do
  let opening ← symbol "("
  let value ← g.parse (.expression false)
  let comma ← symbol? ","
  return build "type_conversion_expression"
    ([type.withField "type", opening, value.withField "operand"] ++ comma ++ [← symbol ")"])

/-- A type as an operand, with a composite value if one follows. -/
def typeOperand : Parser Tree := do
  let type ← g.parse .type
  if literalTypeKinds.contains type.kind && (← sees "\x7b") then composite g type else return type

/-- A function literal after its keyword and parameters: result and body. -/
def literalTail (keyword parameters : Tree) (result : List Tree) : Parser Tree := do
  let body ← g.parse .block
  return build "func_literal"
    (keyword :: parameters.withField "parameters" :: result ++ [body.withField "body"])

/-- A function literal, the type of a function, or a conversion to one: a list
in parentheses after the parameters is the result where a body or another list
follows, and else a converted value if it can be. -/
def funcOperand : Parser Tree := do
  let keyword ← symbol "func"
  let parameters ← parameterList g
  let start ← get
  let typeWith (result : List Tree) : Tree :=
    build "function_type" (keyword :: parameters.withField "parameters" :: result)
  match ← attempt (result? g) with
  | none => conversion g (typeWith [])
  | some result =>
    if ← sees "\x7b" then literalTail g keyword parameters result
    else if ← sees "(" then return typeWith result
    else if (result.head?.map Tree.kind) = some "parameter_list" then
      let after ← get
      set start
      match ← attempt (conversion g (typeWith [])) with
      | some converted => return converted
      | none =>
        set after
        return typeWith result
    else return typeWith result

/-- An expression or a type in parentheses. -/
def parenthesized : Parser Tree := do
  let opening ← symbol "("
  let inner ← g.parse (.expression false)
  let closing ← symbol ")"
  let kind := if isTypeKind inner then "parenthesized_type" else "parenthesized_expression"
  return build kind [opening, inner, closing]

/-- An operand without what may follow it. -/
def operand : Parser Tree := do
  let t ← peek
  match t.kind with
  | .identifier => nameOperand
  | .literal _ => literal
  | .symbol =>
    match t.text with
    | "(" => parenthesized g
    | "func" => funcOperand g
    | "[" | "struct" | "map" | "chan" | "<-" | "interface" => typeOperand g
    | _ => fail
  | .lineEnd | .fileEnd => fail

/-! ### What follows an operand -/

/-- The arguments of a call. -/
def argumentList : Parser Tree := do
  let opening ← symbol "("
  let argument : Parser (List Tree) := do
    let value ← g.parse (.expression false)
    if ← sees "..." then return [build "variadic_argument" [value, ← symbol "..."]]
    else return [value]
  let arguments ← listUntil "," ")" argument g.limit
  return build "argument_list" (opening :: arguments ++ [← symbol ")"])

/-- A call. -/
def call (function : Tree) (typeArguments : List Tree) (arguments : Tree) : Tree :=
  build "call_expression"
    (function.withField "function" :: typeArguments ++ [arguments.withField "arguments"])

/-- Whether arguments are one plain value, possibly with a comma after it. -/
def isOnePlainValue (arguments : Tree) : Bool :=
  match arguments.namedChildren with
  | [value] => !isTypeKind value && value.kind ≠ "variadic_argument"
  | _ => false

/-- The indexed value that brackets of one item without comma make, if the item
is an expression. -/
def indexed? (function opening closing : Tree) (items : List Tree) : Option Tree :=
  match items with
  | [item] =>
    if isTypeKind item then none
    else some (build "index_expression"
      [function.withField "operand", opening, item.withField "index", closing])
  | _ => none

/-- Whether a name of a type, or of one in a package, occurs in brackets that
read as types in such a way that they are no plain index. -/
def holdsQualified (types : List Tree) : Bool :=
  types.any fun t => t.kind == "qualified_type" || t.kind == "generic_type"

/-- A name and its brackets as a type, if they read as one. -/
def bracketedType? (function opening closing : Tree) (items : List Tree) : Option Tree :=
  match asTypeName function, typesAmong items (asTypes items) with
  | some n, some types => some (genericType n (opening :: types ++ [closing]))
  | _, _ => none

/-- What a name with brackets and the arguments after them make. -/
def applyBrackets (function opening closing : Tree) (items : List Tree) (arguments : Tree) :
    Tree :=
  let generic := bracketedType? function opening closing items
  let types := (typesAmong items (asTypes items)).getD items
  let typeArguments := build "type_arguments" (asElements (opening :: types ++ [closing]))
  match generic, isOnePlainValue arguments, indexed? function opening closing items with
  | some type, true, _ =>
    build "type_conversion_expression" (type.withField "type" :: arguments.children)
  | some _, false, some value =>
    if holdsQualified types then call function [typeArguments.withField "type_arguments"] arguments
    else call value [] arguments
  | none, _, some value => call value [] arguments
  | _, _, none => call function [typeArguments.withField "type_arguments"] arguments

/-- A part of a slice's bounds: an expression where one is. -/
def bound? (field : String) : Parser (List Tree) := do
  if (← sees ":") || (← sees "]") then return []
  else return [(← g.parse (.expression false)).withField field]

/-- The rest of a slice expression from its first colon on. -/
def sliceTail (children : List Tree) : Parser Tree := do
  let colon ← symbol ":"
  let stop ← bound? g "end"
  let capacity ←
    if ← sees ":" then
      let second ← symbol ":"
      pure (second :: [(← g.parse (.expression false)).withField "capacity"])
    else pure []
  return build "slice_expression" (children ++ colon :: stop ++ capacity ++ [← symbol "]"])

/-- Whether a node may name the type of a composite value. -/
def namesType (t : Tree) : Bool :=
  match t.kind with
  | "identifier" | "selector_expression" | "index_expression" | "type_instantiation_expression" =>
    (asType t).isSome
  | _ => false

/-- What follows an operand in brackets: an index, a slice or type arguments,
and with them the arguments of a call if they follow. -/
def brackets (x : Tree) : Parser Tree := do
  let opening ← symbol "["
  if ← sees ":" then sliceTail g [x.withField "operand", opening]
  else
    let first ← g.parse (.expression false)
    if ← sees ":" then
      sliceTail g [x.withField "operand", opening, first.withField "start"]
    else
      let rest ←
        if ← sees "," then
          let comma ← symbol ","
          pure (comma :: (← listUntil "," "]" (do return [← g.parse (.expression false)]) g.limit))
        else pure []
      let closing ← symbol "]"
      let items := first :: rest
      if ← sees "(" then return applyBrackets x opening closing items (← argumentList g)
      else
        match indexed? x opening closing items with
        | some value => return value
        | none => return build "type_instantiation_expression" (x :: opening :: items ++ [closing])

/-- What follows an operand after a dot: a selected field, or the type that a
value is asserted to have. -/
def afterDot (x : Tree) : Parser Tree := do
  let dot ← symbol "."
  if ← sees "(" then
    let opening ← symbol "("
    let type ← typeField g "type"
    return build "type_assertion_expression"
      [x.withField "operand", dot, opening, type, ← symbol ")"]
  else
    let field ← name "field_identifier"
    return build "selector_expression" [x.withField "operand", dot, field.withField "field"]

/-- Whether the mark of a type switch is next. -/
def seesTypeMark : Parser Bool := do
  return (← peek).isSymbol "." && (← peekSecond).isSymbol "(" && (← peekThird).isSymbol "type"

/-- One thing that follows an operand, if there is one. -/
def suffix? (header : Bool) (x : Tree) : Parser (Option Tree) := do
  if ← sees "." then
    if ← seesTypeMark then return none else return some (← afterDot g x)
  else if ← sees "(" then
    if isTypeKind x then return some (← conversion g x)
    else return some (call x [] (← argumentList g))
  else if ← sees "[" then
    if isTypeKind x then return none else return some (← brackets g x)
  else if ← sees "\x7b" then
    if !header && namesType x then return some (← composite g ((asType x).getD x)) else return none
  else return none

/-- All that follows an operand, at most so many things. -/
def suffixes (header : Bool) : Nat → Tree → Parser Tree
  | 0, _ => fail
  | limit + 1, x => do
    match ← suffix? g header x with
    | some x' => suffixes header limit x'
    | none => return x

/-! ### Expressions -/

/-- Operators that may stand before an operand. -/
def unaryOperators : List String := ["+", "-", "!", "^", "*", "&", "<-"]

/-- An operand with the operators before it and what follows it. -/
def unaryRule (header : Bool) : Parser Tree := do
  let t ← peek
  let isChannel := t.isSymbol "<-" && (← peekSecond).isSymbol "chan"
  if t.kind = .symbol && unaryOperators.contains t.text && !isChannel then
    let operator ← symbol t.text
    let x ← g.parse (.unary header)
    if t.text = "*" && isTypeKind x then return build "pointer_type" [operator, x]
    else return build "unary_expression" [operator.withField "operator", x.withField "operand"]
  else suffixes g header g.limit (← operand g)

/-- The operators and operands after an expression's first operand. -/
def operations (header : Bool) : Nat → Tree → Parser Tree
  | 0, _ => fail
  | limit + 1, x => do
    match ← binaryOperator? with
    | some operator =>
      let right ← unaryRule g header
      operations header limit (attach operator right x)
    | none => return x

/-- An expression, or a type where one may stand among expressions. -/
def expressionRule (header : Bool) : Parser Tree := do
  operations g header g.limit (← unaryRule g header)

/-- A list of expressions. -/
def expressionList (header : Bool) : Parser Tree := do
  return build "expression_list" (← separated "," (g.parse (.expression header)) g.limit)

end GoComplexity
