/-
# The grammar of types

Names of types with their package and arguments, pointers, arrays, slices,
maps, channels, functions, structures and interfaces.

In a list of parameters names are told from types by what follows: if any
parameter has a name, all of them have, and those without a type of their own
share the next one.

Key definitions: `typeRule`, `parameterList`, `typeArguments`,
`typeParameters`, `isTypeKind`,
`asType`.
-/
import GoComplexity.Syntax.Parser

namespace GoComplexity

open GoComplexity.Parser

variable (g : Grammar)

/-- A type as a field. -/
def typeField (name : String) : Parser Tree := do
  return (← g.parse .type).withField name

/-- Types joined as alternatives, each possibly with all types that share its
underlying one. -/
def typeElement : Parser Tree := do
  let item : Parser Tree := do
    if ← sees "~" then return build "negated_type" [← symbol "~", ← g.parse .type]
    else g.parse .type
  return build "type_elem" (← separated "|" item g.limit)

/-- The arguments of a generic type. -/
def typeArguments : Parser Tree := do
  let opening ← symbol "["
  let items ← listUntil "," "]" (do return [← typeElement g]) g.limit
  if items.isEmpty then fail
  return build "type_arguments" (opening :: items ++ [← symbol "]"])

/-- A type by its name, with a package and arguments if there are any. -/
def namedType : Parser Tree := do
  let second ← peekSecond
  let base ←
    if second.isSymbol "." then
      let package ← name "package_identifier"
      let dot ← symbol "."
      let typeName ← name "type_identifier"
      pure (build "qualified_type"
        [package.withField "package", dot, typeName.withField "name"])
    else name "type_identifier"
  if ← sees "[" then
    return build "generic_type"
      [base.withField "type", (← typeArguments g).withField "type_arguments"]
  else return base

/-! ### Parameters -/

/-- One entry of a parameter list before names and types are told apart: a
type with a name of its own, or a type alone. -/
structure ParameterEntry where
  name? : Option Tree
  dots : List Tree
  type : Tree

/-- A type after the dots of a parameter for any number of values, if they are
there. -/
def dotsAndType : Parser (List Tree × Tree) := do
  let dots ← symbol? "..."
  return (dots, ← g.parse .type)

/-- Fails unless an entry of a parameter list ends here. -/
def entryEnd : Parser Unit := do
  if (← sees ",") || (← sees ")") then return () else fail

/-- An entry that is a name and a type. -/
def namedEntry : Parser ParameterEntry := do
  let n ← name "identifier"
  let (dots, type) ← dotsAndType g
  entryEnd
  return ⟨some n, dots, type⟩

/-- An entry that is a type alone. -/
def plainEntry : Parser ParameterEntry := do
  let (dots, type) ← dotsAndType g
  entryEnd
  return ⟨none, dots, type⟩

/-- An entry of a parameter list. -/
def entry : Parser ParameterEntry := do
  if (← peek).isName then
    let second ← peekSecond
    if second.isSymbol "," || second.isSymbol ")" || second.isSymbol "." then plainEntry g
    else orElse (namedEntry g) (plainEntry g)
  else plainEntry g

/-- The declaration of parameters with the names before a type. -/
def parameter (names : List Tree) (e : ParameterEntry) : Tree :=
  let type := e.type.withField "type"
  let names := names.map fun n => if n.kind = "," then n else n.withField "name"
  match e.dots with
  | [] => build "parameter_declaration" (names ++ [type])
  | dots => build "variadic_parameter_declaration" (names ++ dots ++ [type])

/-- The name that a type by itself would be. -/
def asName (t : Tree) : Tree := t.withKind "identifier"

/-- The declarations of entries and the commas after them, where all
parameters have names; those read before a type are kept in `names`. -/
def namedParameters : List Tree → List (ParameterEntry × List Tree) → Option (List Tree)
  | [], [] => some []
  | _, [] => none
  | names, (e, comma) :: rest =>
    match e.name? with
    | some n =>
      (namedParameters [] rest).map fun more => parameter (names ++ [n]) e :: comma ++ more
    | none =>
      if e.type.kind = "type_identifier" && e.dots.isEmpty then
        namedParameters (names ++ asName e.type :: comma) rest
      else none

/-- The declarations of entries and the commas after them. -/
def parametersOfEntries (entries : List (ParameterEntry × List Tree)) : Option (List Tree) :=
  if entries.any fun p => p.1.name?.isSome then namedParameters [] entries
  else some (entries.flatMap fun p => parameter [] p.1 :: p.2)

/-- A list of parameters in parentheses. -/
def parameterList : Parser Tree := do
  let opening ← symbol "("
  let entries ← collect (do
    if ← sees ")" then return none
    else
      let e ← entry g
      if ← sees ")" then return some (e, [])
      else return some (e, [← symbol ","])) g.limit
  match parametersOfEntries entries with
  | some declarations =>
    return build "parameter_list" (opening :: declarations ++ [← symbol ")"])
  | none => fail

/-! ### Functions, structures and interfaces -/

/-- Whether a type may begin with a token. -/
def beginsType (t : Token) : Bool :=
  t.isName || (t.kind == .symbol &&
    ["*", "[", "(", "struct", "map", "chan", "interface", "func", "<-"].contains t.text)

/-- The result of a function, if it has one: a list of parameters or a type. -/
def result? : Parser (List Tree) := do
  if ← sees "(" then return [(← parameterList g).withField "result"]
  else if beginsType (← peek) then return [← typeField g "result"]
  else return []

/-- The type of a function. -/
def functionType : Parser Tree := do
  let keyword ← symbol "func"
  let parameters ← parameterList g
  return build "function_type" (keyword :: parameters.withField "parameters" :: (← result? g))

/-- The string after a field of a structure. -/
def fieldTag? : Parser (List Tree) := do
  match (← peek).kind with
  | .literal _ => return [(← literal).withField "tag"]
  | _ => return []

/-- Fails unless a field of a structure ends here. -/
def fieldEnd : Parser Unit := do
  let t ← peek
  if t.kind = .lineEnd || t.isSymbol ";" || t.isSymbol "\x7d" then return () else fail

/-- A field that is a type alone. -/
def embeddedField : Parser Tree := do
  let star ← symbol? "*"
  let type := (← namedType g).withField "type"
  let tag ← fieldTag?
  fieldEnd
  return build "field_declaration" (star ++ type :: tag)

/-- Fields with names and a type. -/
def namedField : Parser Tree := do
  let names ← separated "," (do return (← name "field_identifier").withField "name") g.limit
  let type ← typeField g "type"
  let tag ← fieldTag?
  fieldEnd
  return build "field_declaration" (names ++ type :: tag)

/-- The type of a structure. -/
def structType : Parser Tree := do
  let keyword ← symbol "struct"
  let opening ← symbol "\x7b"
  let fields ← collect (do
    if ← sees "\x7d" then return none
    else
      let f ← orElse (namedField g) (embeddedField g)
      return some (f :: (← terminatorBefore "\x7d"))) g.limit
  let list := build "field_declaration_list" (opening :: fields.flatten ++ [← symbol "\x7d"])
  return build "struct_type" [keyword, list]

/-- A method of an interface, or types that it is restricted to. -/
def interfaceElement : Parser Tree := do
  if (← peek).isName && (← peekSecond).isSymbol "(" then
    let n ← name "field_identifier"
    let parameters ← parameterList g
    return build "method_elem"
      (n.withField "name" :: parameters.withField "parameters" :: (← result? g))
  else typeElement g

/-- The type of an interface. -/
def interfaceType : Parser Tree := do
  let keyword ← symbol "interface"
  let opening ← symbol "\x7b"
  let elements ← collect (do
    if ← sees "\x7d" then return none
    else
      let e ← interfaceElement g
      return some (e :: (← terminatorBefore "\x7d"))) g.limit
  return build "interface_type" (keyword :: opening :: elements.flatten ++ [← symbol "\x7d"])

/-! ### All types -/

/-- A type in brackets: a slice, or an array with its length or with dots for
it. -/
def bracketType : Parser Tree := do
  let opening ← symbol "["
  if ← sees "]" then
    return build "slice_type" [opening, ← symbol "]", ← typeField g "element"]
  else if ← sees "..." then
    return build "implicit_length_array_type"
      [opening, ← symbol "...", ← symbol "]", ← typeField g "element"]
  else
    let length ← g.parse (.expression false)
    return build "array_type"
      [opening, length.withField "length", ← symbol "]", ← typeField g "element"]

/-- A channel, possibly for one direction. -/
def channelType : Parser Tree := do
  let arrow ← symbol? "<-"
  let keyword ← symbol "chan"
  let outward ← if arrow.isEmpty then symbol? "<-" else pure []
  return build "channel_type" (arrow ++ keyword :: outward ++ [← typeField g "value"])

/-- A map. -/
def mapType : Parser Tree := do
  return build "map_type"
    [← symbol "map", ← symbol "[", ← typeField g "key", ← symbol "]", ← typeField g "value"]

/-- Any type. -/
def typeRule : Parser Tree := do
  let t ← peek
  if t.isName then namedType g
  else if t.kind = .symbol then
    match t.text with
    | "*" => return build "pointer_type" [← symbol "*", ← g.parse .type]
    | "[" => bracketType g
    | "struct" => structType g
    | "interface" => interfaceType g
    | "map" => mapType g
    | "chan" | "<-" => channelType g
    | "func" => functionType g
    | "(" => return build "parenthesized_type" [← symbol "(", ← g.parse .type, ← symbol ")"]
    | _ => fail
  else fail

/-- The parameters of a generic type or function: names and what each type has
to satisfy. -/
def typeParameters : Parser Tree := do
  let opening ← symbol "["
  let declaration : Parser Tree := do
    let names ← separated "," (do return (← name "identifier").withField "name") g.limit
    let constraint := ((← typeElement g).withKind "type_constraint").withField "type"
    return build "type_parameter_declaration" (names ++ [constraint])
  let items ← listUntil "," "]" (do return [← declaration]) g.limit
  if items.isEmpty then fail
  return build "type_parameter_list" (opening :: items ++ [← symbol "]"])

/-! ### Types among expressions -/

/-- The kinds of node that are types and no expressions. -/
def typeKinds : List String :=
  ["slice_type", "array_type", "implicit_length_array_type", "map_type", "channel_type",
    "function_type", "struct_type", "interface_type", "pointer_type", "parenthesized_type",
    "negated_type"]

/-- Whether a node is a type and no expression. -/
def isTypeKind (t : Tree) : Bool := typeKinds.contains t.kind

/-- A name with its package read as the name of a type. -/
def asTypeName (t : Tree) : Option Tree :=
  match t.kind, t.children with
  | "identifier", _ => some (t.withKind "type_identifier")
  | "selector_expression", [operand, dot, field] =>
    if operand.kind = "identifier" then
      some (build "qualified_type"
        [(operand.withKind "package_identifier").withField "package", dot,
          (field.withKind "type_identifier").withField "name"])
    else none
  | _, _ => none

/-- Nodes in which what can be read as a type has been; symbols stay. -/
def typesAmong : List Tree → List (Option Tree) → Option (List Tree)
  | t :: ts, type :: types =>
    match if t.isNamed then type else some t with
    | some t' => (typesAmong ts types).map (t' :: ·)
    | none => none
  | _, _ => some []

/-- Types as the elements of a list of arguments; symbols stay. -/
def asElements (types : List Tree) : List Tree :=
  types.map fun t => if t.isNamed && t.kind ≠ "type_elem" then build "type_elem" [t] else t

/-- A generic type from its name and its brackets with what they hold. -/
def genericType (typeName : Tree) (arguments : List Tree) : Tree :=
  build "generic_type"
    [typeName.withField "type",
      (build "type_arguments" (asElements arguments)).withField "type_arguments"]

/-- A node read as a type when it is known how its children read. -/
def typeOfParts (tag : Tag) (children : List Tree) (types : List (Option Tree)) : Option Tree :=
  let t := Tree.node tag children
  if isTypeKind t then some t
  else
    match tag.kind, children, types with
    | "unary_expression", [operator, _], [_, some inner] =>
      if operator.kind = "*" then some (build "pointer_type" [operator, inner]) else none
    | "parenthesized_expression", [opening, _, closing], [_, some inner, _] =>
      some (build "parenthesized_type" [opening, inner, closing])
    | "binary_expression", [_, operator, _], [some left, _, some right] =>
      if operator.kind = "|" then some (build "type_elem" [left, operator, right]) else none
    | "index_expression", operand :: arguments, _ :: types
    | "type_instantiation_expression", operand :: arguments, _ :: types =>
      match asTypeName operand, typesAmong arguments types with
      | some typeName, some items => some (genericType typeName items)
      | _, _ => none
    | _, _, _ => asTypeName t

mutual

/-- An expression read as a type, if it can be. -/
def asType : Tree → Option Tree
  | .node tag cs => typeOfParts tag cs (asTypes cs)

def asTypes : List Tree → List (Option Tree)
  | [] => []
  | t :: ts => asType t :: asTypes ts

end

end GoComplexity
