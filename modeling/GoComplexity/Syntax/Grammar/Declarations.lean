/-
# The grammar of declarations

Constants, variables and types, alone or in groups, which may stand at the top
level of a file and in bodies.  In a line of constants the commas between the
names belong to the names; in a line of variables they do not.

Key definitions: `valueDeclaration`, `typeDeclaration`, `importDeclaration`,
`packageClause`.
-/
import GoComplexity.Syntax.Grammar.Expressions

namespace GoComplexity

open GoComplexity.Parser

variable (g : Grammar)

/-- The values of a line of constants or variables. -/
def initialValues : Parser (List Tree) := do
  let equals ← symbol "="
  return [equals, (← expressionList g false).withField "value"]

/-- The type of a line of values, if it is given. -/
def valueType? : Parser (List Tree) := do
  if beginsType (← peek) then return [← typeField g "type"] else return []

/-- A line of variables: names with a type, values or both. -/
def varSpec : Parser Tree := do
  let names ← separated "," (do return (← name "identifier").withField "name") g.limit
  let type ← valueType? g
  let values ← if type.isEmpty || (← sees "=") then initialValues g else pure []
  return build "var_spec" (names ++ type ++ values)

/-- A line of constants: names, with values and possibly a type. -/
def constSpec : Parser Tree := do
  let names ← separated "," (name "identifier") g.limit
  let type ← valueType? g
  let values ← if !type.isEmpty || (← sees "=") then initialValues g else pure []
  return build "const_spec" (names.map (Tree.withField "name") ++ type ++ values)

/-- Lines of a group in parentheses. -/
def group (line : Parser Tree) : Parser (List Tree) := do
  let opening ← symbol "("
  let lines ← collect (do
    if ← sees ")" then return none
    else
      let l ← line
      return some (l :: (← terminatorBefore ")"))) g.limit
  return opening :: lines.flatten ++ [← symbol ")"]

/-- A declaration of variables or constants. -/
def valueDeclaration (keyword : String) : Parser Tree := do
  let k ← symbol keyword
  let line := if keyword = "var" then varSpec g else constSpec g
  let kind := keyword ++ "_declaration"
  if ← sees "(" then
    let lines ← group g line
    if keyword = "var" then return build kind [k, build "var_spec_list" lines]
    else return build kind (k :: lines)
  else return build kind [k, ← line]

/-- A type after its name: an array or a type without parameters. -/
def plainTypeTail (typeName : Tree) : Parser Tree := do
  let equals ← symbol? "="
  let type ← typeField g "type"
  let kind := if equals.isEmpty then "type_spec" else "type_alias"
  return build kind (typeName :: equals ++ [type])

/-- A type after its name: parameters and the type. -/
def genericTypeTail (typeName : Tree) : Parser Tree := do
  let parameters := (← typeParameters g).withField "type_parameters"
  let equals ← symbol? "="
  let type ← typeField g "type"
  let kind := if equals.isEmpty then "type_spec" else "type_alias"
  return build kind (typeName :: parameters :: equals ++ [type])

/-- One line of a declaration of types. -/
def typeSpec : Parser Tree := do
  let typeName := (← name "type_identifier").withField "name"
  if ← sees "[" then orElse (plainTypeTail g typeName) (genericTypeTail g typeName)
  else plainTypeTail g typeName

/-- A declaration of types. -/
def typeDeclaration : Parser Tree := do
  let keyword ← symbol "type"
  if ← sees "(" then return build "type_declaration" (keyword :: (← group g (typeSpec g)))
  else return build "type_declaration" [keyword, ← typeSpec g]

/-- One imported package, possibly with a name of its own. -/
def importSpec : Parser Tree := do
  let localName ←
    if ← sees "." then pure [((← symbol ".").withKind "dot").withField "name"]
    else if (← peek).isName then pure [(← name "package_identifier").withField "name"]
    else pure []
  return build "import_spec" (localName ++ [(← literal).withField "path"])

/-- A declaration of imports. -/
def importDeclaration : Parser Tree := do
  let keyword ← symbol "import"
  if ← sees "(" then
    let list := build "import_spec_list" (← group g importSpec)
    return build "import_declaration" [keyword, list]
  else return build "import_declaration" [keyword, ← importSpec]

/-- The clause that names the package. -/
def packageClause : Parser Tree := do
  return build "package_clause" [← symbol "package", ← name "package_identifier"]

end GoComplexity
