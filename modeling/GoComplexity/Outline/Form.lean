/-
# The forms of syntax that an outline tells apart

Of the many kinds of syntax node only some decide how a body is outlined; all
others are alike.  Eleven forms open a lexical scope.

Key definitions: `Form`, `Form.ofKind`, `Form.opensScope`, `Form.isCase`,
`Form.kinds`.
Key theorems: `Form.mem_kinds_ofKind`, `Form.ofKind_of_mem_kinds`.
-/
import GoComplexity.Syntax.Tree

namespace GoComplexity

/-- A form of syntax. -/
inductive Form where
  | block
  | ifStatement
  | forStatement
  | expressionSwitch
  | typeSwitch
  | selectStatement
  | expressionCase
  | typeCase
  | defaultCase
  | communicationCase
  | funcLiteral
  | jump
  | binary
  | call
  | parenthesized
  | shortVar
  | valueSpec
  | rangeClause
  | receive
  | identifier
  | other
deriving DecidableEq, Repr, Inhabited

namespace Form

/-- The form of a kind of node. -/
def ofKind (kind : String) : Form :=
  match kind with
  | "block" => .block
  | "if_statement" => .ifStatement
  | "for_statement" => .forStatement
  | "expression_switch_statement" => .expressionSwitch
  | "type_switch_statement" => .typeSwitch
  | "select_statement" => .selectStatement
  | "expression_case" => .expressionCase
  | "type_case" => .typeCase
  | "default_case" => .defaultCase
  | "communication_case" => .communicationCase
  | "func_literal" => .funcLiteral
  | "break_statement" => .jump
  | "continue_statement" => .jump
  | "goto_statement" => .jump
  | "fallthrough_statement" => .jump
  | "binary_expression" => .binary
  | "call_expression" => .call
  | "parenthesized_expression" => .parenthesized
  | "short_var_declaration" => .shortVar
  | "var_spec" => .valueSpec
  | "const_spec" => .valueSpec
  | "range_clause" => .rangeClause
  | "receive_statement" => .receive
  | "identifier" => .identifier
  | _ => .other

/-- Whether names declared inside are unknown outside. -/
def opensScope : Form → Bool
  | .block | .ifStatement | .forStatement | .expressionSwitch | .typeSwitch | .selectStatement
  | .expressionCase | .typeCase | .defaultCase | .communicationCase | .funcLiteral => true
  | _ => false

/-- A clause of a switch or a select. -/
def isCase : Form → Bool
  | .expressionCase | .typeCase | .defaultCase | .communicationCase => true
  | _ => false

/-- The kinds of node of a form; the form of all others has none of its own. -/
def kinds : Form → List String
  | .block => ["block"]
  | .ifStatement => ["if_statement"]
  | .forStatement => ["for_statement"]
  | .expressionSwitch => ["expression_switch_statement"]
  | .typeSwitch => ["type_switch_statement"]
  | .selectStatement => ["select_statement"]
  | .expressionCase => ["expression_case"]
  | .typeCase => ["type_case"]
  | .defaultCase => ["default_case"]
  | .communicationCase => ["communication_case"]
  | .funcLiteral => ["func_literal"]
  | .jump => ["break_statement", "continue_statement", "goto_statement", "fallthrough_statement"]
  | .binary => ["binary_expression"]
  | .call => ["call_expression"]
  | .parenthesized => ["parenthesized_expression"]
  | .shortVar => ["short_var_declaration"]
  | .valueSpec => ["var_spec", "const_spec"]
  | .rangeClause => ["range_clause"]
  | .receive => ["receive_statement"]
  | .identifier => ["identifier"]
  | .other => []

theorem mem_kinds_ofKind {kind : String} (h : ofKind kind ≠ .other) :
    kind ∈ (ofKind kind).kinds := by
  revert h
  unfold ofKind
  split <;> intro h <;> first | exact absurd rfl h | simp [kinds]

theorem ofKind_of_mem_kinds {f : Form} {kind : String} (h : kind ∈ f.kinds) : ofKind kind = f := by
  cases f <;> simp only [kinds, List.mem_cons, List.not_mem_nil, or_false] at h
  case jump => rcases h with rfl | rfl | rfl | rfl <;> rfl
  case valueSpec => rcases h with rfl | rfl <;> rfl
  all_goals (subst h; rfl)

end Form

/-- The form of a node. -/
def Tree.form (t : Tree) : Form := Form.ofKind t.kind

end GoComplexity
