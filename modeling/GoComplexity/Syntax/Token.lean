/-
# Tokens

A token is a name, a literal, a symbol or keyword, or the end of a line or of
the file where a statement may end; comments are kept apart.

Key definitions: `TokenKind`, `Token`, `keywords`, `symbols`.
-/
import GoComplexity.Syntax.Tree

namespace GoComplexity

/-- The kinds of token. -/
inductive TokenKind where
  | identifier
  /-- A literal, with the name of its kind. -/
  | literal (name : String)
  /-- A keyword, operator or delimiter. -/
  | symbol
  /-- The end of a line at which a statement ends. -/
  | lineEnd
  /-- The end of the file. -/
  | fileEnd
deriving DecidableEq, Repr, Inhabited

/-- A token and where it stands. -/
structure Token where
  kind : TokenKind
  text : String
  start : Point
  stop : Point
deriving DecidableEq, Repr, Inhabited

/-- Words that are no names. -/
def keywords : List String :=
  ["break", "case", "chan", "const", "continue", "default", "defer", "else", "fallthrough", "for",
    "func", "go", "goto", "if", "import", "interface", "map", "package", "range", "return",
    "select", "struct", "switch", "type", "var"]

/-- Operators and delimiters, longer ones before their beginnings. -/
def symbols : List String :=
  ["<<=", ">>=", "&^=", "...", "&&", "||", "<-", "++", "--", "==", "!=", "<=", ">=", ":=", "+=",
    "-=", "*=", "/=", "%=", "&=", "|=", "^=", "<<", ">>", "&^", "+", "-", "*", "/", "%", "&", "|",
    "^", "<", ">", "=", "!", "(", ")", "[", "]", "\x7b", "\x7d", ",", ";", ".", ":", "~"]

/-- Symbols after which the end of a line ends a statement. -/
def enders : List String :=
  ["break", "continue", "fallthrough", "return", "++", "--", ")", "]", "\x7d"]

/-- Whether the end of a line after a token ends a statement. -/
def Token.endsStatement (t : Token) : Bool :=
  match t.kind with
  | .identifier | .literal _ => true
  | .symbol => enders.contains t.text
  | .lineEnd | .fileEnd => false

end GoComplexity
