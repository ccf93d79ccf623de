/-
# The outline of a file

The top-level nodes of a file are read in order: comments are grouped into doc
comments, a package clause gives the package name, and functions, methods and
groups of values become declarations.  All nodes of a file are numbered from
zero through one counter.

A file with a syntax error is refused with the place of the first one, and so
is one that is nested more deeply than the conversion goes, which is a matter of
the machine.  What the parser makes of a source is not told here either: a front
end is any parser, with limits of the depth.

Key definitions: `Outline.ofTree`, `DepthLimits`, `Outline.ofTreeWithin?`,
`Frontend`.
-/
import GoComplexity.Failure
import GoComplexity.Log
import GoComplexity.Outline.Comment
import GoComplexity.Outline.Convert
import GoComplexity.Outline.Declaration

namespace GoComplexity

/-- The shape of a receiver type. -/
def receiverType : Tree → Receiver
  | .node tag cs =>
    if tag.kind = "type_identifier" then .ident (tag.text.getD "")
    else if tag.kind = "pointer_type" then .pointer (receiverElem cs)
    else .other
where
  /-- The shape of the first kept node of a pointer type. -/
  receiverElem : List Tree → Receiver
    | [] => .other
    | t :: ts => if t.isKept then receiverType t else receiverElem ts

/-- A parameter declaration, of one or of any number of values. -/
def isParameter (t : Tree) : Bool :=
  t.kind == "parameter_declaration" || t.kind == "variadic_parameter_declaration"

/-- The receiver type of a receiver list: that of its first parameter. -/
def receiverOf? (list : Option Tree) : Option Receiver :=
  match list.map fun l => l.namedChildren.filter isParameter with
  | some (parameter :: _) => some (((parameter.childByField? "type").map receiverType).getD .other)
  | _ => none

/-- The specifications of a group of values, direct or in a list of their own. -/
def specsOf (specKind : String) (t : Tree) : List Tree :=
  t.namedChildren.flatMap fun c =>
    if c.kind = specKind then [c]
    else if c.kind.endsWith "_spec_list" then c.namedChildren.filter fun s => s.kind == specKind
    else []

/-- The syntax of the initial values of a specification. -/
def valuesOf (spec : Tree) : List Tree :=
  ((spec.childByField? "value").map fun l => l.namedChildren.filter fun e => !e.isComment).getD []

/-- Outlines the values of a specification, each with no local names at first. -/
def convertValues (path : String) (parent : Form) : List Tree → Nat → List Node × Nat
  | [], next => ([], next)
  | t :: ts, next =>
    let (n, s) := convert path parent t ⟨next, [[]]⟩
    let (ns, next') := convertValues path parent ts s.next
    (n :: ns, next')

/-- Outlines the specifications of a group of values. -/
def convertSpecs (path : String) : List Tree → Nat → List ValueSpec × Nat
  | [], next => ([], next)
  | t :: ts, next =>
    let (values, next₁) := convertValues path t.form (valuesOf t) next
    let (specs, next₂) := convertSpecs path ts next₁
    (⟨(t.childrenByField "name").map Tree.text, values⟩ :: specs, next₂)

/-- The names that a function's signature binds for its body. -/
def signatureNames (fields : List String) (t : Tree) : List String :=
  fields.flatMap (parametersOf t)

/-- Outlines the body of a function whose signature binds `names`. -/
def convertBody (path : String) (names : List String) (t : Tree) (next : Nat) :
    Option Node × Nat :=
  match t.childByField? "body" with
  | none => (none, next)
  | some body =>
    let (n, s) := convert path t.form body ⟨next, [names]⟩
    (some n, s.next)

/-- The text of a node's name field. -/
def nameOf (t : Tree) : String := ((t.childByField? "name").map Tree.text).getD ""

/-- The declaration of a top-level node, if it is one, and the next index. -/
def declarationOf? (path : String) (doc : List String) (t : Tree) (next : Nat) :
    Option (Declaration × Nat) :=
  match t.kind with
  | "function_declaration" =>
    let (body, next') := convertBody path (signatureNames ["parameters", "result"] t) t next
    some ({ kind := .function, name := nameOf t, position := t.position path, doc := doc,
            body := body }, next')
  | "method_declaration" =>
    let names := signatureNames ["receiver", "parameters", "result"] t
    let (body, next') := convertBody path names t next
    some ({ kind := .method, name := nameOf t, position := t.position path, doc := doc,
            body := body, receiver := receiverOf? (t.childByField? "receiver") }, next')
  | "var_declaration" =>
    let (specs, next') := convertSpecs path (specsOf "var_spec" t) next
    some ({ kind := .value, position := t.position path, doc := doc, specs := specs }, next')
  | "const_declaration" =>
    let (specs, next') := convertSpecs path (specsOf "const_spec" t) next
    some ({ kind := .value, position := t.position path, doc := doc, specs := specs }, next')
  | _ => none

/-- The package name of a package clause. -/
def packageNameOf (t : Tree) : String :=
  ((t.namedChildren.find? fun c => c.kind == "package_identifier").map Tree.text).getD ""

/-- What has been read of a file: the pending comments, the next index, the
package name, and the declarations. -/
structure Reading where
  tracker : DocTracker := {}
  next : Nat := 0
  package : String := ""
  declarations : List Declaration := []
deriving Inhabited

namespace Reading

/-- Reads one top-level node. -/
def step (path : String) (r : Reading) (t : Tree) : Reading :=
  if t.isComment then { r with tracker := r.tracker.comment t }
  else
    let doc := r.tracker.docFor t
    let r := { r with tracker := DocTracker.code t }
    if t.kind = "package_clause" then { r with package := packageNameOf t }
    else
      match declarationOf? path doc t r.next with
      | some (d, next) => { r with next := next, declarations := r.declarations ++ [d] }
      | none => r

end Reading

namespace Outline

/-- The outline of a file's tree. -/
def ofTree (path : String) (root : Tree) : Outline :=
  let r := root.namedChildren.foldl (Reading.step path) {}
  ⟨path, r.package, r.declarations⟩

/-- What is logged when a file is outlined. -/
def record (o : Outline) : Record where
  level := .debug
  origin := .normalizer
  message := s!"{o.path}: package {o.package}, {o.declarations.length} declarations"

end Outline

/-- How deep a conversion goes. -/
structure DepthLimits where
  /-- The most levels of syntax of a body or of an initial value. -/
  levels : Nat
  /-- The most pointers of a receiver type. -/
  pointers : Nat
deriving DecidableEq, Repr, Inhabited

/-- The number of pointers of a receiver type. -/
def Receiver.pointers : Receiver → Nat
  | .pointer elem => elem.pointers + 1
  | _ => 0

/-- The syntax that is converted for a top-level node. -/
def convertedTrees (t : Tree) : List Tree :=
  match t.kind with
  | "function_declaration" | "method_declaration" => (t.childByField? "body").toList
  | "var_declaration" => (specsOf "var_spec" t).flatMap valuesOf
  | "const_declaration" => (specsOf "const_spec" t).flatMap valuesOf
  | _ => []

/-- The receiver type that is read for a top-level node. -/
def readReceiver? (t : Tree) : Option Receiver :=
  match t.kind with
  | "method_declaration" => receiverOf? (t.childByField? "receiver")
  | _ => none

/-- Whether a top-level node is nested more deeply than a conversion goes. -/
def Tree.exceeds (limits : DepthLimits) (t : Tree) : Bool :=
  ((convertedTrees t).any fun b => limits.levels < b.levels) ||
    (readReceiver? t).any fun r => limits.pointers < r.pointers

/-- Whether a file is nested more deeply than a conversion goes. -/
def Tree.isTooDeep (limits : DepthLimits) (root : Tree) : Bool :=
  root.namedChildren.any (Tree.exceeds limits)

/-- The failure that the first fault of a tree is. -/
def syntaxFailure (path : String) (fault : Tree) : Failure :=
  let reason := if fault.isMissing then s!"missing {fault.kind}" else "syntax error"
  .parsing path reason (some (fault.start.row + 1, fault.start.column + 1)) "go"

/-- The outline of a file's tree, unless the tree holds a fault or is nested too
deeply. -/
def Outline.ofTreeWithin? (limits : DepthLimits) (path : String) (root : Tree) :
    Except Failure Outline :=
  match root.firstError? with
  | some fault => .error (syntaxFailure path fault)
  | none =>
    if root.isTooDeep limits then .error (.parsing path "nesting too deep" none "go")
    else .ok (Outline.ofTree path root)

/-- What turns a source into an outline: a parser, which makes a tree of any
bytes, and the depth to which its trees are converted. -/
structure Frontend where
  parse : ByteArray → Tree
  limits : DepthLimits

/-- The outline of a source, unless it is malformed or nested too deeply. -/
def Frontend.outline? (front : Frontend) (path : String) (content : ByteArray) :
    Except Failure Outline :=
  Outline.ofTreeWithin? front.limits path (front.parse content)

end GoComplexity
