/-
# What a tree adds at its place

The nodes above a tree matter to what it adds to the cognitive complexity only
through the standing of its root: its depth, whether it is an else-if, and whether
it goes on with the expression of a node above it.  For a root that is no part of
an expression the depth alone matters, and then the tree adds what a traversal that
starts at it finds.

Key definitions: `Standing`, `standing`, `Node.gain`, `Node.gainAlone`.
Key theorems: `Node.gain_eq`, `Node.gain_congr`, `cognitive_eq_gain`,
`Node.gain_eq_gainAlone`.
-/
import GoComplexity.Proofs.Increment

namespace GoComplexity

/-! ### Standings -/

/-- What the nodes above a node tell of it. -/
structure Standing where
  depth : Nat
  elseIf : Bool
  operand : Bool
deriving DecidableEq

/-- The standing of a node below others. -/
def standing (above : List Node) (n : Node) : Standing :=
  ⟨depth above n, isElseIf above n, isOperand above n⟩

/-- The standing of a child hangs on that of its parent and on the edge to it. -/
theorem standing_cons (p : Node) (above : List Node) (c : Node) :
    standing (p :: above) c =
      ⟨(standing above p).depth + if p.deepens c then 1 else 0,
        c.kind == .conditional && (p.kind == .conditional && p.isAlternative c),
        (p.operands.map Node.index).contains c.index &&
          (p.isLogical || (standing above p).operand)⟩ := rfl

/-- An operand stands at the level of its node, if that does not nest, and goes on with
its expression or with that of a node above. -/
theorem Node.Fits.standing_operand {p c : Node} (h : p.Fits) (hk : p.kind.nests = false)
    (hc : c ∈ p.operands) {above : List Node} {nesting : Nat} {elseIf operand : Bool}
    (hstanding : standing above p = ⟨nesting, elseIf, operand⟩) :
    standing (p :: above) c = ⟨nesting, false, p.isLogical || operand⟩ := by
  have hkind : (p.kind == .conditional) = false :=
    beq_eq_false_iff_ne.mpr fun he => by rw [he] at hk; exact absurd hk (by decide)
  have hmem : (p.operands.map Node.index).contains c.index = true :=
    (Node.contains_index_iff _ c).mpr (List.mem_map_of_mem hc)
  rw [standing_cons, hstanding, h.deepens_eq_false hk, hkind, hmem, Bool.false_and,
    Bool.and_false, Bool.true_and]
  rfl

/-- A logical node adds the runs of its expression, unless it goes on with another one. -/
theorem Place.increment_of_isLogical (identity : Option String) {n : Node}
    (h : n.isLogical = true) (above : List Node) :
    Place.increment identity ⟨above, n⟩ =
      if isOperand above n then 0 else (runs n.operators).length := by
  have hkind : n.kind = .logical := Node.kind_of_isLogical h
  unfold Place.increment
  simp only [hkind, h, Bool.true_and]
  cases isOperand above n <;> rfl

/-- A place adds by itself what the standing of its node tells. -/
theorem Place.increment_congr (identity : Option String) {above above' : List Node} {n : Node}
    (h : standing above n = standing above' n) :
    Place.increment identity ⟨above, n⟩ = Place.increment identity ⟨above', n⟩ := by
  have hdepth : depth above n = depth above' n := congrArg Standing.depth h
  have helse : isElseIf above n = isElseIf above' n := congrArg Standing.elseIf h
  have hoperand : isOperand above n = isOperand above' n := congrArg Standing.operand h
  unfold Place.increment
  dsimp only
  rw [hdepth, helse, hoperand]

namespace Node

variable (identity : Option String)

/-! ### What a tree adds -/

/-- What a tree adds below some nodes. -/
def gain (above : List Node) (n : Node) : Nat :=
  ((n.places above).map (Place.increment identity)).sum

/-- A tree adds what its root adds and what the trees of its children add. -/
theorem gain_eq (above : List Node) (n : Node) :
    n.gain identity above = Place.increment identity ⟨above, n⟩ +
      (n.children.map (gain identity (n :: above))).sum := by
  rw [gain, places_eq, List.map_cons, List.sum_cons, List.map_flatMap]
  refine congrArg _ ?_
  induction n.children with
  | nil => rfl
  | cons c cs ih =>
    rw [List.flatMap_cons, List.sum_append, List.map_cons, List.sum_cons, ih]
    rfl

/-- **A tree adds what the standing of its root tells.** -/
theorem gain_congr {n : Node} {above above' : List Node}
    (h : standing above n = standing above' n) :
    n.gain identity above = n.gain identity above' := by
  induction n using Node.induction generalizing above above' with
  | node n ih _ _ =>
    rw [gain_eq, gain_eq, Place.increment_congr identity h]
    refine congrArg (_ + List.sum ·) (List.map_congr_left fun c hc => ih c hc ?_)
    rw [standing_cons, standing_cons, h]

/-- A root that is no part of an expression does not go on with one. -/
theorem gain_congr_of_not_operator {n : Node} (hlogical : n.isLogical = false)
    (hgrouping : n.grouping = false) {above above' : List Node}
    (hdepth : depth above n = depth above' n) (helse : isElseIf above n = isElseIf above' n) :
    n.gain identity above = n.gain identity above' := by
  have hincrement : Place.increment identity ⟨above, n⟩ = Place.increment identity ⟨above', n⟩ := by
    unfold Place.increment
    dsimp only
    rw [hdepth, helse, hlogical]
    rfl
  have hoperands : n.operands = [] := by
    unfold operands
    rw [hlogical, hgrouping]
    rfl
  rw [gain_eq, gain_eq, hincrement]
  refine congrArg (_ + List.sum ·) (List.map_congr_left fun c _ => gain_congr identity ?_)
  rw [standing_cons, standing_cons, hoperands]
  show Standing.mk (depth above n + _) _ _ = Standing.mk (depth above' n + _) _ _
  rw [hdepth]
  rfl

end Node

/-- The cognitive complexity of a body is what its tree adds below nothing. -/
theorem cognitive_eq_gain (identity : Option String) {root : Node} (h : root.Shaped) :
    cognitive identity (some root) = root.gain identity [] := by
  have hknows : Visitor.Knows {} [] root := fun i _ => by simp [isOperand]
  have hrun := (Visitor.run_work identity h [] {} hknows).1
  rw [Nat.zero_add] at hrun
  exact hrun

/-! ### Trees on their own -/

namespace Node

/-- A node as the only statement of a function literal. -/
def wrapped (n : Node) : Node := .node { kind := .functionLiteral } [n] [n] none

/-- So many function literals around a node, the innermost one first. -/
def wrappers : Nat → Node → List Node
  | 0, _ => []
  | k + 1, n => n.wrapped :: wrappers k n.wrapped

theorem standing_wrappers (k : Nat) (n : Node) : standing (wrappers k n) n = ⟨k, false, false⟩ := by
  induction k generalizing n with
  | zero => rfl
  | succ k ih =>
    have hdeepens : n.wrapped.deepens n = true := by simp [deepens, wrapped, body, kind, facts,
      NodeKind.nests]
    rw [wrappers, standing_cons, ih, hdeepens]
    simp [wrapped, kind, facts, operands, isLogical, grouping]

variable (identity : Option String)

/-- What a traversal finds that starts at a tree, at a level. -/
def gainAlone (nesting : Nat) (n : Node) : Nat :=
  (Visitor.run identity {} [⟨n, nesting, false⟩]).total

/-- A traversal that starts at a tree finds what the tree adds within as many function
literals. -/
theorem gainAlone_eq {n : Node} (h : n.Shaped) (nesting : Nat) :
    n.gainAlone identity nesting = n.gain identity (wrappers nesting n) := by
  have hstanding := standing_wrappers nesting n
  have hdepth : depth (wrappers nesting n) n = nesting := congrArg Standing.depth hstanding
  have helse : isElseIf (wrappers nesting n) n = false := congrArg Standing.elseIf hstanding
  have hoperand : isOperand (wrappers nesting n) n = false := congrArg Standing.operand hstanding
  have hknows : Visitor.Knows {} (wrappers nesting n) n := fun i _ => by simp [hoperand]
  have hrun := (Visitor.run_work identity h _ {} hknows).1
  rw [Place.work, Nat.zero_add] at hrun
  dsimp only at hrun
  rw [hdepth, helse] at hrun
  exact hrun

/-- **A tree whose root is no part of an expression** adds what a traversal finds that
starts at it. -/
theorem gain_eq_gainAlone {n : Node} (h : n.Shaped) (hlogical : n.isLogical = false)
    (hgrouping : n.grouping = false) {above : List Node} (helse : isElseIf above n = false) :
    n.gain identity above = n.gainAlone identity (depth above n) := by
  have hstanding := standing_wrappers (depth above n) n
  rw [gainAlone_eq identity h]
  exact gain_congr_of_not_operator identity hlogical hgrouping
    (congrArg Standing.depth hstanding).symm (helse.trans (congrArg Standing.elseIf hstanding).symm)

end Node

end GoComplexity
