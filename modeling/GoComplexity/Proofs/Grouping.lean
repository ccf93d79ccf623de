/-
# The grouping of logical expressions

A logical expression joins operands by operators; how its nodes group them, and
which parts stand in parentheses, may differ while the operands and the operators in
source order are the same.  Neither measure sees the grouping.  The expression adds
to the cognitive complexity one for each run of equal operators, to the cyclomatic
complexity one for each operator, and its operands add what they add on their own.
An expression that goes on with one around it is a part of that one, and the runs are
those of the operators of both.

Key definitions: `Node.Groups`.
Key theorems: `Node.Groups.gain_eq`, `cognitive_plug_groups`, `scores_grouping`.
-/
import GoComplexity.Proofs.Surrounding
import Mathlib.Logic.Equiv.Basic

namespace GoComplexity

namespace Node

/-- The logical expressions over operands and operators, both in source order.  An
operand is a tree whose root neither is logical nor groups. -/
inductive Groups : Node → List Node → List String → Prop
  | operand {n : Node} (hlogical : n.isLogical = false) (hgrouping : n.grouping = false) :
      Groups n [n] []
  | logical {f : Facts} {l r : Node} {b : List Node} {a : Option Node} {o : String}
      {xs ys : List Node} {os ps : List String} (hkind : f.kind = .logical)
      (hoperator : f.operator = some o) (ho : o = "&&" ∨ o = "||") (hl : Groups l xs os)
      (hr : Groups r ys ps) : Groups (.node f [l, r] b a) (xs ++ ys) (os ++ o :: ps)
  | grouping {f : Facts} {c : Node} {b : List Node} {a : Option Node} {xs : List Node}
      {os : List String} (hkind : f.kind = .other) (hgrouping : f.grouping = true)
      (hc : Groups c xs os) : Groups (.node f [c] b a) xs os

theorem isLogical_of_operator {f : Facts} {o : String} (hkind : f.kind = .logical)
    (hoperator : f.operator = some o) (ho : o = "&&" ∨ o = "||") (cs b : List Node)
    (a : Option Node) : (Node.node f cs b a).isLogical = true := by
  show (f.kind == .logical && (f.operator == some "&&" || f.operator == some "||")) = true
  rw [hkind, hoperator]
  rcases ho with rfl | rfl <;> rfl

theorem isLogical_of_other {f : Facts} (hkind : f.kind = .other) (cs b : List Node)
    (a : Option Node) : (Node.node f cs b a).isLogical = false := by
  show (f.kind == .logical && (f.operator == some "&&" || f.operator == some "||")) = false
  rw [hkind]
  rfl

namespace Groups

variable {e : Node} {xs : List Node} {os : List String}

/-- An expression reads as its operators in source order. -/
theorem operators (h : e.Groups xs os) : e.operators = os := by
  induction h with
  | operand hlogical hgrouping =>
    rw [operators_eq, joined, hlogical, hgrouping]
    rfl
  | logical hkind hoperator ho _ _ ihl ihr =>
    have hlogical := isLogical_of_operator hkind hoperator ho
    rw [operators_eq, joined, hlogical]
    simp [children, operator, facts, hoperator, ihl, ihr]
  | grouping hkind hgrouping _ ih =>
    rw [operators_eq, joined, isLogical_of_other hkind]
    simp [children, Node.grouping, facts, hgrouping, ih]

/-- An expression with an operator is no conditional. -/
theorem kind_ne (h : e.Groups xs os) (hos : os ≠ []) : (e.kind == .conditional) = false := by
  cases h with
  | operand => exact absurd rfl hos
  | logical hkind => exact beq_eq_false_iff_ne.mpr fun h => by simp [kind, facts, hkind] at h
  | grouping hkind => exact beq_eq_false_iff_ne.mpr fun h => by simp [kind, facts, hkind] at h

/-- An expression adds its runs, unless it goes on with another one, and its operands
add what they add on their own. -/
theorem gain_eq (identity : Option String) (h : e.Groups xs os) (hs : e.Shaped)
    {above : List Node} {nesting : Nat} {operand : Bool}
    (hstanding : standing above e = ⟨nesting, false, operand⟩) :
    e.gain identity above = (if operand then 0 else (runs os).length) +
      (xs.map (gainAlone identity nesting)).sum := by
  induction h generalizing above nesting operand with
  | @operand n hlogical hgrouping =>
    have helse : isElseIf above n = false := congrArg Standing.elseIf hstanding
    have hdepth : depth above n = nesting := congrArg Standing.depth hstanding
    rw [gain_eq_gainAlone identity hs hlogical hgrouping helse, hdepth, List.map_singleton,
      List.sum_singleton, runs_nil, List.length_nil, ite_self, Nat.zero_add]
  | @logical f l r b a o xs ys os ps hkind hoperator ho hl hr ihl ihr =>
    set n := Node.node f [l, r] b a with hn
    have hlogical : n.isLogical = true := isLogical_of_operator hkind hoperator ho _ _ _
    have hoperators : n.operators = os ++ o :: ps := (logical hkind hoperator ho hl hr).operators
    have hnests : n.kind.nests = false := by rw [show n.kind = .logical from hkind]; rfl
    have hoperand : isOperand above n = operand := congrArg Standing.operand hstanding
    have hoperands : n.operands = [l, r] := by
      rw [Node.operands, hlogical]
      rfl
    -- both operands go on with the expression, at its level
    have hchild : ∀ c ∈ n.operands, standing (n :: above) c = ⟨nesting, false, true⟩ := by
      intro c hc
      rw [hs.self_fits.standing_operand hnests hc hstanding, hlogical, Bool.true_or]
    have hleft := hchild l (by rw [hoperands]; exact List.mem_cons_self)
    have hright := hchild r (by rw [hoperands]; exact List.mem_cons_of_mem _ List.mem_cons_self)
    have hgainl := ihl (hs.child List.mem_cons_self) hleft
    have hgainr := ihr (hs.child (List.mem_cons_of_mem _ List.mem_cons_self)) hright
    rw [Node.gain_eq, Place.increment_of_isLogical identity hlogical, hoperand, hoperators,
      List.map_append, List.sum_append]
    show _ + (l.gain identity (n :: above) + (r.gain identity (n :: above) + 0)) = _
    rw [hgainl, hgainr]
    simp only [↓reduceIte]
    omega
  | @grouping f c b a xs os hkind hgrouping hc ih =>
    set n := Node.node f [c] b a with hn
    have hlogical : n.isLogical = false := isLogical_of_other hkind _ _ _
    have hnests : n.kind.nests = false := by rw [show n.kind = .other from hkind]; rfl
    have hincrement : Place.increment identity ⟨above, n⟩ = 0 := by
      unfold Place.increment
      simp only [show n.kind = .other from hkind]
    have hoperands : n.operands = [c] := by
      rw [Node.operands, hlogical, show n.grouping = true from hgrouping]
      rfl
    -- what is grouped goes on with what the grouping goes on with
    have hchild : standing (n :: above) c = ⟨nesting, false, operand⟩ := by
      rw [hs.self_fits.standing_operand hnests (hoperands ▸ List.mem_cons_self) hstanding,
        hlogical, Bool.false_or]
    have hgain := ih (hs.child List.mem_cons_self) hchild
    rw [Node.gain_eq, hincrement]
    show _ + (c.gain identity (n :: above) + 0) = _
    rw [hgain, Nat.zero_add, Nat.add_zero]

/-- An expression adds its operators, and its operands add their decisions. -/
theorem decisions_eq (h : e.Groups xs os) :
    e.decisions = os.length + (xs.map decisions).sum := by
  induction h with
  | operand => rw [List.length_nil, Nat.zero_add, List.map_singleton, List.sum_singleton]
  | @logical f l r b a o xs ys os ps hkind hoperator ho _ _ ihl ihr =>
    have hself : (Node.node f [l, r] b a).decisionPoints = 1 := by
      unfold decisionPoints
      rw [isLogical_of_operator hkind hoperator ho, show (Node.node f [l, r] b a).kind = .logical
        from hkind]
      rfl
    rw [decisions, hself, decisionsAll, decisionsAll, decisionsAll, ihl, ihr, List.length_append,
      List.length_cons, List.map_append, List.sum_append]
    omega
  | @grouping f c b a xs os hkind _ _ ih =>
    have hself : (Node.node f [c] b a).decisionPoints = 0 := by
      unfold decisionPoints
      rw [isLogical_of_other hkind, show (Node.node f [c] b a).kind = .other from hkind]
      rfl
    rw [decisions, hself, decisionsAll, decisionsAll, ih, Nat.zero_add, Nat.add_zero]

/-- A relabelling keeps an expression, and relabels its operands. -/
theorem relabel {h : Facts → Facts} {ι : Nat → Nat} {identity identity' : Option String}
    (hk : KeepsScores h ι identity identity') (he : e.Groups xs os) :
    (e.relabel h).Groups (xs.map (Node.relabel h)) os := by
  induction he with
  | @operand n hlogical hgrouping =>
    exact operand ((hk.isLogical n).trans hlogical) ((hk.node_grouping n).trans hgrouping)
  | logical hkind hoperator ho _ _ ihl ihr =>
    rw [relabel_node, List.map_append]
    exact logical ((hk.kind _).trans hkind) ((hk.operator _).trans hoperator) ho ihl ihr
  | grouping hkind hgrouping _ ih =>
    rw [relabel_node]
    exact grouping ((hk.kind _).trans hkind) ((hk.grouping _).trans hgrouping) ih

end Groups
end Node

/-! ### Expressions in a place -/

section

variable (identity : Option String) {frs : List Frame} {e : Node} {xs : List Node}
  {os : List String}

/-- What an expression with an operator adds, wherever it stands. -/
theorem Node.Groups.gain_eq_of_ne_nil (h : e.Groups xs os) (hos : os ≠ []) (hs : e.Shaped)
    (above : List Node) :
    e.gain identity above = (if isOperand above e then 0 else (runs os).length) +
      (xs.map (Node.gainAlone identity (depth above e))).sum := by
  refine h.gain_eq identity hs (congrArg (Standing.mk _ · _) ?_)
  cases above with
  | nil => rfl
  | cons p above => rw [isElseIf, h.kind_ne hos, Bool.false_and]

theorem Node.gain_leaf (i : Nat) (above : List Node) : (Node.leaf i).gain identity above = 0 := by
  rw [Node.gain_eq]
  rfl

/-- **An expression counts once, with the one around it.** It adds to a body the runs of
the largest expression that it is a part of, in place of those around it alone, and what
its operands add on their own at its level. -/
theorem cognitive_plug_groups (h : e.Groups xs os) (hos : os ≠ []) (hs : (plug frs e).Shaped) :
    cognitive identity (some (plug frs e)) + (runs (surround frs [])).length =
      cognitive identity (some (plug frs (.leaf e.index))) + (runs (surround frs os)).length +
        (xs.map (Node.gainAlone identity (depth (ancestors frs e []) e))).sum := by
  have hleaf := shaped_plug_leaf hs
  have hstanding : standing [] (plug frs e) = standing [] (plug frs (.leaf e.index)) := rfl
  have hgain := gain_plug identity (h.kind_ne hos)
    (fun nesting => (xs.map (Node.gainAlone identity nesting)).sum)
    (fun above above' _ => by
      have hempty : (Node.leaf e.index).operators = [] := rfl
      rw [h.gain_eq_of_ne_nil identity hos (shaped_of_plug hs), Node.gain_leaf, h.operators,
        hempty]
      unfold pending
      cases isOperand above e <;> simp [surround])
    frs hs hleaf hstanding
  rw [cognitive_eq_gain identity hs, cognitive_eq_gain identity hleaf]
  rw [h.operators] at hgain
  exact hgain

/-- Expressions over the same operands and operators add the same in a place. -/
theorem cognitive_plug_groups_congr {e' : Node} (h : e.Groups xs os) (h' : e'.Groups xs os)
    (hos : os ≠ []) (hs : (plug frs e).Shaped) (hs' : (plug frs e').Shaped) :
    cognitive identity (some (plug frs e)) = cognitive identity (some (plug frs e')) := by
  have hkind : (e.kind == .conditional) = (e'.kind == .conditional) :=
    (h.kind_ne hos).trans (h'.kind_ne hos).symm
  have hstanding : standing [] (plug frs e) = standing [] (plug frs e') := by
    cases frs with
    | nil => rfl
    | cons fr frs => rfl
  have hgain := gain_plug identity hkind (fun _ => 0) (fun above above' hsame => by
    have halone := h.gain_eq_of_ne_nil identity hos (shaped_of_plug hs) above
    have halone' := h'.gain_eq_of_ne_nil identity hos (shaped_of_plug hs') above'
    have hdepth : depth above e = depth above' e' := congrArg Standing.depth hsame
    have hoperand : isOperand above e = isOperand above' e' := congrArg Standing.operand hsame
    rw [halone, halone', hdepth, hoperand, h.operators, h'.operators, Nat.add_zero])
    frs hs hs' hstanding
  rw [h.operators, h'.operators] at hgain
  rw [cognitive_eq_gain identity hs, cognitive_eq_gain identity hs']
  omega

end

/-! ### Scores -/

/-- **The grouping of an expression does not matter.** Two bodies with expressions over
the same operands and operators in the same place have the same scores, even if the one
is grouped otherwise and so numbered otherwise as well.  An expression that goes on with
no other one adds the runs of its operators and what its operands add on their own at its
level; one that does changes the runs of the expression around it.  It adds its operators
and the decisions of its operands to the other measure. -/
theorem scores_grouping (identity : Option String) {ι : Nat → Nat} (hι : Function.Injective ι)
    (g : Facts → Position) {frs : List Frame} {e e' : Node} {xs : List Node} {os : List String}
    (hos : os ≠ []) (he : e.Groups xs os)
    (he' : e'.Groups (xs.map (Node.relabel (Facts.renumber ι g))) os)
    (hs : (plug frs e).Shaped)
    (hs' : (plug (frs.map (Frame.relabel (Facts.renumber ι g))) e').Shaped) :
    cognitive identity (some (plug (frs.map (Frame.relabel (Facts.renumber ι g))) e')) =
        cognitive identity (some (plug frs e)) ∧
      cyclomatic (some (plug (frs.map (Frame.relabel (Facts.renumber ι g))) e')) =
        cyclomatic (some (plug frs e)) ∧
      (isOperand (ancestors frs e []) e = false →
        cognitive identity (some (plug frs e)) =
          cognitive identity (some (plug frs (.leaf e.index))) + (runs os).length +
            (xs.map (Node.gainAlone identity (depth (ancestors frs e []) e))).sum) ∧
      cognitive identity (some (plug frs e)) + (runs (surround frs [])).length =
        cognitive identity (some (plug frs (.leaf e.index))) + (runs (surround frs os)).length +
          (xs.map (Node.gainAlone identity (depth (ancestors frs e []) e))).sum ∧
      cyclomatic (some (plug frs e)) =
        cyclomatic (some (plug frs (.leaf e.index))) + os.length +
          (xs.map Node.decisions).sum := by
  have hk := keepsScores_renumber hι g identity
  have hadds := cognitive_plug_groups identity he hos hs
  -- the first body, numbered as the second one is
  have hplug := relabel_plug (Facts.renumber ι g) frs e
  have hcognitive := cognitive_relabel hk (some (plug frs e))
  have hcyclomatic := cyclomatic_relabel hk (some (plug frs e))
  have hsame := cognitive_plug_groups_congr identity he' (he.relabel hk) hos hs'
    (hplug ▸ hk.shaped hs)
  rw [Option.map_some, hplug] at hcognitive hcyclomatic
  refine ⟨hsame.trans hcognitive, Eq.trans ?_ hcyclomatic, ?_, hadds, ?_⟩
  · have hdecisions := decisions_plug e' (e.relabel (Facts.renumber ι g))
      (frs.map (Frame.relabel (Facts.renumber ι g)))
    rw [he'.decisions_eq, (he.relabel hk).decisions_eq] at hdecisions
    rw [cyclomatic, cyclomatic]
    omega
  · intro hoperand
    rw [surround_eq frs hs hoperand, surround_eq frs hs hoperand] at hadds
    simpa only [runs_nil, List.length_nil, Nat.add_zero] using hadds
  · have hdecisions := decisions_plug e (.leaf e.index) frs
    have hleaf : (Node.leaf e.index).decisions = 0 := rfl
    rw [he.decisions_eq, hleaf] at hdecisions
    rw [cyclomatic, cyclomatic]
    omega

section

open Node

/-- The operand `!(d && e)`. -/
def negation : Node :=
  .node { index := 9 }
    [.node { kind := .logical, index := 10, operator := some "&&" } [leaf 11, leaf 12] [] none]
    [] none

/-- The condition `((a && b) && c) || !(d && e)`. -/
def groupedLeft : Node :=
  .node { kind := .logical, index := 1, operator := some "||" }
    [.node { index := 2, grouping := true }
      [.node { kind := .logical, index := 3, operator := some "&&" }
        [.node { index := 4, grouping := true }
          [.node { kind := .logical, index := 5, operator := some "&&" } [leaf 6, leaf 7] [] none]
          [] none, leaf 8] [] none]
      [] none, negation] [] none

/-- The condition `a && (b && (c || !(d && e)))`. -/
def groupedRight : Node :=
  .node { kind := .logical, index := 1, operator := some "&&" }
    [leaf 2, .node { index := 3, grouping := true }
      [.node { kind := .logical, index := 4, operator := some "&&" }
        [leaf 5, .node { index := 6, grouping := true }
          [.node { kind := .logical, index := 7, operator := some "||" } [leaf 8, negation] [] none]
          [] none] [] none]
      [] none] [] none

/-- A conditional without its condition. -/
def branchOn : Frame where
  facts := { kind := .conditional }
  before := []
  after := [leaf 13]
  body := [some (leaf 13)]
  alternative := none
  body_mem := by simp
  alternative_mem := by simp

theorem shaped_branchOn {condition : Node}
    (hd : ((branchOn.fill condition).walk.map index).Nodup)
    (h : ∀ n ∈ condition.walk, n.body = [] ∧ n.alternative = none) :
    (branchOn.fill condition).Shaped where
  distinct := hd
  fits := by
    intro n hn
    rw [walk_eq, List.mem_cons, List.mem_flatMap] at hn
    rcases hn with rfl | ⟨c, hc, hn⟩
    · exact .of_nestedIndexes (fun b hb => List.mem_cons_of_mem _ hb) (fun a ha => nomatch ha)
        (List.nodup_singleton 13) fun _ => rfl
    · rcases List.mem_cons.mp hc with rfl | hc
      · exact .of_bare (h n hn).1 (h n hn).2
      · obtain rfl := List.mem_singleton.mp hc
        exact (shaped_leaf 13).fits n hn

theorem shaped_groupedLeft : (branchOn.fill groupedLeft).Shaped :=
  shaped_branchOn (by decide) (by simp [groupedLeft, negation, leaf, walk, walkAll, body,
    alternative])

theorem shaped_groupedRight : (branchOn.fill groupedRight).Shaped :=
  shaped_branchOn (by decide) (by simp [groupedRight, negation, leaf, walk, walkAll, body,
    alternative])

/-- One for the branch, two for the runs of the three operators of the condition and one for the
negated expression; grouped otherwise the condition adds the same. -/
theorem scores_groupedRight :
    runs ["&&", "&&", "||"] = [["&&", "&&"], ["||"]] ∧
      cognitive none (some (branchOn.fill groupedRight)) = 4 ∧
      cyclomatic (some (branchOn.fill groupedRight)) = 6 ∧
      cognitive none (some (branchOn.fill groupedLeft)) =
        cognitive none (some (branchOn.fill (leaf 1))) + 2 +
          ([leaf 6, leaf 7, leaf 8, negation].map (gainAlone none 0)).sum := by
  have hleft : groupedLeft.Groups [leaf 6, leaf 7, leaf 8, negation] ["&&", "&&", "||"] :=
    .logical rfl rfl (Or.inr rfl) (.grouping rfl rfl (.logical rfl rfl (Or.inl rfl)
      (.grouping rfl rfl (.logical rfl rfl (Or.inl rfl) (.operand rfl rfl) (.operand rfl rfl)))
      (.operand rfl rfl))) (.operand rfl rfl)
  have hright : groupedRight.Groups [leaf 2, leaf 5, leaf 8, negation] ["&&", "&&", "||"] :=
    .logical rfl rfl (Or.inl rfl) (.operand rfl rfl) (.grouping rfl rfl (.logical rfl rfl
      (Or.inl rfl) (.operand rfl rfl) (.grouping rfl rfl (.logical rfl rfl (Or.inr rfl)
      (.operand rfl rfl) (.operand rfl rfl)))))
  have hshaped : (plug [branchOn] groupedLeft).Shaped := shaped_groupedLeft
  obtain ⟨hcognitive, hcyclomatic, hadds, _, _⟩ := scores_grouping none
    ((Equiv.swap 2 6).trans (Equiv.swap 5 7)).injective Facts.position (by decide) hleft hright
    hshaped shaped_groupedRight
  refine ⟨by decide, hcognitive.trans ?_, hcyclomatic.trans (by decide), hadds (by decide)⟩
  rw [cognitive_eq_gain none hshaped]
  decide

end

end GoComplexity
