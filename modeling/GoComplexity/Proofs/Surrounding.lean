/-
# Trees in a place

Frames within one another are a place in a tree, and every place in a tree of the
shape that bodies have is one.  What is around a place sees a tree there only through
the operators of its expression and through whether it is a conditional.  So two trees
that agree on the latter change what is around them by their operators alone, and these
count as part of the largest expression that goes on in the place.

Key definitions: `plug`, `ancestors`, `surround`, `pending`, `Node.leaf`.
Key theorems: `gain_plug`, `surround_eq`, `decisions_plug`, `exists_frames`,
`shaped_plug_leaf`.
-/
import GoComplexity.Proofs.Frame

namespace GoComplexity

/-- A tree within frames, the outermost one first. -/
def plug : List Frame → Node → Node
  | [], n => n
  | fr :: frs, n => fr.fill (plug frs n)

/-- The nodes above the place within frames, its parent first. -/
def ancestors : List Frame → Node → List Node → List Node
  | [], _, above => above
  | fr :: frs, n, above => ancestors frs n (plug (fr :: frs) n :: above)

/-- The operators of frames with those of a tree in the place. -/
def joins : List Frame → List String → List String
  | [], operators => operators
  | fr :: frs, operators => fr.join (joins frs operators)

/-- The operators of the largest expression that goes on in the place, those of a tree
there included. -/
def surround : List Frame → List String → List String
  | [], operators => operators
  | fr :: frs, operators =>
    if fr.isLogical && (fr :: frs).all Frame.holdsOperand then joins (fr :: frs) operators
    else surround frs operators

/-- What the largest expression that goes on in the place adds within the frames; `operand`
tells whether they go on with one themselves. -/
def pending (frs : List Frame) (operand : Bool) (operators : List String) : Nat :=
  if operand && frs.all Frame.holdsOperand then 0 else (runs (surround frs operators)).length

theorem operators_plug (frs : List Frame) (m : Node) :
    (plug frs m).operators = joins frs m.operators := by
  induction frs with
  | nil => rfl
  | cons fr frs ih => rw [plug, Frame.operators_fill, ih, joins]

/-- Frames that do not go on in the place have their own operators only. -/
theorem joins_congr {frs : List Frame} (h : frs.all Frame.holdsOperand = false)
    (operators operators' : List String) : joins frs operators = joins frs operators' := by
  induction frs with
  | nil => exact absurd h (by decide)
  | cons fr frs ih =>
    rw [List.all_cons, Bool.and_eq_false_iff] at h
    rw [joins, joins]
    rcases h with h | h
    · exact fr.join_congr h _ _
    · rw [ih h]

/-- An expression counts at its topmost node, or else further inside. -/
theorem pending_cons (fr : Frame) (frs : List Frame) (operand : Bool) (operators : List String) :
    pending (fr :: frs) operand operators =
      if fr.isLogical && !operand && (fr :: frs).all Frame.holdsOperand then
        (runs (joins (fr :: frs) operators)).length
      else pending frs (fr.holdsOperand && (fr.isLogical || operand)) operators := by
  unfold pending
  rw [surround, List.all_cons]
  cases operand <;> cases fr.isLogical <;> cases fr.holdsOperand <;>
    cases frs.all Frame.holdsOperand <;> rfl

theorem conditional_plug {m m' : Node}
    (hkind : (m.kind == .conditional) = (m'.kind == .conditional)) :
    ∀ frs : List Frame,
      ((plug frs m).kind == .conditional) = ((plug frs m').kind == .conditional)
  | [] => hkind
  | _ :: _ => rfl

/-- What fills a place stands in its frame as any other tree does that is a conditional
or is not like it. -/
theorem standing_plug_cons {fr : Frame} {frs : List Frame} {m m' : Node}
    {above above' : List Node} (hkind : (m.kind == .conditional) = (m'.kind == .conditional))
    (hs : (plug (fr :: frs) m).Shaped) (hs' : (plug (fr :: frs) m').Shaped)
    (h : standing above (plug (fr :: frs) m) = standing above' (plug (fr :: frs) m')) :
    standing (plug (fr :: frs) m :: above) (plug frs m) =
      standing (plug (fr :: frs) m' :: above') (plug frs m') := by
  have hstands := Frame.standing_hole above (Frame.apart_of_shaped hs)
  have hstands' := Frame.standing_hole above' (Frame.apart_of_shaped hs')
  refine hstands.trans (Eq.trans ?_ hstands'.symm)
  rw [conditional_plug hkind frs]
  exact congrArg (fr.edge · _ _) h

/-- What fills a place changes the increment of a node around it by what the expression
of the place counts there. -/
theorem increment_plug_cons (identity : Option String) {fr : Frame} {frs : List Frame}
    {m m' : Node} {above above' : List Node}
    (hkind : (m.kind == .conditional) = (m'.kind == .conditional))
    (h : standing above (plug (fr :: frs) m) = standing above' (plug (fr :: frs) m'))
    {operand : Bool} (ho : isOperand above (plug (fr :: frs) m) = operand) :
    Place.increment identity ⟨above, plug (fr :: frs) m⟩ +
          pending (fr :: frs) operand m'.operators +
        pending frs (fr.holdsOperand && (fr.isLogical || operand)) m.operators =
      Place.increment identity ⟨above', plug (fr :: frs) m'⟩ +
          pending (fr :: frs) operand m.operators +
        pending frs (fr.holdsOperand && (fr.isLogical || operand)) m'.operators := by
  rw [pending_cons, pending_cons]
  split
  · -- the node is the top of the expression that goes on in the place
    rename_i htop
    rw [Bool.and_eq_true, Bool.and_eq_true, Bool.not_eq_true', List.all_cons,
      Bool.and_eq_true] at htop
    obtain ⟨⟨hlogical, rfl⟩, hholds, hall⟩ := htop
    have ho' : isOperand above' (plug (fr :: frs) m') = false :=
      (congrArg Standing.operand h).symm.trans ho
    have hself : Place.increment identity ⟨above, plug (fr :: frs) m⟩ =
        (runs (fr.join (plug frs m).operators)).length :=
      Frame.increment_top identity hlogical ho
    have hself' : Place.increment identity ⟨above', plug (fr :: frs) m'⟩ =
        (runs (fr.join (plug frs m').operators)).length :=
      Frame.increment_top identity hlogical ho'
    have hinside : ∀ operators : List String,
        pending frs (fr.holdsOperand && (fr.isLogical || false)) operators = 0 := by
      intro operators
      rw [hholds, hlogical, pending, hall]
      rfl
    rw [hself, hself', operators_plug, operators_plug, hinside, hinside, joins, joins]
    omega
  · -- otherwise the node adds the same
    rename_i htop
    have hsame : Place.increment identity ⟨above, plug (fr :: frs) m⟩ =
        Place.increment identity ⟨above', plug (fr :: frs) m'⟩ := by
      refine Frame.increment_congr identity (conditional_plug hkind frs) h fun hlogical hnot => ?_
      have hall : (fr :: frs).all Frame.holdsOperand = false := by
        rw [show operand = false from ho.symm.trans hnot, hlogical] at htop
        simpa using htop
      rw [operators_plug, operators_plug]
      exact joins_congr hall m.operators m'.operators
    rw [hsame]
    omega

/-- **A place passes on a change.** If a tree adds more than another one wherever they
stand alike, up to what the expression of the place counts in each, then so do the
trees around them. -/
theorem gain_plug (identity : Option String) {m m' : Node}
    (hkind : (m.kind == .conditional) = (m'.kind == .conditional)) (more : Nat → Nat)
    (hole : ∀ above above', standing above m = standing above' m' →
      m.gain identity above + pending [] (isOperand above m) m'.operators =
        m'.gain identity above' + pending [] (isOperand above m) m.operators +
          more (depth above m)) :
    ∀ (frs : List Frame) {above above' : List Node}, (plug frs m).Shaped → (plug frs m').Shaped →
      standing above (plug frs m) = standing above' (plug frs m') →
      (plug frs m).gain identity above + pending frs (isOperand above (plug frs m)) m'.operators =
        (plug frs m').gain identity above' +
            pending frs (isOperand above (plug frs m)) m.operators +
          more (depth (ancestors frs m above) m)
  | [], above, above', _, _, h => hole above above' h
  | fr :: frs, above, above', hs, hs', h => by
    have hinside := gain_plug identity hkind more hole frs (Frame.shaped_hole hs)
      (Frame.shaped_hole hs') (standing_plug_cons hkind hs hs' h)
    have hstands := Frame.standing_hole above (Frame.apart_of_shaped hs)
    have hoperand : isOperand (plug (fr :: frs) m :: above) (plug frs m) =
        (fr.holdsOperand && (fr.isLogical || isOperand above (plug (fr :: frs) m))) :=
      congrArg Standing.operand hstands
    rw [hoperand] at hinside
    have hself := increment_plug_cons identity hkind h rfl
    obtain ⟨rest, hgain, hgain'⟩ := Frame.exists_gain_fill identity (Frame.apart_of_shaped hs)
      (Frame.apart_of_shaped hs') h
    rw [← plug] at hgain hgain'
    rw [ancestors, hgain, hgain']
    omega

/-- What stands in a place of a tree has its shape. -/
theorem shaped_of_plug {m : Node} : ∀ {frs : List Frame}, (plug frs m).Shaped → m.Shaped
  | [], h => h
  | _ :: _, h => shaped_of_plug (Frame.shaped_hole h)

/-! ### Standing in a place -/

/-- Frames that go on in the place go on there with the expression that they are in. -/
theorem isOperand_ancestors {m : Node} :
    ∀ (frs : List Frame) {above : List Node}, (plug frs m).Shaped →
      frs.all Frame.holdsOperand = true → isOperand above (plug frs m) = true →
      isOperand (ancestors frs m above) m = true
  | [], _, _, _, ho => ho
  | fr :: frs, above, hs, hall, ho => by
    rw [List.all_cons, Bool.and_eq_true] at hall
    refine isOperand_ancestors frs (Frame.shaped_hole hs) hall.2 ?_
    have hstands := Frame.standing_hole above (Frame.apart_of_shaped hs)
    refine (congrArg Standing.operand hstands).trans ?_
    rw [Frame.operand_edge, hall.1, Bool.true_and, Bool.or_eq_true]
    exact Or.inr ho

/-- If what fills the place goes on with no expression, then none reaches into it. -/
theorem surround_eq {m : Node} :
    ∀ (frs : List Frame) {above : List Node}, (plug frs m).Shaped →
      isOperand (ancestors frs m above) m = false →
      ∀ operators : List String, surround frs operators = operators
  | [], _, _, _, _ => rfl
  | fr :: frs, above, hs, ho, operators => by
    rw [surround, if_neg, surround_eq frs (Frame.shaped_hole hs) ho]
    intro htop
    rw [Bool.and_eq_true, List.all_cons, Bool.and_eq_true] at htop
    obtain ⟨hlogical, hholds, hall⟩ := htop
    have hstands := Frame.standing_hole above (Frame.apart_of_shaped hs)
    have hoperand : isOperand (plug (fr :: frs) m :: above) (plug frs m) = true := by
      refine (congrArg Standing.operand hstands).trans ?_
      rw [Frame.operand_edge, hholds, hlogical]
      rfl
    have htrue := isOperand_ancestors frs (Frame.shaped_hole hs) hall hoperand
    rw [ancestors, htrue] at ho
    exact absurd ho (by decide)

/-! ### Decisions -/

theorem Node.decisionsAll_append (xs ys : List Node) :
    decisionsAll (xs ++ ys) = decisionsAll xs + decisionsAll ys := by
  induction xs with
  | nil => rw [List.nil_append, decisionsAll, Nat.zero_add]
  | cons x xs ih => rw [List.cons_append, decisionsAll, decisionsAll, ih, Nat.add_assoc]

/-- What fills a place adds its decisions to those around it. -/
theorem decisions_plug (m m' : Node) : ∀ frs : List Frame,
    (plug frs m).decisions + m'.decisions = (plug frs m').decisions + m.decisions
  | [] => Nat.add_comm _ _
  | fr :: frs => by
    have hfill : ∀ n : Node, (fr.fill n).decisions = (fr.fill n).decisionPoints +
        (Node.decisionsAll (fr.before ++ fr.after) + n.decisions) := by
      intro n
      rw [Frame.fill, Node.decisions, Node.decisionsAll_append, Node.decisionsAll_append,
        Node.decisionsAll]
      omega
    have hself : (fr.fill (plug frs m)).decisionPoints = (fr.fill (plug frs m')).decisionPoints :=
      rfl
    have ih := decisions_plug m m' frs
    rw [plug, plug, hfill, hfill, hself]
    omega

/-! ### Places of a tree -/

/-- **Every node of a tree is in a place.** -/
theorem exists_frames {root m : Node} (h : root.Shaped) (hm : m ∈ root.walk) :
    ∃ frs : List Frame, plug frs m = root := by
  induction root using Node.induction with
  | node n ih _ _ =>
    rw [Node.walk_eq, List.mem_cons, List.mem_flatMap] at hm
    rcases hm with rfl | ⟨c, hc, hm⟩
    · exact ⟨[], rfl⟩
    · obtain ⟨frs, hfrs⟩ := ih c hc (h.child hc) hm
      obtain ⟨fr, hfr⟩ := exists_frame h hc
      exact ⟨fr :: frs, by rw [plug, hfrs, hfr]⟩

/-! ### Other trees in a place -/

/-- A node without children. -/
def Node.leaf (i : Nat) : Node := .node { index := i } [] [] none

theorem Node.shaped_leaf (i : Nat) : (leaf i).Shaped where
  distinct := by simp [leaf, walk, walkAll]
  fits := by
    intro n hn
    obtain rfl : n = leaf i := by simpa [leaf, walk, walkAll] using hn
    exact .of_bare rfl rfl

/-- A place can be left with a node without children in it. -/
theorem shaped_plug_leaf {m : Node} : ∀ {frs : List Frame}, (plug frs m).Shaped →
    (plug frs (.leaf m.index)).Shaped := by
  suffices h : ∀ frs : List Frame, (plug frs m).Shaped → (plug frs (.leaf m.index)).Shaped ∧
      (plug frs (.leaf m.index)).index = (plug frs m).index ∧
      ((plug frs (.leaf m.index)).walk.map Node.index).Sublist
        ((plug frs m).walk.map Node.index) from fun {frs} hs => (h frs hs).1
  intro frs hs
  induction frs with
  | nil =>
    refine ⟨Node.shaped_leaf _, rfl, ?_⟩
    rw [plug, plug, m.walk_eq, List.map_cons]
    exact (List.nil_sublist _).cons_cons _
  | cons fr frs ih =>
    obtain ⟨hshaped, hindex, hwalk⟩ := ih (Frame.shaped_hole hs)
    obtain ⟨hshaped, hwalk⟩ := Frame.shaped_fill hs hshaped hindex hwalk
    exact ⟨hshaped, rfl, hwalk⟩

theorem relabel_plug (h : Facts → Facts) (frs : List Frame) (n : Node) :
    (plug frs n).relabel h = plug (frs.map (Frame.relabel h)) (n.relabel h) := by
  induction frs with
  | nil => rfl
  | cons fr frs ih => rw [plug, Frame.relabel_fill, ih, List.map_cons, plug]

end GoComplexity
