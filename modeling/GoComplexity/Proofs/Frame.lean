/-
# Frames

A frame is a node with one child missing.  Of a tree in the place of that child the
node sees the operators of its expression, if it goes on with it, and whether it is a
conditional; the other children see nothing of it.

Key definitions: `Frame`, `Frame.fill`, `Frame.holdsOperand`, `Frame.join`,
`Frame.edge`, `Frame.relabel`.
Key theorems: `Frame.operators_fill`, `Frame.standing_sibling`, `Frame.standing_hole`,
`Frame.increment_congr`, `exists_frame`, `Frame.shaped_fill`.
-/
import GoComplexity.Proofs.Placement
import GoComplexity.Proofs.Relabelling

namespace GoComplexity

/-- A node with one child missing; `none` stands for that child. -/
structure Frame where
  facts : Facts
  /-- The children before the missing one. -/
  before : List Node
  /-- The children after the missing one. -/
  after : List Node
  body : List (Option Node)
  alternative : Option (Option Node)
  body_mem : ∀ b, some b ∈ body → b ∈ before ++ after
  alternative_mem : ∀ a, alternative = some (some a) → a ∈ before ++ after

namespace Frame

variable (fr : Frame)

/-- The node with a tree in the place of the missing child. -/
def fill (n : Node) : Node :=
  .node fr.facts (fr.before ++ n :: fr.after) (fr.body.map fun o => o.getD n)
    (fr.alternative.map fun o => o.getD n)

/-- Whether the node is joined by one of the two logical operators. -/
def isLogical : Bool :=
  fr.facts.kind == .logical && (fr.facts.operator == some "&&" || fr.facts.operator == some "||")

/-- The nodes in which the reading of an expression goes on. -/
def operandSlots : List (Option Node) :=
  if fr.isLogical then [fr.before.head?, fr.after.getLast?]
  else if fr.facts.grouping then [fr.before.head?]
  else []

/-- Whether the reading of an expression goes on in the missing child. -/
def holdsOperand : Bool := fr.operandSlots.any Option.isNone

/-- The operators of the expression of the node, given those of the missing child. -/
def join (operators : List String) : List String :=
  let read (o : Option Node) := o.elim operators Node.operators
  if fr.isLogical then read fr.before.head? ++ fr.facts.operator.getD "" :: read fr.after.getLast?
  else if fr.facts.grouping then read fr.before.head?
  else []

@[simp] theorem facts_fill (n : Node) : (fr.fill n).facts = fr.facts := rfl

@[simp] theorem kind_fill (n : Node) : (fr.fill n).kind = fr.facts.kind := rfl

@[simp] theorem children_fill (n : Node) :
    (fr.fill n).children = fr.before ++ n :: fr.after := rfl

@[simp] theorem isLogical_fill (n : Node) : (fr.fill n).isLogical = fr.isLogical := rfl

theorem head?_children_fill (n : Node) :
    (fr.fill n).children.head? = some (fr.before.head?.getD n) := by
  rw [children_fill, List.head?_append]
  cases fr.before.head? <;> rfl

theorem getLast?_children_fill (n : Node) :
    (fr.fill n).children.getLast? = some (fr.after.getLast?.getD n) := by
  rw [children_fill, List.getLast?_append, List.getLast?_cons, Option.some_or]

theorem operands_fill (n : Node) :
    (fr.fill n).operands = fr.operandSlots.map fun o => o.getD n := by
  unfold Node.operands operandSlots
  rw [head?_children_fill, getLast?_children_fill, isLogical_fill, Node.grouping, facts_fill]
  cases fr.isLogical <;> cases fr.facts.grouping <;> rfl

theorem operators_fill (n : Node) : (fr.fill n).operators = fr.join n.operators := by
  have hread (o : Option Node) : (o.getD n).operators = o.elim n.operators Node.operators := by
    cases o <;> rfl
  have hne : (fr.fill n).children.isEmpty = false := by simp
  rw [Node.operators_eq]
  unfold Node.joined join
  rw [head?_children_fill, getLast?_children_fill, isLogical_fill, hne, Node.grouping,
    Node.operator, facts_fill]
  simp only [Option.toList_some, List.flatMap_singleton, hread]
  rfl

/-- Without the missing child the expression hangs on the rest of the node alone. -/
theorem join_congr (h : fr.holdsOperand = false) (operators operators' : List String) :
    fr.join operators = fr.join operators' := by
  unfold holdsOperand operandSlots at h
  unfold join
  cases hl : fr.isLogical <;> cases hg : fr.facts.grouping <;> rw [hl] at h <;>
    cases hb : fr.before.head? <;> cases ha : fr.after.getLast? <;> simp_all

/-! ### The edges to the children of a frame -/

/-- Whether a tree has another index than the children that are there. -/
def Apart (n : Node) : Prop := ∀ c ∈ fr.before ++ fr.after, c.index ≠ n.index

variable {fr}

theorem apart_of_shaped {n : Node} (h : (fr.fill n).Shaped) : fr.Apart n := by
  have hd := h.children_distinct
  rw [children_fill, List.map_append, List.map_cons, List.nodup_middle, List.nodup_cons,
    ← List.map_append] at hd
  exact fun c hc he => hd.1 (he ▸ List.mem_map_of_mem hc)

theorem shaped_hole {n : Node} (h : (fr.fill n).Shaped) : n.Shaped :=
  h.child (by simp)

theorem mem_of_mem_operandSlots {b : Node} (h : some b ∈ fr.operandSlots) :
    b ∈ fr.before ++ fr.after := by
  have hfirst : some b = fr.before.head? → b ∈ fr.before ++ fr.after := fun hb =>
    List.mem_append_left _ (List.mem_of_mem_head? hb.symm)
  have hlast : some b = fr.after.getLast? → b ∈ fr.before ++ fr.after := fun hb =>
    List.mem_append_right _ (List.mem_of_getLast? hb.symm)
  unfold operandSlots at h
  split at h
  · rw [List.mem_cons, List.mem_singleton] at h
    exact h.elim hfirst hlast
  · split at h
    · exact hfirst (List.mem_singleton.mp h)
    · exact absurd h List.not_mem_nil

/-- The standing of a child, given that of the node and the slots of the child. -/
def edge (fr : Frame) (s : Standing) (conditional : Bool) (stands : Option Node → Bool) :
    Standing :=
  ⟨s.depth + if fr.facts.kind.nests && fr.body.any stands ||
      fr.alternative.any stands && !conditional then 1 else 0,
    conditional && (fr.facts.kind == .conditional && fr.alternative.any stands),
    fr.operandSlots.any stands && (fr.isLogical || s.operand)⟩

theorem standing_edge {m c : Node} (above : List Node) {stands : Option Node → Bool}
    (h : ∀ o, (∀ b ∈ o, b ∈ fr.before ++ fr.after) →
      ((o.getD m).index == c.index) = stands o) :
    standing (fr.fill m :: above) c =
      fr.edge (standing above (fr.fill m)) (c.kind == .conditional) stands := by
  have hslots : ∀ slots : List (Option Node), (∀ b, some b ∈ slots → b ∈ fr.before ++ fr.after) →
      ((slots.map fun o => o.getD m).map Node.index).contains c.index = slots.any stands := by
    intro slots hmem
    induction slots with
    | nil => rfl
    | cons o slots ih =>
      have ho : (c.index == (o.getD m).index) = stands o :=
        BEq.comm.trans (h o fun b hb => hmem b (hb ▸ List.mem_cons_self))
      rw [List.map_cons, List.map_cons, List.contains_cons, List.any_cons, ho,
        ih fun b hb => hmem b (List.mem_cons_of_mem _ hb)]
  have halternative : (fr.fill m).isAlternative c = fr.alternative.any stands := by
    have hmem := fr.alternative_mem
    unfold Node.isAlternative
    show (fr.alternative.map fun o => o.getD m).any _ = _
    cases ha : fr.alternative with
    | none => rfl
    | some o => exact h o fun b hb => hmem b (ha.trans (congrArg some hb))
  rw [standing_cons, Node.deepens, halternative, operands_fill,
    hslots _ fun b => mem_of_mem_operandSlots]
  show Standing.mk (_ + if fr.facts.kind.nests &&
    ((fr.body.map fun o => o.getD m).map Node.index).contains c.index || _ then 1 else 0) _ _ = _
  rw [hslots _ fr.body_mem]
  rfl

/-- The other children stand as they do with another tree in the place. -/
theorem standing_sibling {m m' c : Node} {above above' : List Node} (hm : fr.Apart m)
    (hm' : fr.Apart m') (hc : c ∈ fr.before ++ fr.after)
    (h : standing above (fr.fill m) = standing above' (fr.fill m')) :
    standing (fr.fill m :: above) c = standing (fr.fill m' :: above') c := by
  have hstands : ∀ n : Node, fr.Apart n → ∀ o : Option Node,
      ((o.getD n).index == c.index) = o.any fun b => b.index == c.index := by
    intro n hn o
    cases o with
    | none => exact beq_eq_false_iff_ne.mpr (hn c hc).symm
    | some b => rfl
  rw [standing_edge above fun o _ => hstands m hm o,
    standing_edge above' fun o _ => hstands m' hm' o, h]

/-- What fills the place stands as the missing child does. -/
theorem standing_hole {m : Node} (above : List Node) (hm : fr.Apart m) :
    standing (fr.fill m :: above) m =
      fr.edge (standing above (fr.fill m)) (m.kind == .conditional) Option.isNone := by
  refine standing_edge above fun o ho => ?_
  cases o with
  | none => exact beq_self_eq_true m.index
  | some b => exact beq_eq_false_iff_ne.mpr (hm b (ho b rfl))

theorem operand_edge (s : Standing) (conditional : Bool) :
    (fr.edge s conditional Option.isNone).operand =
      (fr.holdsOperand && (fr.isLogical || s.operand)) :=
  rfl

/-! ### What the node of a frame adds -/

variable (identity : Option String)

/-- The node at the top of an expression adds its runs. -/
theorem increment_top {m : Node} {above : List Node} (hlogical : fr.isLogical = true)
    (ho : isOperand above (fr.fill m) = false) :
    Place.increment identity ⟨above, fr.fill m⟩ = (runs (fr.join m.operators)).length := by
  have hself : (fr.fill m).isLogical = true := hlogical
  rw [Place.increment_of_isLogical identity hself, ho, operators_fill]
  rfl

/-- Otherwise what fills the place matters to the node only as a conditional or not. -/
theorem increment_congr {m m' : Node} {above above' : List Node}
    (hkind : (m.kind == .conditional) = (m'.kind == .conditional))
    (h : standing above (fr.fill m) = standing above' (fr.fill m'))
    (hjoin : fr.isLogical = true → isOperand above (fr.fill m) = false →
      fr.join m.operators = fr.join m'.operators) :
    Place.increment identity ⟨above, fr.fill m⟩ =
      Place.increment identity ⟨above', fr.fill m'⟩ := by
  have hdepth : depth above (fr.fill m) = depth above' (fr.fill m') := congrArg Standing.depth h
  have helse : isElseIf above (fr.fill m) = isElseIf above' (fr.fill m') :=
    congrArg Standing.elseIf h
  have hoperand : isOperand above (fr.fill m) = isOperand above' (fr.fill m') :=
    congrArg Standing.operand h
  have halternative : ((fr.fill m).alternative.any fun a => a.kind != .conditional) =
      (fr.fill m').alternative.any fun a => a.kind != .conditional := by
    show ((fr.alternative.map _).any _) = ((fr.alternative.map _).any _)
    cases fr.alternative with
    | none => rfl
    | some o =>
      cases o with
      | none => exact congrArg (! ·) hkind
      | some b => rfl
  unfold Place.increment
  dsimp only
  rw [hdepth, helse, halternative, operators_fill, operators_fill, hoperand]
  simp only [kind_fill, isLogical_fill]
  cases fr.facts.kind
  case logical =>
    refine ite_congr rfl (fun hcounts => ?_) fun _ => rfl
    rw [Bool.and_eq_true, Bool.not_eq_true'] at hcounts
    rw [hjoin hcounts.1 (hoperand.trans hcounts.2)]
  all_goals rfl

/-- Around a place all adds the same, but for the node itself. -/
theorem exists_gain_fill {m m' : Node} {above above' : List Node} (hm : fr.Apart m)
    (hm' : fr.Apart m') (h : standing above (fr.fill m) = standing above' (fr.fill m')) :
    ∃ rest : Nat,
      (fr.fill m).gain identity above = Place.increment identity ⟨above, fr.fill m⟩ +
        (rest + m.gain identity (fr.fill m :: above)) ∧
      (fr.fill m').gain identity above' = Place.increment identity ⟨above', fr.fill m'⟩ +
        (rest + m'.gain identity (fr.fill m' :: above')) := by
  have hsum : ∀ (n : Node) (above : List Node),
      (fr.fill n).gain identity above = Place.increment identity ⟨above, fr.fill n⟩ +
        (((fr.before ++ fr.after).map (Node.gain identity (fr.fill n :: above))).sum +
          n.gain identity (fr.fill n :: above)) := by
    intro n above
    rw [Node.gain_eq, children_fill, List.map_append, List.map_cons, List.sum_append,
      List.sum_cons, List.map_append, List.sum_append]
    omega
  refine ⟨_, hsum m above, (hsum m' above').trans ?_⟩
  rw [List.map_congr_left fun c hc => Node.gain_congr identity (standing_sibling hm hm' hc h)]

end Frame

/-! ### Filling a place -/

/-- Every child of a node stands in a frame. -/
theorem exists_frame {n c : Node} (h : n.Shaped) (hc : c ∈ n.children) :
    ∃ fr : Frame, fr.fill c = n := by
  obtain ⟨before, after, hchildren⟩ := List.append_of_mem hc
  have hf := h.self_fits
  let slot (b : Node) : Option Node := if b.index == c.index then none else some b
  have hslot : ∀ b ∈ n.children, (slot b).getD c = b := by
    intro b hb
    by_cases hi : b.index = c.index
    · simp only [slot, hi, beq_self_eq_true, ↓reduceIte, Option.getD_none]
      exact (h.child_ext hb hc hi).symm
    · simp only [slot, beq_eq_false_iff_ne.mpr hi, Bool.false_eq_true, ↓reduceIte,
        Option.getD_some]
  have hother : ∀ b d, b ∈ n.children → some d = slot b → d ∈ before ++ after := by
    intro b d hb hd
    simp only [slot] at hd
    split at hd
    · exact absurd hd (by simp)
    · rename_i hi
      obtain rfl : d = b := Option.some.inj hd
      rw [hchildren, List.mem_append, List.mem_cons] at hb
      rcases hb with hb | rfl | hb
      · exact List.mem_append_left _ hb
      · exact absurd (beq_self_eq_true _) hi
      · exact List.mem_append_right _ hb
  refine ⟨⟨n.facts, before, after, n.body.map slot, n.alternative.map slot, ?_, ?_⟩, ?_⟩
  · intro b hb
    obtain ⟨d, hd, hs⟩ := List.mem_map.mp hb
    exact hother d b (hf.body_mem d hd) hs.symm
  · intro a ha
    obtain ⟨d, hd, hs⟩ := Option.map_eq_some_iff.mp ha
    exact hother d a (hf.alternative_mem d hd) hs.symm
  · cases n with
    | node f cs b a =>
      have hbody : (b.map slot).map (fun o => o.getD c) = b := by
        rw [List.map_map]
        exact (List.map_congr_left fun d hd => hslot d (hf.body_mem d hd)).trans (List.map_id b)
      have halternative : (a.map slot).map (fun o => o.getD c) = a := by
        cases a with
        | none => rfl
        | some d => exact congrArg some (hslot d (hf.alternative_mem d rfl))
      exact congr (congr (congrArg (Node.node f) hchildren.symm) hbody) halternative

/-- A tree fits in a place where one stood with its index and the indexes below it. -/
theorem Frame.shaped_fill {fr : Frame} {m m' : Node} (h : (fr.fill m).Shaped) (hm' : m'.Shaped)
    (hi : m'.index = m.index) (hw : (m'.walk.map Node.index).Sublist (m.walk.map Node.index)) :
    (fr.fill m').Shaped ∧
      ((fr.fill m').walk.map Node.index).Sublist ((fr.fill m).walk.map Node.index) := by
  have hwalk : ∀ n : Node, (fr.fill n).walk = fr.fill n ::
      (fr.before.flatMap Node.walk ++ (n.walk ++ fr.after.flatMap Node.walk)) := by
    intro n
    rw [Node.walk_eq, children_fill, List.flatMap_append, List.flatMap_cons]
  have hsub : ((fr.fill m').walk.map Node.index).Sublist ((fr.fill m).walk.map Node.index) := by
    rw [hwalk, hwalk, List.map_cons, List.map_cons, List.map_append, List.map_append,
      List.map_append, List.map_append]
    exact ((List.Sublist.refl _).append (hw.append (List.Sublist.refl _))).cons_cons _
  have hslot : ∀ o : Option Node, (∀ b ∈ o, b ∈ fr.before ++ fr.after) →
      o.getD m' ∈ (fr.fill m').children := by
    intro o ho
    rw [children_fill, List.mem_append, List.mem_cons]
    cases o with
    | none => exact Or.inr (Or.inl rfl)
    | some b =>
      rcases List.mem_append.mp (ho b rfl) with hb | hb
      · exact Or.inl hb
      · exact Or.inr (Or.inr hb)
  have hindex : ∀ o : Option Node, (o.getD m').index = (o.getD m).index := by
    intro o
    cases o with
    | none => exact hi
    | some b => rfl
  have hnested : (fr.fill m').nestedIndexes = (fr.fill m).nestedIndexes := by
    have hbody : (fr.fill m').body.map Node.index = (fr.fill m).body.map Node.index := by
      show (fr.body.map _).map _ = (fr.body.map _).map _
      rw [List.map_map, List.map_map]
      exact List.map_congr_left fun o _ => hindex o
    have halternative : (fr.fill m').alternative.map Node.index =
        (fr.fill m).alternative.map Node.index := by
      show (fr.alternative.map _).map _ = (fr.alternative.map _).map _
      cases fr.alternative with
      | none => rfl
      | some o => exact congrArg some (hindex o)
    rw [Node.nestedIndexes, Node.nestedIndexes, hbody, halternative]
  have hself : (fr.fill m').Fits := by
    refine .of_nestedIndexes ?_ ?_ (hnested ▸ h.nestedIndexes_nodup) ?_
    · intro b hb
      obtain ⟨o, ho, rfl⟩ := List.mem_map.mp hb
      exact hslot o fun b hb => fr.body_mem b (hb ▸ ho)
    · intro a ha
      obtain ⟨o, ho, rfl⟩ := Option.map_eq_some_iff.mp ha
      exact hslot o fun b hb => fr.alternative_mem b (ho.trans (congrArg some hb))
    · intro ha
      refine h.self_fits.alternative_kind ?_
      have ha : (fr.alternative.map _).isSome = true := ha
      show (fr.alternative.map _).isSome = true
      rwa [Option.isSome_map] at ha ⊢
  refine ⟨⟨h.distinct.sublist hsub, fun n hn => ?_⟩, hsub⟩
  have hother : ∀ k, k ∈ fr.before.flatMap Node.walk ++ (m.walk ++ fr.after.flatMap Node.walk) →
      k.Fits := fun k hk => h.fits k (hwalk m ▸ List.mem_cons_of_mem _ hk)
  rw [hwalk, List.mem_cons, List.mem_append, List.mem_append] at hn
  rcases hn with rfl | hn | hn | hn
  · exact hself
  · exact hother n (List.mem_append_left _ hn)
  · exact hm'.fits n hn
  · exact hother n (List.mem_append_right _ (List.mem_append_right _ hn))

/-! ### Relabelled frames -/

variable (h : Facts → Facts)

/-- The same frame with other facts at every node. -/
def Frame.relabel (fr : Frame) : Frame where
  facts := h fr.facts
  before := fr.before.map (Node.relabel h)
  after := fr.after.map (Node.relabel h)
  body := fr.body.map (Option.map (Node.relabel h))
  alternative := fr.alternative.map (Option.map (Node.relabel h))
  body_mem := by
    intro b hb
    obtain ⟨o, ho, hs⟩ := List.mem_map.mp hb
    obtain ⟨d, rfl, rfl⟩ := Option.map_eq_some_iff.mp hs
    rw [← List.map_append]
    exact List.mem_map_of_mem (fr.body_mem d ho)
  alternative_mem := by
    intro a ha
    obtain ⟨o, ho, hs⟩ := Option.map_eq_some_iff.mp ha
    obtain ⟨d, rfl, rfl⟩ := Option.map_eq_some_iff.mp hs
    rw [← List.map_append]
    exact List.mem_map_of_mem (fr.alternative_mem d ho)

theorem Frame.relabel_fill (fr : Frame) (n : Node) :
    (fr.fill n).relabel h = (fr.relabel h).fill (n.relabel h) := by
  have hslot : ∀ o : Option Node,
      (o.getD n).relabel h = (o.map (Node.relabel h)).getD (n.relabel h) := by
    intro o
    cases o <;> rfl
  rw [fill, Node.relabel_node, fill, List.map_append, List.map_cons, List.map_map, Option.map_map]
  show Node.node _ _ _ _ = Node.node _ _ ((fr.body.map _).map _) ((fr.alternative.map _).map _)
  rw [List.map_map, Option.map_map]
  exact congr (congrArg _ (List.map_congr_left fun o _ => hslot o))
    (Option.map_congr fun o _ => hslot o)

end GoComplexity
