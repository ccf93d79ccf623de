/-
# The nodes of a conversion

A conversion numbers its nodes in a row from the index at which it starts, each
node before those below it, and hands on the index after the last.  The body
and the alternative that it picks stand among the children, so the tree that it
makes has the shape on which the traversal rests.

Key definitions: `Tree.kept`, `Numbered`, `Node.Operates`, `IsConverted`.
Key theorems: `numbered_convert`, `IsConverted.shaped`, `IsConverted.operates`.
-/
import GoComplexity.Outline.Convert
import GoComplexity.Proofs.Shape

namespace GoComplexity

namespace Tree

/-- The children that are carried over, in source order. -/
def kept (t : Tree) : List Tree := t.children.filter isKept

theorem isKept_of_mem_kept {t c : Tree} (h : c ∈ t.kept) : c.isKept = true :=
  (List.mem_filter.mp h).2

/-- What holds of a tree follows from what holds of the children carried over. -/
@[elab_as_elim]
theorem keptInduction {P : Tree → Prop} (node : ∀ t : Tree, (∀ c ∈ t.kept, P c) → P t) :
    ∀ t, P t
  | .node tag cs => node _ fun c hc => by
    have := List.sizeOf_lt_of_mem (List.mem_filter.mp hc).1
    exact keptInduction node c
termination_by t => sizeOf t
decreasing_by
  simp only [children] at this
  simp only [Tree.node.sizeOf_spec]
  omega

end Tree

/-! ### Equations -/

variable (path : String) (parent : Form)

theorem convertAll_kept : ∀ (cs : List Tree) (s : Conversion),
    convertAll path parent (cs.filter Tree.isKept) s = convertAll path parent cs s
  | [], _ => rfl
  | c :: cs, s => by
    by_cases hc : c.isKept = true
    · rw [List.filter_cons_of_pos hc, convertAll, convertAll, if_pos hc, if_pos hc]
      simp only [convertAll_kept cs]
    · rw [List.filter_cons_of_neg hc, convertAll, if_neg hc, convertAll_kept cs]

/-- The conversion of a list whose first tree is carried over. -/
theorem convertAll_cons {c : Tree} (hc : c.isKept = true) (cs : List Tree) (s : Conversion) :
    convertAll path parent (c :: cs) s =
      ((convert path parent c s).1 :: (convertAll path parent cs (convert path parent c s).2).1,
        (convertAll path parent cs (convert path parent c s).2).2) := by
  rw [convertAll, if_pos hc]

/-- The state in which the children of a tree are converted. -/
def Conversion.inside (s : Conversion) (t : Tree) : Conversion := ⟨s.next + 1, enter t s.scopes⟩

/-- The nodes of the children of a tree, and the state after them. -/
def convertKept (t : Tree) (s : Conversion) : List Node × Conversion :=
  convertAll path t.form t.kept (s.inside t)

theorem convert_eq (t : Tree) (s : Conversion) :
    convert path parent t s =
      (.node (facts path parent s.next (callee? (enter t s.scopes) t) t) (convertKept path t s).1
          (slots t (convertKept path t s).1).1 (slots t (convertKept path t s).1).2,
        ⟨(convertKept path t s).2.next, leave t (convertKept path t s).2.scopes⟩) := by
  cases t with
  | node tag cs => rw [convert, convertKept, Tree.kept, convertAll_kept]; rfl

theorem facts_index (i : Nat) (callee : Option String) (t : Tree) :
    (facts path parent i callee t).index = i := by
  unfold facts
  cases t.form <;> try rfl
  cases logicalOperator? t <;> rfl

theorem facts_callee (i : Nat) (callee : Option String) (t : Tree) :
    (facts path parent i callee t).callee = callee := by
  unfold facts
  cases t.form <;> try rfl
  cases logicalOperator? t <;> rfl

theorem index_convert (t : Tree) (s : Conversion) : (convert path parent t s).1.index = s.next := by
  rw [convert_eq]
  exact facts_index path parent _ _ t

theorem children_convert (t : Tree) (s : Conversion) :
    (convert path parent t s).1.children = (convertKept path t s).1 := by
  rw [convert_eq]; rfl

/-! ### Numbering -/

/-- The nodes of a list of trees, each before those below it, are numbered in a
row from one index up to another. -/
def Numbered (a b : Nat) (ns : List Node) : Prop :=
  a ≤ b ∧ (ns.flatMap Node.walk).map Node.index = List.range' a (b - a)

namespace Numbered

variable {a b c : Nat} {xs ys : List Node}

theorem nil (a : Nat) : Numbered a a [] := ⟨Nat.le_refl a, by simp⟩

theorem append (hx : Numbered a b xs) (hy : Numbered b c ys) : Numbered a c (xs ++ ys) := by
  refine ⟨Nat.le_trans hx.1 hy.1, ?_⟩
  have hab := hx.1
  have hbc := hy.1
  rw [List.flatMap_append, List.map_append, hx.2, hy.2]
  have := List.range'_append_1 (s := a) (m := b - a) (n := c - b)
  rw [show a + (b - a) = b by omega, show b - a + (c - b) = c - a by omega] at this
  exact this

/-- A node comes before the trees of its children. -/
theorem node {n : Node} (hn : n.index = a) (h : Numbered (a + 1) b n.children) :
    Numbered a b [n] := by
  have hab := h.1
  refine ⟨by omega, ?_⟩
  rw [List.flatMap_singleton, Node.walk_eq, List.map_cons, h.2, hn,
    show b - a = b - (a + 1) + 1 by omega, List.range'_succ]

theorem nodup (h : Numbered a b xs) : ((xs.flatMap Node.walk).map Node.index).Nodup :=
  h.2 ▸ List.nodup_range'

end Numbered

theorem numbered_convertAll : ∀ (cs : List Tree),
    (∀ c ∈ cs, c.isKept = true ∧
      ∀ s, Numbered s.next (convert path parent c s).2.next [(convert path parent c s).1]) →
    ∀ s, Numbered s.next (convertAll path parent cs s).2.next (convertAll path parent cs s).1
  | [], _, s => Numbered.nil s.next
  | c :: cs, h, s => by
    obtain ⟨hc, hn⟩ := h c List.mem_cons_self
    rw [convertAll_cons path parent hc]
    exact (hn s).append (numbered_convertAll cs (fun d hd => h d (List.mem_cons_of_mem _ hd)) _)

/-- **A conversion numbers its nodes in a row.** -/
theorem numbered_convert (t : Tree) (s : Conversion) :
    Numbered s.next (convert path parent t s).2.next [(convert path parent t s).1] := by
  induction t using Tree.keptInduction generalizing parent s with
  | node t ih =>
    have hall := numbered_convertAll path t.form t.kept
      (fun c hc => ⟨Tree.isKept_of_mem_kept hc, ih c hc t.form⟩) (s.inside t)
    refine Numbered.node (index_convert path parent t s) ?_
    rw [children_convert, convert_eq]
    exact hall

/-! ### Where nodes come from -/

/-- A node that a conversion makes. -/
def IsConverted (path : String) (n : Node) : Prop :=
  ∃ parent t s, n = (convert path parent t s).1

theorem mem_convertAll {n : Node} : ∀ {cs : List Tree} {s : Conversion},
    n ∈ (convertAll path parent cs s).1 → ∃ c ∈ cs, ∃ s', n = (convert path parent c s').1
  | [], _, h => absurd h List.not_mem_nil
  | c :: cs, s, h => by
    by_cases hc : c.isKept = true
    · rw [convertAll_cons path parent hc] at h
      rcases List.mem_cons.mp h with rfl | h
      · exact ⟨c, List.mem_cons_self, s, rfl⟩
      · obtain ⟨d, hd, s', rfl⟩ := mem_convertAll h
        exact ⟨d, List.mem_cons_of_mem _ hd, s', rfl⟩
    · rw [convertAll, if_neg hc] at h
      obtain ⟨d, hd, s', rfl⟩ := mem_convertAll h
      exact ⟨d, List.mem_cons_of_mem _ hd, s', rfl⟩

/-- Every node of the tree that a conversion makes is made by one. -/
theorem isConverted_of_mem_walk (t : Tree) (s : Conversion) {n : Node}
    (h : n ∈ (convert path parent t s).1.walk) : IsConverted path n := by
  induction t using Tree.keptInduction generalizing parent s with
  | node t ih =>
    rw [Node.walk_eq, children_convert, List.mem_cons, List.mem_flatMap] at h
    rcases h with rfl | ⟨c, hc, hn⟩
    · exact ⟨parent, t, s, rfl⟩
    · obtain ⟨d, hd, s', rfl⟩ := mem_convertAll path t.form hc
      exact ih d hd t.form s' hn

/-! ### Body and alternative -/

theorem mem_of_slot {name : String} {n : Node} : ∀ {cs : List Tree} {ns : List Node},
    slot name cs ns = some n → n ∈ ns
  | [], _, h => by simp [slot] at h
  | c :: cs, [], h => by
    rw [slot] at h
    split at h
    · exact absurd h (by simp)
    · split at h
      · exact absurd h (by simp)
      · exact mem_of_slot h
  | c :: cs, m :: ns, h => by
    rw [slot] at h
    split at h
    · split at h
      · exact Option.some.inj h ▸ List.mem_cons_self
      · exact List.mem_cons_of_mem _ (mem_of_slot h)
    · split at h
      · exact absurd h (by simp)
      · exact mem_of_slot h

/-- No node stands in two fields. -/
theorem slot_ne {name other : String} (hne : name ≠ other) {n m : Node} :
    ∀ {cs : List Tree} {ns : List Node}, ns.Nodup → slot name cs ns = some n →
      slot other cs ns = some m → n ≠ m
  | [], _, _, h, _ => by simp [slot] at h
  | c :: cs, [], _, h, _ => absurd (mem_of_slot h) List.not_mem_nil
  | c :: cs, k :: ns, hd, h, h' => by
    have hk := (List.nodup_cons.mp hd).1
    have hns := (List.nodup_cons.mp hd).2
    rw [slot] at h h'
    by_cases hc : c.isKept = true
    · simp only [if_pos hc] at h h'
      by_cases hf : c.field = some name
      · have hf' : c.field ≠ some other := fun h => hne (Option.some.inj (hf.symm.trans h))
        rw [if_pos hf] at h
        rw [if_neg hf'] at h'
        exact fun he => hk (Option.some.inj h ▸ he ▸ mem_of_slot h')
      · rw [if_neg hf] at h
        by_cases hf' : c.field = some other
        · rw [if_pos hf'] at h'
          exact fun he => hk (Option.some.inj h' ▸ he ▸ mem_of_slot h)
        · rw [if_neg hf'] at h'
          exact slot_ne hne hns h h'
    · simp only [if_neg hc] at h h'
      split at h
      · exact absurd h (by simp)
      · split at h'
        · exact absurd h' (by simp)
        · exact slot_ne hne hd h h'

theorem map_snd_zip_sublist {α β : Type} : ∀ (xs : List α) (ys : List β),
    ((xs.zip ys).map Prod.snd).Sublist ys
  | [], ys => by simp
  | _ :: _, [] => by simp
  | _ :: xs, y :: ys => (map_snd_zip_sublist xs ys).cons_cons y

theorem clauses_sublist (cs : List Tree) (ns : List Node) : (clauses cs ns).Sublist ns :=
  (List.filter_sublist.map Prod.snd).trans (map_snd_zip_sublist _ ns)

/-- The body and the alternative that are picked for a node fit among distinct
children. -/
theorem fits_slots (i : Nat) (callee : Option String) (t : Tree) {ns : List Node} (h : ns.Nodup) :
    (Node.node (facts path parent i callee t) ns (slots t ns).1 (slots t ns).2).Fits := by
  have hone : ∀ (name : String) (b : Node), b ∈ (slot name t.children ns).toList → b ∈ ns :=
    fun name b hb => mem_of_slot (Option.mem_toList.mp hb)
  have hnodup : ∀ o : Option Node, o.toList.Nodup := fun o => by cases o <;> simp
  have hnone : (slots t ns).2 = none →
      (∀ b ∈ (slots t ns).1, b ∈ ns) → (slots t ns).1.Nodup →
      (Node.node (facts path parent i callee t) ns (slots t ns).1 (slots t ns).2).Fits := by
    intro ha hb hd
    refine ⟨hb, hd, ?_, ?_, ?_⟩ <;> simp [Node.alternative, ha]
  cases hf : t.form
  case ifStatement =>
    have hs : slots t ns = ((slot "consequence" t.children ns).toList,
        slot "alternative" t.children ns) := by rw [slots, hf]
    rw [hs]
    refine ⟨hone _, hnodup _, fun a ha => mem_of_slot ha, fun a ha hb => ?_, fun _ => ?_⟩
    · exact slot_ne (by decide) h (Option.mem_toList.mp hb) ha rfl
    · show (facts path parent i callee t).kind = .conditional
      rw [facts, hf]
  case forStatement | funcLiteral =>
    have hs : slots t ns = ((slot "body" t.children ns).toList, none) := by rw [slots, hf]
    rw [hs] at hnone ⊢
    exact hnone rfl (hone _) (hnodup _)
  case expressionSwitch | selectStatement =>
    have hs : slots t ns = (clauses t.children ns, none) := by rw [slots, hf]
    have hsub := clauses_sublist t.children ns
    rw [hs] at hnone ⊢
    exact hnone rfl (fun b hb => hsub.subset hb) (h.sublist hsub)
  all_goals
    have hs : slots t ns = ([], none) := by rw [slots, hf]
    rw [hs] at hnone ⊢
    exact hnone rfl (fun b hb => absurd hb List.not_mem_nil) List.nodup_nil

/-! ### Operators -/

/-- A node has an operator if it is a logical expression, and only then; the
operator is one of the two. -/
structure Node.Operates (n : Node) : Prop where
  isSome_iff : n.operator.isSome ↔ n.kind = .logical
  mem : ∀ o ∈ n.operator, o = "&&" ∨ o = "||"

theorem logicalOperator?_mem {t : Tree} {o : String} (h : logicalOperator? t = some o) :
    o = "&&" ∨ o = "||" := by
  unfold logicalOperator? at h
  split at h
  · split at h
    · rename_i ho
      rw [Bool.or_eq_true, decide_eq_true_eq, decide_eq_true_eq] at ho
      exact Option.some.inj h ▸ ho
    · exact absurd h (by simp)
  · exact absurd h (by simp)

theorem facts_operates (i : Nat) (callee : Option String) (t : Tree) (ns b : List Node)
    (a : Option Node) : (Node.node (facts path parent i callee t) ns b a).Operates := by
  have hnone : (facts path parent i callee t).operator = none →
      (facts path parent i callee t).kind ≠ .logical →
      (Node.node (facts path parent i callee t) ns b a).Operates := by
    intro ho hk
    refine ⟨?_, ?_⟩
    · show (facts path parent i callee t).operator.isSome ↔ _
      rw [ho]
      exact iff_of_false Bool.false_ne_true hk
    · show ∀ o ∈ (facts path parent i callee t).operator, _
      rw [ho]
      exact fun o h => absurd h (Option.not_mem_none o)
  cases hf : t.form
  case binary =>
    cases ho : logicalOperator? t with
    | none => exact hnone (by rw [facts, hf]; simp [ho]) (by rw [facts, hf]; simp [ho])
    | some o =>
      refine ⟨iff_of_true ?_ ?_, ?_⟩
      · show (facts path parent i callee t).operator.isSome
        rw [facts, hf]; simp [ho]
      · show (facts path parent i callee t).kind = .logical
        rw [facts, hf]; simp [ho]
      · show ∀ o' ∈ (facts path parent i callee t).operator, _
        rw [facts, hf]
        simpa [ho] using logicalOperator?_mem ho
  case forStatement =>
    exact hnone (by rw [facts, hf]) (by rw [facts, hf]; dsimp only; split <;> decide)
  case defaultCase =>
    exact hnone (by rw [facts, hf]) (by rw [facts, hf]; dsimp only; split <;> decide)
  all_goals exact hnone (by rw [facts, hf]) (by rw [facts, hf]; exact NodeKind.noConfusion)

namespace IsConverted

variable {path : String} {n : Node}

theorem of_mem_walk (h : IsConverted path n) {m : Node} (hm : m ∈ n.walk) : IsConverted path m := by
  obtain ⟨parent, t, s, rfl⟩ := h
  exact isConverted_of_mem_walk path parent t s hm

theorem distinct (h : IsConverted path n) : (n.walk.map Node.index).Nodup := by
  obtain ⟨parent, t, s, rfl⟩ := h
  have := (numbered_convert path parent t s).nodup
  rwa [List.flatMap_singleton] at this

theorem fits (h : IsConverted path n) : n.Fits := by
  have hd := h.distinct
  obtain ⟨parent, t, s, rfl⟩ := h
  rw [Node.walk_eq, List.map_cons, List.nodup_cons, children_convert] at hd
  rw [convert_eq]
  refine fits_slots path parent _ _ t (List.Nodup.of_map Node.index ?_)
  exact hd.2.sublist ((Node.sublist_flatMap_walk _).map _)

/-- **A conversion makes trees of the right shape.** -/
theorem shaped (h : IsConverted path n) : n.Shaped where
  distinct := h.distinct
  fits := fun _ hm => (h.of_mem_walk hm).fits

theorem operates (h : IsConverted path n) : n.Operates := by
  obtain ⟨parent, t, s, rfl⟩ := h
  rw [convert_eq]
  exact facts_operates path parent _ _ t _ _ _

end IsConverted

end GoComplexity
