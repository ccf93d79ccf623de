/-
# Conversions from states that agree

The counter from which a conversion numbers its nodes, and the scopes that it
starts with, show in its nodes only in their indexes and in their callees.  So
two conversions of a tree, from counters some way apart and from scopes in which
the same of the names that one looks at are local, give trees of nodes that differ
by that way and in callees of other names; and they end in states that agree
again.  Neither difference changes the scores of a function that calls itself by
one of those names.

Key definitions: `Facts.restrict`, `Conversion.Agrees`.
Key theorems: `convert_agrees`, `keepsScores_restrict`, `cyclomatic_of_restrict`,
`cognitive_of_restrict`.
-/
import GoComplexity.Proofs.Scoping
import GoComplexity.Proofs.Variation

namespace GoComplexity

/-- Facts of a node that stands further on, without a callee that is not looked
at. -/
def Facts.restrict (P : String → Bool) (a : Nat) (f : Facts) : Facts :=
  { f with index := f.index + a, callee := f.callee.filter P }

/-- States that agree on the names that are looked at, and whose counters are
brought together by two numbers. -/
structure Conversion.Agrees (P : String → Bool) (a b : Nat) (s s' : Conversion) : Prop where
  next : s.next + a = s'.next + b
  left : s.scopes ≠ []
  right : s'.scopes ≠ []
  isLocal : ∀ x, P x = true → (s.scopes.isLocal x = true ↔ s'.scopes.isLocal x = true)

/-! ### Scopes -/

theorem isLocal_enter {scopes : Scopes} (hs : scopes ≠ []) (t : Tree) :
    enter t scopes ≠ [] ∧ ∀ x, (enter t scopes).isLocal x = true ↔
      scopes.isLocal x = true ∨ x ∈ (openingNames t).filter isBindable := by
  have hbefore := isLocal_before "" (s := ⟨0, scopes⟩) hs t 0
  simpa [Conversion.before, convertAll, Conversion.inside, Tree.exportedAll] using hbefore

theorem isLocal_convert (path : String) (parent : Form) (t : Tree) {s : Conversion}
    (hs : s.scopes ≠ []) :
    (convert path parent t s).2.scopes ≠ [] ∧ ∀ x,
      (convert path parent t s).2.scopes.isLocal x = true ↔
        x ∈ t.exported ∨ s.scopes.isLocal x = true := by
  obtain ⟨top, rest, hs⟩ := List.exists_cons_of_ne_nil hs
  rw [scopes_convert path parent t s top rest hs, hs]
  refine ⟨List.cons_ne_nil _ _, fun x => ?_⟩
  rw [isLocal_cons, isLocal_cons, List.mem_append, or_assoc]

namespace Conversion.Agrees

variable {P : String → Bool} {a b : Nat} {s s' : Conversion}

/-- Inside a node the states agree. -/
theorem inside (h : s.Agrees P a b s') (t : Tree) : (s.inside t).Agrees P a b (s'.inside t) := by
  obtain ⟨hl, hl'⟩ := isLocal_enter h.left t
  obtain ⟨hr, hr'⟩ := isLocal_enter h.right t
  refine ⟨?_, hl, hr, fun x hx => ?_⟩
  · show s.next + 1 + a = s'.next + 1 + b
    have := h.next
    omega
  · show (enter t s.scopes).isLocal x = true ↔ (enter t s'.scopes).isLocal x = true
    rw [hl', hr', h.isLocal x hx]

/-- After a node the states agree, if their counters do. -/
theorem after (h : s.Agrees P a b s') (path : String) (parent : Form) (t : Tree)
    (hnext : (convert path parent t s).2.next + a = (convert path parent t s').2.next + b) :
    (convert path parent t s).2.Agrees P a b (convert path parent t s').2 := by
  obtain ⟨hl, hl'⟩ := isLocal_convert path parent t h.left
  obtain ⟨hr, hr'⟩ := isLocal_convert path parent t h.right
  refine ⟨hnext, hl, hr, fun x hx => ?_⟩
  rw [hl', hr', h.isLocal x hx]

/-- A call has the same of the callees that are looked at. -/
theorem callee?_eq (h : s.Agrees P a b s') (t : Tree) :
    (callee? s.scopes t).filter P = (callee? s'.scopes t).filter P := by
  refine Option.ext fun x => ?_
  rw [Option.filter_eq_some_iff, Option.filter_eq_some_iff, callee?_eq_some_iff,
    callee?_eq_some_iff]
  refine and_congr_left fun hx => ?_
  have hlocal : s.scopes.isLocal x = s'.scopes.isLocal x :=
    Bool.eq_iff_iff.mpr (h.isLocal x hx)
  rw [hlocal]

end Conversion.Agrees

/-! ### Nodes -/

/-- The index and the callee of a node are those it is given. -/
theorem facts_eq (path : String) (parent : Form) (i : Nat) (callee : Option String) (t : Tree) :
    facts path parent i callee t =
      { facts path parent 0 none t with index := i, callee := callee } := by
  unfold facts
  cases t.form <;> try rfl
  cases logicalOperator? t <;> rfl

section

variable (path : String) {P : String → Bool} {a b : Nat}

theorem restrict_facts (parent : Form) (t : Tree) {i j : Nat} {c d : Option String}
    (hindex : i + a = j + b) (hcallee : c.filter P = d.filter P) :
    (facts path parent i c t).restrict P a = (facts path parent j d t).restrict P b := by
  rw [facts_eq path parent i c, facts_eq path parent j d, Facts.restrict, Facts.restrict]
  simp only [hindex, hcallee]

theorem convertAll_agrees (parent : Form) : ∀ (cs : List Tree),
    (∀ c ∈ cs, c.isKept = true ∧ ∀ s s', s.Agrees P a b s' →
      (convert path parent c s).1.relabel (Facts.restrict P a) =
          (convert path parent c s').1.relabel (Facts.restrict P b) ∧
        (convert path parent c s).2.Agrees P a b (convert path parent c s').2) →
    ∀ s s', s.Agrees P a b s' →
      (convertAll path parent cs s).1.map (Node.relabel (Facts.restrict P a)) =
          (convertAll path parent cs s').1.map (Node.relabel (Facts.restrict P b)) ∧
        (convertAll path parent cs s).2.Agrees P a b (convertAll path parent cs s').2
  | [], _, _, _, hs => ⟨rfl, hs⟩
  | c :: cs, h, s, s', hs => by
    obtain ⟨hc, hconvert⟩ := h c List.mem_cons_self
    obtain ⟨hnode, hstate⟩ := hconvert s s' hs
    obtain ⟨hnodes, hstate'⟩ := convertAll_agrees parent cs
      (fun d hd => h d (List.mem_cons_of_mem _ hd)) _ _ hstate
    rw [convertAll_cons path parent hc, convertAll_cons path parent hc]
    refine ⟨?_, hstate'⟩
    rw [List.map_cons, List.map_cons, hnode, hnodes]

/-- **Conversions from states that agree** give the same nodes, but for the distance
of their counters and for callees that are not looked at, and end in states that
agree. -/
theorem convert_agrees (parent : Form) (t : Tree) {s s' : Conversion} (h : s.Agrees P a b s') :
    (convert path parent t s).1.relabel (Facts.restrict P a) =
        (convert path parent t s').1.relabel (Facts.restrict P b) ∧
      (convert path parent t s).2.Agrees P a b (convert path parent t s').2 := by
  induction t using Tree.keptInduction generalizing parent s s' with
  | node t ih =>
    obtain ⟨hnodes, hstate⟩ := convertAll_agrees path t.form t.kept
      (fun c hc => ⟨Tree.isKept_of_mem_kept hc, fun _ _ hs => ih c hc t.form hs⟩)
      (s.inside t) (s'.inside t) (h.inside t)
    constructor
    · have hfacts := restrict_facts path parent t h.next ((h.inside t).callee?_eq t)
      obtain ⟨hbody, halternative⟩ := slots_varies (Tree.Varies.refl id t) hnodes
      rw [convert_eq, convert_eq, Node.relabel_node, Node.relabel_node]
      unfold convertKept
      rw [hnodes, hbody, halternative]
      exact congrArg (Node.node · _ _ _) hfacts
    · refine h.after path parent t ?_
      rw [convert_eq, convert_eq]
      exact hstate.next

end

/-! ### Scores -/

section

variable {P : String → Bool} {identity : Option String}

/-- Neither the distance of the counters nor the callees that are not looked at
change a score. -/
theorem keepsScores_restrict (hP : ∀ x ∈ identity, P x = true) (a : Nat) :
    KeepsScores (Facts.restrict P a) (· + a) identity identity where
  injective _ _ h := Nat.add_right_cancel h
  index _ := rfl
  kind _ := rfl
  operator _ := rfl
  isDefault _ := rfl
  grouping _ := rfl
  label _ := Iff.rfl
  callee f := by
    show (identity.isSome && f.callee.filter P == identity) = _
    cases identity with
    | none => rfl
    | some x =>
      have hx : P x = true := hP x rfl
      have hcallee : f.callee.filter P = some x ↔ f.callee = some x := by
        rw [Option.filter_eq_some_iff]
        exact and_iff_left hx
      rw [Bool.eq_iff_iff, Bool.and_eq_true, Bool.and_eq_true, beq_iff_eq, beq_iff_eq, hcallee]

variable {n m : Option Node} {a b : Nat}
  (h : n.map (Node.relabel (Facts.restrict P a)) = m.map (Node.relabel (Facts.restrict P b)))

include h

theorem cyclomatic_of_restrict : cyclomatic n = cyclomatic m := by
  have hnone : ∀ x ∈ (none : Option String), P x = true := fun _ hx => absurd hx (by simp)
  rw [← cyclomatic_relabel (keepsScores_restrict hnone a), h,
    cyclomatic_relabel (keepsScores_restrict hnone b)]

theorem cognitive_of_restrict (hP : ∀ x ∈ identity, P x = true) :
    cognitive identity n = cognitive identity m := by
  rw [← cognitive_relabel (keepsScores_restrict hP a), h,
    cognitive_relabel (keepsScores_restrict hP b)]

end

end GoComplexity
