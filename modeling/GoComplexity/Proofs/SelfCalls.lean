/-
# Calls of the function itself

The name by which a function calls itself matters to a traversal only at the calls of
that name: each of their visits counts one more.  Everything else is the same for every
name and for none.  After so many turns the same work remains, so that the same nodes are
visited on the same levels, and the same indexes are marked.  In the body of a measured
unit the visits are the nodes of the walk, so the unit scores one more for each of the
calls of its name in it; a method has no such name and scores nothing for calls.

Key definitions: `Node.calls`, `Work.advance`, `MeasuredUnit.selfCalls`.
Key theorems: `Visitor.turns_eq`, `Visitor.turns_some`, `Node.Shaped.countP_visits`,
`cognitive_eq_add_calls`.
-/
import GoComplexity.Proofs.Independence
import GoComplexity.Proofs.Numbering
import GoComplexity.Proofs.Recursion

namespace GoComplexity

/-- Whether a node is a call of the function of a name. -/
def Node.calls (name : String) (n : Node) : Bool := n.kind == .call && n.callee == some name

/-! ### The turns of a traversal -/

/-- The work that remains when the first piece is done. -/
def Work.advance : List Work → List Work
  | [] => []
  | w :: ws => w.leaves ++ ws

/-- The next visit after some turns is the next on the list. -/
theorem getElem?_visits (k : Nat) (ws : List Work) :
    (visits ws)[k]? = (Work.advance^[k] ws).head? := by
  induction k generalizing ws with
  | zero =>
    cases ws with
    | nil => rw [visits]; rfl
    | cons w ws => rw [visits_cons]; rfl
  | succ k ih =>
    cases ws with
    | nil =>
      rw [Function.iterate_succ_apply, Work.advance, ← ih, visits]
      rfl
    | cons w ws =>
      rw [visits_cons, List.getElem?_cons_succ, ih, Function.iterate_succ_apply]
      rfl

namespace Visitor

/-- **The turns of a traversal** take the visitor through the first visits, and what
remains to be done does not hang on the visitor. -/
theorem turns_eq (identity : Option String) (k : Nat) (v : Visitor) (ws : List Work) :
    (turn identity)^[k] (v, ws) =
      (((visits ws).take k).foldl (fun v w => (v.step identity w).1) v, Work.advance^[k] ws) := by
  induction k generalizing v ws with
  | zero => rfl
  | succ k ih =>
    rw [Function.iterate_succ_apply, Function.iterate_succ_apply]
    cases ws with
    | nil =>
      rw [turn, ih, Work.advance, visits, List.take_nil, List.take_nil]
    | cons w ws =>
      rw [turn, ih, visits_cons, List.take_succ_cons, List.foldl_cons, step_snd]
      rfl

variable (name : String)

/-- **A visit by a name** counts one more at a call of the name. -/
theorem step_some (v : Visitor) (w : Work) :
    (v.step (some name) w).1 = (v.step none w).1.add (if w.node.calls name then 1 else 0) := by
  unfold step Node.calls
  cases hk : w.node.kind <;> simp only
  case call =>
    by_cases hc : w.node.callee = some name
    · simp [hc]
    · simp [hc, add]
  case conditional | branch | select | loop | iteration | logical | jump | functionLiteral |
      branchCase | selectCase | other => rfl

/-- The visits by a name count one more for each call of the name. -/
theorem foldl_some (v : Visitor) (ws : List Work) :
    ws.foldl (fun v w => (v.step (some name) w).1) v =
      (ws.foldl (fun v w => (v.step none w).1) v).add
        (ws.countP fun w => w.node.calls name) := by
  have hmore := foldl_step_more none (step_some name) ws v
  rwa [Nat.one_mul] at hmore

/-- A traversal by a name counts one more for each visit of a call of the name, and marks
the same. -/
theorem visit_some (v : Visitor) (n : Node) :
    v.visit (some name) n =
      (v.visit none n).add ((visits [⟨n, 0, false⟩]).countP fun w => w.node.calls name) := by
  rw [visit, visit, run_eq_foldl_visits, run_eq_foldl_visits, foldl_some]

/-- **A traversal by a name** goes turn by turn with one by no name, and is ahead of it by
the calls of the name that have been visited. -/
theorem turns_some (k : Nat) (v : Visitor) (ws : List Work) :
    (turn (some name))^[k] (v, ws) =
      (((turn none)^[k] (v, ws)).1.add
          (((visits ws).take k).countP fun w => w.node.calls name),
        ((turn none)^[k] (v, ws)).2) := by
  rw [turns_eq, turns_eq, foldl_some]

end Visitor

/-! ### Bodies -/

/-- In a tree of the shape of bodies so many nodes are visited as stand on its walk. -/
theorem Node.Shaped.countP_visits {n : Node} (h : n.Shaped) (p : Node → Bool) :
    (visits [⟨n, 0, false⟩]).countP (fun w => p w.node) = n.walk.countP p := by
  rw [← (h.perm_visits 0 false).countP_eq p, List.countP_map]
  rfl

/-- The body of a unit is a tree of its declaration, or stands in one. -/
theorem Declaration.mem_walk_of_mem_units {package : String} {d : Declaration}
    {u : MeasuredUnit} (hu : u ∈ d.units package) (hfits : ∀ m ∈ d.trees, m.Fits) {n : Node}
    (hn : n ∈ u.body) : ∃ m ∈ d.trees, n ∈ m.walk := by
  have hbody : u.body = d.body → ∃ m ∈ d.trees, n ∈ m.walk := fun hb =>
    ⟨n, List.mem_append_left _ (Option.mem_toList.mpr (hb ▸ hn)), n.self_mem_walk⟩
  unfold units at hu
  cases hk : d.kind with
  | function =>
    rw [hk] at hu
    exact hbody (congrArg MeasuredUnit.body (List.mem_singleton.mp hu))
  | method =>
    rw [hk] at hu
    exact hbody (congrArg MeasuredUnit.body (List.mem_singleton.mp hu))
  | value =>
    rw [hk] at hu
    obtain ⟨spec, hspec, hu⟩ := List.mem_flatMap.mp hu
    unfold ValueSpec.units at hu
    split at hu
    · exact absurd hu List.not_mem_nil
    · obtain ⟨value, hvalue, rfl⟩ := List.mem_map.mp hu
      have hm : value ∈ d.trees := List.mem_append_right _
        (List.mem_flatMap.mpr ⟨spec, hspec, (List.mem_filter.mp hvalue).1⟩)
      have hchild : n ∈ value.children :=
        (hfits value hm).body_mem n (List.mem_of_mem_head? hn)
      exact ⟨value, hm, (Node.walk_sublist_of_child hchild).subset n.self_mem_walk⟩

/-- The body of a unit is a node of its file. -/
theorem Outline.mem_nodes_of_mem_units {path : String} {root : Tree} {u : MeasuredUnit}
    (hu : u ∈ (ofTree path root).units) {n : Node} (hn : n ∈ u.body) :
    n ∈ (ofTree path root).nodes := by
  obtain ⟨d, hd, hu⟩ := List.mem_flatMap.mp hu
  have hwalk : ∀ m ∈ d.trees, m.walk ⊆ (ofTree path root).nodes := fun m hm k hk =>
    List.mem_flatMap.mpr ⟨m, List.mem_flatMap.mpr ⟨d, hd, hm⟩, hk⟩
  have hfits : ∀ m ∈ d.trees, m.Fits := fun m hm =>
    (isConverted_of_mem_nodes path (hwalk m hm m.self_mem_walk)).fits
  obtain ⟨m, hm, hnm⟩ := Declaration.mem_walk_of_mem_units hu hfits hn
  exact hwalk m hm hnm

/-- The number of calls in a unit's body of the name by which it calls itself. -/
def MeasuredUnit.selfCalls (u : MeasuredUnit) : Nat :=
  match u.identity, u.body with
  | some name, some n => n.walk.countP (Node.calls name)
  | _, _ => 0

/-- **Calls of the function itself** count one each.  A traversal by a name visits what
one by no name visits, on the same levels, and marks the same, turn by turn; it counts one
more for each visit of a call of the name.  In the nodes of a file these visits are the
calls on the walk.  So a unit scores one more for each call of its name in its body, and a
method scores none for calls. -/
theorem cognitive_eq_add_calls (name : String) (n : Node) :
    (∀ (identity : Option String) (k : Nat),
      ((Visitor.turn identity)^[k] ({}, [⟨n, 0, false⟩])).2.head? =
          (visits [⟨n, 0, false⟩])[k]? ∧
        ((Visitor.turn identity)^[k] ({}, [⟨n, 0, false⟩])).1.scored =
          ((Visitor.turn none)^[k] ({}, [⟨n, 0, false⟩])).1.scored) ∧
    (∀ v : Visitor, v.visit (some name) n =
      (v.visit none n).add ((visits [⟨n, 0, false⟩]).countP fun w => w.node.calls name)) ∧
    cognitive (some name) (some n) = cognitive none (some n) +
      (visits [⟨n, 0, false⟩]).countP (fun w => w.node.calls name) ∧
    ∀ (path : String) (root : Tree),
      (∀ m ∈ (Outline.ofTree path root).nodes,
        (visits [⟨m, 0, false⟩]).countP (fun w => w.node.calls name) =
          m.walk.countP (Node.calls name)) ∧
      (∀ u ∈ (Outline.ofTree path root).units,
        u.measure.cognitive = cognitive none u.body + u.selfCalls) ∧
      ∀ d ∈ (Outline.ofTree path root).declarations, d.kind = .method →
        ∀ u ∈ d.units (Outline.ofTree path root).package,
          u.measure.cognitive = cognitive none u.body := by
  have hcounts : ∀ (name : String) (m : Node), cognitive (some name) (some m) =
      cognitive none (some m) +
        (visits [⟨m, 0, false⟩]).countP (fun w => w.node.calls name) :=
    fun name m => congrArg Visitor.total (Visitor.visit_some name {} m)
  have hwalk : ∀ (name : String) (path : String) (root : Tree),
      ∀ m ∈ (Outline.ofTree path root).nodes,
        (visits [⟨m, 0, false⟩]).countP (fun w => w.node.calls name) =
          m.walk.countP (Node.calls name) := fun name path root m hm =>
    (isConverted_of_mem_nodes path hm).shaped.countP_visits (Node.calls name)
  refine ⟨fun identity k => ?_, fun v => v.visit_some name n, hcounts name n, fun path root =>
    ⟨hwalk name path root, fun u hu => ?_, fun d hd hmethod u hu => ?_⟩⟩
  · constructor
    · rw [Visitor.turns_eq, getElem?_visits]
    · cases identity with
      | none => rfl
      | some name => rw [Visitor.turns_some]; rfl
  · have hunit : cognitive u.identity u.body = cognitive none u.body + u.selfCalls := by
      unfold MeasuredUnit.selfCalls
      cases hidentity : u.identity with
      | none => rfl
      | some name =>
        cases hbody : u.body with
        | none => rfl
        | some m => rw [hcounts, hwalk name path root m (Outline.mem_nodes_of_mem_units hu hbody)]
    exact congrArg Nat.cast hunit
  · have hidentity : u.identity = none := by
      unfold Declaration.units at hu
      rw [hmethod] at hu
      rw [List.mem_singleton.mp hu]
      rfl
    exact congrArg (fun identity => ((cognitive identity u.body : Nat) : Int)) hidentity

/-- The method `func (T) f() { f() }` on a row. -/
def methodCalling (f : String) (row : Nat) : Tree :=
  .node { kind := "method_declaration", start := ⟨row, 0⟩, stop := ⟨row, 20⟩ }
    [Tree.inField "parameter_list" "receiver"
        [.node { kind := "parameter_declaration" }
          [.node { kind := "type_identifier", field := some "type", text := some "T" } []]],
      .node { kind := "field_identifier", field := some "name", text := some f } [],
      Tree.inField "parameter_list" "parameters" [],
      Tree.inField "block" "body"
        [.node { kind := "expression_statement" } [Tree.callOf none f]]]

/-- A function and a method with the same body, a call of `f`. -/
def callers : Outline := Outline.ofTree "a.go" (fileOf [callingItself "f" 2, methodCalling "f" 3])

/-- The call counts in the function of its name, and it does not in the method. -/
theorem cognitive_add_calls_callers :
    (∃ u ∈ callers.units, ∃ m ∈ callers.nodes, u.body = some m ∧ u.measure.cognitive = 1 ∧
      (visits [⟨m, 0, false⟩]).countP (fun w => w.node.calls "f") = 1) ∧
    ∃ d ∈ callers.declarations, d.kind = .method ∧
      ∃ u ∈ d.units callers.package, u.selfCalls = 0 ∧ u.measure.cognitive = 0 := by
  have hunits : callers.units.map (fun u => (cognitive none u.body, u.selfCalls,
      u.body.map fun m => m.walk.countP (Node.calls "f"))) =
        [(0, 1, some 1), (0, 0, some 1)] := by decide +kernel
  have hmethods : callers.declarations.map (fun d => (d.kind,
      (d.units callers.package).map fun u => (cognitive none u.body, u.selfCalls))) =
        [(.function, [(0, 1)]), (.method, [(0, 0)])] := by decide +kernel
  constructor
  · obtain ⟨u, hu, hfacts⟩ := List.mem_map.mp (hunits ▸ List.mem_cons_self)
    simp only [Prod.mk.injEq] at hfacts
    obtain ⟨hnone, hself, hwalk⟩ := hfacts
    obtain ⟨m, hm, hcalls⟩ := Option.map_eq_some_iff.mp hwalk
    have hnode : m ∈ callers.nodes := Outline.mem_nodes_of_mem_units hu hm
    obtain ⟨hnodes, hunit, -⟩ := (cognitive_eq_add_calls "f" m).2.2.2 "a.go"
      (fileOf [callingItself "f" 2, methodCalling "f" 3])
    refine ⟨u, hu, m, hnode, hm, ?_, (hnodes m hnode).trans hcalls⟩
    rw [hunit u hu, hnone, hself]
    rfl
  · obtain ⟨d, hd, hfacts⟩ := List.mem_map.mp
      (hmethods ▸ List.mem_cons_of_mem _ (List.mem_singleton_self _))
    obtain ⟨hmethod, hmapped⟩ := Prod.mk.inj hfacts
    obtain ⟨u, hu, hscore⟩ := List.mem_map.mp (hmapped ▸ List.mem_singleton_self _)
    obtain ⟨hnone, hself⟩ := Prod.mk.inj hscore
    have hnocalls := ((cognitive_eq_add_calls "f" default).2.2.2 "a.go"
      (fileOf [callingItself "f" 2, methodCalling "f" 3])).2.2 d hd hmethod u hu
    exact ⟨d, hd, hmethod, u, hu, hself, hnocalls.trans (congrArg Nat.cast hnone)⟩

end GoComplexity
