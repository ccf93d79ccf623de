/-
# The first fault of a tree

The search for a fault enters suspect nodes only, and none at all if the root has no error.
Whatever the flags are, it comes to the first fault in source order to which a way leads
through suspect nodes.  If the flags tell where the faults lie, that is the first fault of
the whole tree, and a file is outlined only if its tree holds none.  A search that keeps the
nodes to look at on a stack comes to the same fault.

Key definitions: `Tree.ways`, `Tree.goal`, `Tree.leadsToFault`, `Tree.FlagsTell`,
`Tree.searchTurn`.
Key theorems: `map_goal_ways`, `faultIn?_eq_find?_ways`, `faultIn?_eq_find?_preorder`,
`turns_faultIn?`, `firstError?_eq_find?`.
-/
import GoComplexity.Outline.Build
import Mathlib.Data.List.Basic
import Mathlib.Logic.Function.Iterate

namespace GoComplexity

namespace Tree

/-! ### Ways -/

mutual

/-- The ways from a tree down to each of its nodes, in source order.  A way lists the nodes
that it comes to, without the tree that it starts from. -/
def ways : Tree → List (List Tree)
  | .node _ cs => [] :: waysAmong cs

/-- The ways into the trees of a list. -/
def waysAmong : List Tree → List (List Tree)
  | [] => []
  | c :: cs => (ways c).map (c :: ·) ++ waysAmong cs

end

/-- The node to which a way leads. -/
def goal (t : Tree) (way : List Tree) : Tree := way.getLast?.getD t

/-- Whether a way leads to a fault, through suspect nodes only. -/
def leadsToFault (t : Tree) (way : List Tree) : Bool := way.all isSuspect && (t.goal way).isFault

theorem goal_cons (t c : Tree) (way : List Tree) : t.goal (c :: way) = c.goal way := by
  rw [goal, List.getLast?_cons, Option.getD_some, goal]

theorem leadsToFault_cons (t c : Tree) (way : List Tree) :
    t.leadsToFault (c :: way) = (c.isSuspect && c.leadsToFault way) := by
  rw [leadsToFault, List.all_cons, goal_cons, Bool.and_assoc, leadsToFault]

mutual

/-- There is one way to each node. -/
theorem map_goal_ways : ∀ t : Tree, t.ways.map t.goal = t.preorder
  | .node tag cs => by
    rw [ways, preorder, List.map_cons, map_goal_waysAmong]
    rfl

theorem map_goal_waysAmong (t : Tree) : ∀ cs : List Tree,
    (waysAmong cs).map t.goal = preorderAll cs
  | [] => rfl
  | c :: cs => by
    have hgoal : t.goal ∘ (c :: ·) = c.goal := funext (goal_cons t c)
    rw [waysAmong, preorderAll, List.map_append, List.map_map, hgoal, map_goal_ways c,
      map_goal_waysAmong t cs]

end

mutual

/-- **The search finds the first fault that it can reach.** -/
theorem faultIn?_eq_find?_ways : ∀ t : Tree,
    t.faultIn? = (t.ways.find? t.leadsToFault).map t.goal
  | .node tag cs => by
    have hself : (Tree.node tag cs).leadsToFault [] = (Tree.node tag cs).isFault := rfl
    rw [faultIn?, ways, List.find?_cons, hself]
    cases (Tree.node tag cs).isFault with
    | true => rfl
    | false => exact faultAmong?_eq_find?_ways _ cs

theorem faultAmong?_eq_find?_ways (t : Tree) : ∀ cs : List Tree,
    faultAmong? cs = ((waysAmong cs).find? t.leadsToFault).map t.goal
  | [] => rfl
  | c :: cs => by
    have hways : t.leadsToFault ∘ (c :: ·) = fun way => c.isSuspect && c.leadsToFault way :=
      funext (leadsToFault_cons t c)
    have hgoal : t.goal ∘ (c :: ·) = c.goal := funext (goal_cons t c)
    rw [faultAmong?, waysAmong, List.find?_append, List.find?_map, hways, Option.map_or,
      Option.map_map, hgoal, ← faultAmong?_eq_find?_ways t cs]
    cases c.isSuspect with
    | true =>
      simp only [Bool.true_and, if_true, ← faultIn?_eq_find?_ways c]
      cases c.faultIn? <;> rfl
    | false =>
      have hnone : c.ways.find? (fun _ => false) = none :=
        List.find?_eq_none.mpr fun _ _ => Bool.false_ne_true
      simp only [Bool.false_and, hnone]
      rfl

end

/-! ### Flags that tell where the faults lie -/

/-- Whether a fault lies in a tree. -/
def HasFault (t : Tree) : Prop := ∃ n ∈ t.preorder, n.isFault = true

instance (t : Tree) : Decidable t.HasFault := inferInstanceAs (Decidable (∃ _ ∈ _, _))

/-- Whether the error flags tell where the faults lie: a node has one just if a fault lies
in it.  Only a missing node below the root, which is a fault itself, may lack it. -/
structure FlagsTell (t : Tree) : Prop where
  root : t.hasError = true ↔ t.HasFault
  below : ∀ c ∈ t.children, ∀ n ∈ c.preorder, n.isMissing = false →
    (n.hasError = true ↔ n.HasFault)

/-- Where the flags tell, a node that is not suspect holds no fault. -/
theorem find?_isFault_of_not_isSuspect {t : Tree}
    (h : t.isMissing = false → (t.hasError = true ↔ t.HasFault)) (ht : t.isSuspect = false) :
    t.preorder.find? isFault = none := by
  rw [isSuspect, Bool.or_eq_false_iff] at ht
  refine List.find?_eq_none.mpr fun n hn hfault => ?_
  exact Bool.false_ne_true (ht.1.symm.trans ((h ht.2).mpr ⟨n, hn, hfault⟩))

mutual

/-- **A search that enters suspect nodes only misses no fault** if the flags tell where the
faults below the node are. -/
theorem faultIn?_eq_find?_preorder : ∀ t : Tree,
    (∀ n ∈ preorderAll t.children, n.isMissing = false → (n.hasError = true ↔ n.HasFault)) →
    t.faultIn? = t.preorder.find? isFault
  | .node tag cs, h => by
    rw [faultIn?, preorder, List.find?_cons]
    cases (Tree.node tag cs).isFault with
    | true => rfl
    | false => exact faultAmong?_eq_find?_preorderAll cs h

theorem faultAmong?_eq_find?_preorderAll : ∀ cs : List Tree,
    (∀ n ∈ preorderAll cs, n.isMissing = false → (n.hasError = true ↔ n.HasFault)) →
    faultAmong? cs = (preorderAll cs).find? isFault
  | [], _ => rfl
  | c :: cs, h => by
    rw [preorderAll] at h
    have hc : ∀ n ∈ c.preorder, n.isMissing = false → (n.hasError = true ↔ n.HasFault) :=
      fun n hn => h n (List.mem_append_left _ hn)
    have hcs := faultAmong?_eq_find?_preorderAll cs fun n hn => h n (List.mem_append_right _ hn)
    rw [faultAmong?, preorderAll, List.find?_append, hcs]
    cases hsuspect : c.isSuspect with
    | true =>
      have hbelow : ∀ n ∈ preorderAll c.children, n ∈ c.preorder := by
        intro n hn
        rw [preorder_eq, ← preorderAll_eq]
        exact List.mem_cons_of_mem _ hn
      rw [if_pos rfl, faultIn?_eq_find?_preorder c fun n hn => hc n (hbelow n hn)]
      cases c.preorder.find? isFault <;> rfl
    | false =>
      have hself : c ∈ c.preorder := by
        rw [preorder_eq]
        exact List.mem_cons_self
      rw [if_neg Bool.false_ne_true,
        find?_isFault_of_not_isSuspect (hc c hself) hsuspect, Option.none_or]

end

/-- If the flags tell where the faults lie, the first fault is that of the whole tree. -/
theorem FlagsTell.firstError? {t : Tree} (h : t.FlagsTell) :
    t.firstError? = t.preorder.find? isFault := by
  rw [Tree.firstError?]
  split
  · refine faultIn?_eq_find?_preorder t fun n hn => ?_
    rw [preorderAll_eq] at hn
    obtain ⟨c, hc, hn⟩ := List.mem_flatMap.mp hn
    exact h.below c hc n hn
  · rename_i hclean
    exact (List.find?_eq_none.mpr fun n hn hfault => hclean (h.root.mpr ⟨n, hn, hfault⟩)).symm

/-! ### The turns of a search -/

/-- A search under way: the fault that it has found, and the nodes to look at, the next one
first. -/
abbrev Search := Option Tree × List Tree

/-- One turn of a search: a fault ends it, and of any other node the suspect children are to
be looked at before the rest. -/
def searchTurn : Search → Search
  | (none, t :: rest) =>
    if t.isFault then (some t, []) else (none, t.children.filter isSuspect ++ rest)
  | s => s

/-- A search that has found a fault, or has come to the rest without one. -/
def searched (found : Option Tree) (rest : List Tree) : Search :=
  match found with
  | some fault => (some fault, [])
  | none => (none, rest)

mutual

/-- The nodes of a tree are looked at before the rest of the stack. -/
theorem turns_faultIn? : ∀ (t : Tree) (rest : List Tree), ∃ k ≤ t.preorder.length,
    searchTurn^[k] (none, t :: rest) = searched t.faultIn? rest
  | .node tag cs, rest => by
    obtain ⟨k, hk, hturns⟩ := turns_faultAmong? cs rest
    rw [preorder, List.length_cons, faultIn?]
    by_cases hfault : (Tree.node tag cs).isFault = true
    · refine ⟨1, by omega, ?_⟩
      rw [Function.iterate_one, searchTurn, if_pos hfault, if_pos hfault, searched]
    · refine ⟨k + 1, by omega, ?_⟩
      rw [Function.iterate_succ_apply, searchTurn, if_neg hfault, if_neg hfault, children, hturns]

theorem turns_faultAmong? : ∀ (cs rest : List Tree), ∃ k ≤ (preorderAll cs).length,
    searchTurn^[k] (none, cs.filter isSuspect ++ rest) = searched (faultAmong? cs) rest
  | [], _ => ⟨0, Nat.zero_le _, rfl⟩
  | c :: cs, rest => by
    obtain ⟨k, hk, hturns⟩ := turns_faultAmong? cs rest
    rw [preorderAll, List.length_append, faultAmong?]
    by_cases hsuspect : c.isSuspect = true
    · obtain ⟨j, hj, hchild⟩ := turns_faultIn? c (cs.filter isSuspect ++ rest)
      rw [List.filter_cons_of_pos hsuspect, List.cons_append, if_pos hsuspect]
      refine ⟨k + j, by omega, ?_⟩
      rw [Function.iterate_add_apply, hchild]
      cases c.faultIn? with
      | some fault => exact Function.iterate_fixed rfl k
      | none => exact hturns
    · rw [List.filter_cons_of_neg hsuspect, if_neg hsuspect]
      exact ⟨k, by omega, hturns⟩

end

/-- A file is outlined only if no fault is found in its tree. -/
theorem ofTreeWithin?_eq_ok {limits : DepthLimits} {path : String} {t : Tree} {o : Outline}
    (h : Outline.ofTreeWithin? limits path t = .ok o) :
    t.firstError? = none ∧ o = Outline.ofTree path t := by
  unfold Outline.ofTreeWithin? at h
  cases hfirst : t.firstError? with
  | some fault =>
    rw [hfirst] at h
    cases h
  | none =>
    rw [hfirst] at h
    dsimp only at h
    split at h
    · cases h
    · exact ⟨rfl, (Except.ok.inj h).symm⟩

/-- **The first fault of a tree.** Without an error in the root there is none.  Otherwise it
is the first node in source order that is a fault and to which a way leads through suspect
nodes, and a search with a stack ends with it.  If the flags tell where the faults lie, it is
the first fault among all nodes, and a file is outlined only if its tree holds none. -/
theorem firstError?_eq_find? (t : Tree) :
    t.ways.map t.goal = t.preorder ∧
      t.firstError? =
        (if t.hasError then (t.ways.find? t.leadsToFault).map t.goal else none) ∧
      (t.hasError = true → ∃ k ≤ t.preorder.length,
        searchTurn^[k] (none, [t]) = (t.firstError?, [])) ∧
      (t.FlagsTell →
        t.firstError? = t.preorder.find? isFault ∧
        (t.firstError? = none ↔ ∀ n ∈ t.preorder, n.isFault = false) ∧
        ∀ limits path,
          (∀ fault, t.preorder.find? isFault = some fault →
            Outline.ofTreeWithin? limits path t = .error (syntaxFailure path fault)) ∧
          ∀ o, Outline.ofTreeWithin? limits path t = .ok o →
            o = Outline.ofTree path t ∧ ∀ n ∈ t.preorder, n.isFault = false) := by
  refine ⟨map_goal_ways t, ?_, fun herror => ?_, fun hflags => ?_⟩
  · rw [firstError?, faultIn?_eq_find?_ways]
  · obtain ⟨k, hk, hturns⟩ := turns_faultIn? t []
    refine ⟨k, hk, ?_⟩
    rw [hturns, firstError?, if_pos herror]
    cases t.faultIn? <;> rfl
  · have hfirst := hflags.firstError?
    have hnone : t.firstError? = none ↔ ∀ n ∈ t.preorder, n.isFault = false := by
      rw [hfirst, List.find?_eq_none]
      simp only [Bool.not_eq_true]
    refine ⟨hfirst, hnone, fun limits path => ⟨fun fault hfault => ?_, fun o ho => ?_⟩⟩
    · unfold Outline.ofTreeWithin?
      rw [hfirst, hfault]
    · obtain ⟨hclean, rfl⟩ := ofTreeWithin?_eq_ok ho
      exact ⟨rfl, hnone.mp hclean⟩

/-- A call that lacks its closing parenthesis: the missing one has no error flag. -/
def unclosedCall : Tree :=
  .node { kind := "source_file", hasError := true }
    [.node { kind := "comment" } [],
      .node { kind := "call_expression", hasError := true }
        [.node { kind := "identifier", text := some "f" } [],
          .node { kind := "(", isNamed := false } [],
          .node { kind := ")", isNamed := false, isMissing := true } []]]

/-- The missing parenthesis is the first fault, and the file is refused for it. -/
theorem ofTree?_unclosedCall :
    unclosedCall.FlagsTell ∧
      (∃ k, searchTurn^[k] (none, [unclosedCall]) = (unclosedCall.firstError?, [])) ∧
      unclosedCall.firstError?.map kind = some ")" ∧
      ∀ limits, Outline.ofTreeWithin? limits "a.go" unclosedCall =
        .error (.parsing "a.go" "missing )" (some (1, 1)) "go") := by
  have htell : unclosedCall.FlagsTell := ⟨by decide, by decide⟩
  obtain ⟨-, -, hsearch, hflags⟩ := firstError?_eq_find? unclosedCall
  obtain ⟨k, -, hturns⟩ := hsearch rfl
  obtain ⟨hfirst, -, hrefused⟩ := hflags htell
  refine ⟨htell, ⟨k, hturns⟩, ?_, fun limits => (hrefused limits "a.go").1 _ rfl⟩
  rw [hfirst]
  rfl

end Tree

end GoComplexity
