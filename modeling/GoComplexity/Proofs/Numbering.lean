/-
# The numbering of a file

All nodes of a file are numbered through one counter: the walks of its bodies
and of its initial values, one after the other in source order, have the
indexes 0, 1, 2 and so on.  Each of these trees has the shape on which the
traversal rests, so that a run on it visits each of its nodes once.

Key definitions: `Outline.trees`, `Outline.nodes`, `ConvertedRow`.
Key theorems: `convertedRow_ofTree`, `nodes_ofTree`.
-/
import GoComplexity.Outline.Build
import GoComplexity.Proofs.Conversion
import GoComplexity.Proofs.Traversal

namespace GoComplexity

/-- The trees of nodes of a file in source order. -/
def Outline.trees (o : Outline) : List Node := o.declarations.flatMap Declaration.trees

/-- The nodes of a file in source order. -/
def Outline.nodes (o : Outline) : List Node := o.trees.flatMap Node.walk

/-- Trees that conversions have made in a row, numbered from one index up to
another. -/
def ConvertedRow (path : String) (a b : Nat) (ns : List Node) : Prop :=
  Numbered a b ns ∧ ∀ n ∈ ns, IsConverted path n

namespace ConvertedRow

variable {path : String} {a b c : Nat} {xs ys : List Node}

theorem nil (path : String) (a : Nat) : ConvertedRow path a a [] :=
  ⟨Numbered.nil a, fun _ h => absurd h List.not_mem_nil⟩

theorem append (hx : ConvertedRow path a b xs) (hy : ConvertedRow path b c ys) :
    ConvertedRow path a c (xs ++ ys) := by
  refine ⟨hx.1.append hy.1, fun n hn => ?_⟩
  rcases List.mem_append.mp hn with h | h
  · exact hx.2 n h
  · exact hy.2 n h

theorem convert (path : String) (parent : Form) (t : Tree) (s : Conversion) :
    ConvertedRow path s.next (convert path parent t s).2.next [(convert path parent t s).1] := by
  refine ⟨numbered_convert path parent t s, fun n hn => ?_⟩
  exact ⟨parent, t, s, List.mem_singleton.mp hn⟩

end ConvertedRow

variable (path : String)

theorem convertedRow_convertValues (parent : Form) : ∀ (ts : List Tree) (next : Nat),
    ConvertedRow path next (convertValues path parent ts next).2
      (convertValues path parent ts next).1
  | [], next => ConvertedRow.nil path next
  | t :: ts, next =>
    (ConvertedRow.convert path parent t ⟨next, [[]]⟩).append
      (convertedRow_convertValues parent ts _)

theorem convertedRow_convertSpecs : ∀ (ts : List Tree) (next : Nat),
    ConvertedRow path next (convertSpecs path ts next).2
      ((convertSpecs path ts next).1.flatMap ValueSpec.values)
  | [], next => ConvertedRow.nil path next
  | t :: ts, next =>
    (convertedRow_convertValues path t.form (valuesOf t) next).append
      (convertedRow_convertSpecs ts _)

theorem convertedRow_convertBody (names : List String) (t : Tree) (next : Nat) :
    ConvertedRow path next (convertBody path names t next).2
      (convertBody path names t next).1.toList := by
  unfold convertBody
  cases t.childByField? "body" with
  | none => exact ConvertedRow.nil path next
  | some body => exact ConvertedRow.convert path t.form body ⟨next, [names]⟩

/-- A declaration numbers its trees from the index at which it starts. -/
theorem convertedRow_declarationOf? {doc : List String} {t : Tree} {next next' : Nat}
    {d : Declaration} (h : declarationOf? path doc t next = some (d, next')) :
    ConvertedRow path next next' d.trees := by
  have hbody : ∀ (names : List String) (e : Declaration),
      e.body = (convertBody path names t next).1 → e.specs = [] →
      ConvertedRow path next (convertBody path names t next).2 e.trees := by
    intro names e hb hs
    rw [Declaration.trees, hb, hs, List.flatMap_nil, List.append_nil]
    exact convertedRow_convertBody path names t next
  have hspecs : ∀ (specKind : String) (e : Declaration),
      e.body = none → e.specs = (convertSpecs path (specsOf specKind t) next).1 →
      ConvertedRow path next (convertSpecs path (specsOf specKind t) next).2 e.trees := by
    intro specKind e hb hs
    rw [Declaration.trees, hb, hs, Option.toList_none, List.nil_append]
    exact convertedRow_convertSpecs path (specsOf specKind t) next
  unfold declarationOf? at h
  split at h
  · obtain ⟨rfl, rfl⟩ := Prod.mk.inj (Option.some.inj h)
    exact hbody _ _ rfl rfl
  · obtain ⟨rfl, rfl⟩ := Prod.mk.inj (Option.some.inj h)
    exact hbody _ _ rfl rfl
  · obtain ⟨rfl, rfl⟩ := Prod.mk.inj (Option.some.inj h)
    exact hspecs _ _ rfl rfl
  · obtain ⟨rfl, rfl⟩ := Prod.mk.inj (Option.some.inj h)
    exact hspecs _ _ rfl rfl
  · exact absurd h (by simp)

/-- What is read of a file so far is numbered up to the next index. -/
theorem convertedRow_step {r : Reading}
    (h : ConvertedRow path 0 r.next (r.declarations.flatMap Declaration.trees)) (t : Tree) :
    ConvertedRow path 0 (r.step path t).next
      ((r.step path t).declarations.flatMap Declaration.trees) := by
  unfold Reading.step
  split
  · exact h
  · dsimp only
    split
    · exact h
    · split
      · rename_i d next hd
        dsimp only
        rw [List.flatMap_append, List.flatMap_singleton]
        exact h.append (convertedRow_declarationOf? path hd)
      · exact h

theorem convertedRow_foldl : ∀ (ts : List Tree) (r : Reading),
    ConvertedRow path 0 r.next (r.declarations.flatMap Declaration.trees) →
    ConvertedRow path 0 (ts.foldl (Reading.step path) r).next
      ((ts.foldl (Reading.step path) r).declarations.flatMap Declaration.trees)
  | [], _, h => h
  | t :: ts, r, h => convertedRow_foldl ts (r.step path t) (convertedRow_step path h t)

/-- **One counter numbers a file.** -/
theorem convertedRow_ofTree (root : Tree) :
    ∃ next, ConvertedRow path 0 next (Outline.ofTree path root).trees :=
  ⟨_, convertedRow_foldl path root.namedChildren {} (ConvertedRow.nil path 0)⟩

/-- Every node of a file comes from a conversion. -/
theorem isConverted_of_mem_nodes {root : Tree} {n : Node}
    (h : n ∈ (Outline.ofTree path root).nodes) : IsConverted path n := by
  obtain ⟨next, -, hconverted⟩ := convertedRow_ofTree path root
  obtain ⟨m, hm, hn⟩ := List.mem_flatMap.mp h
  exact (hconverted m hm).of_mem_walk hn

/-- **The nodes of a file.** They are numbered in a row from zero, in source
order; each fits its children and has an operator if it is a logical
expression; its header, its body and its alternative are its children, each
once; and a run on it is a run through visits to each node of its walk, once. -/
theorem nodes_ofTree (root : Tree) :
    (Outline.ofTree path root).nodes.map Node.index =
        List.range (Outline.ofTree path root).nodes.length ∧
      ∀ n ∈ (Outline.ofTree path root).nodes,
        n.Fits ∧ n.Operates ∧ (n.header ++ n.body ++ n.alternative.toList).Perm n.children ∧
          ((visits [⟨n, 0, false⟩]).map Work.node).Perm n.walk ∧
          ∀ identity v, Visitor.visit identity v n =
            (visits [⟨n, 0, false⟩]).foldl (fun v w => (v.step identity w).1) v := by
  obtain ⟨next, hnum, hconv⟩ := convertedRow_ofTree path root
  constructor
  · have hlen := congrArg List.length hnum.2
    rw [List.length_map, List.length_range'] at hlen
    rw [List.range_eq_range', Outline.nodes, hlen]
    exact hnum.2
  · intro n hn
    obtain ⟨r, hr, hnr⟩ := List.mem_flatMap.mp hn
    have hc := (hconv r hr).of_mem_walk hnr
    exact ⟨hc.fits, hc.operates, hc.shaped.perm_children, hc.shaped.perm_visits 0 false,
      fun identity v => Visitor.run_eq_foldl_visits identity v _⟩

end GoComplexity
