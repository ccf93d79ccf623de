/-
# The declarations of a file

A file is read from its first top-level node to its last.  Each node changes the
tracker of comments, the package name or the list of declarations as the node
alone and the state so far tell.  So the declarations of a file are those of its
function, method, variable and constant nodes in order, each with the doc comment
attached to it and from some index on, and its package name is that of its last
package clause.

Key definitions: `Tree.isDeclaration`, `Documented`, `Tree.documented`,
`Tree.packageName`, `Documented.ReadAs`.
Key theorems: `package_ofTree`, `declarations_ofTree`.
-/
import GoComplexity.Outline.Build
import GoComplexity.Proofs.Attachment
import Mathlib.Data.List.Forall2

namespace GoComplexity

/-- Whether a top-level node gives a declaration. -/
def Tree.isDeclaration (t : Tree) : Bool :=
  ["function_declaration", "method_declaration", "var_declaration",
    "const_declaration"].contains t.kind

/-- A top-level node with the texts of its doc comment. -/
structure Documented where
  doc : List String
  tree : Tree

/-- The declarations among top-level nodes, after those that are given first. -/
def documentedFrom : List Tree → List Tree → List Documented
  | _, [] => []
  | before, t :: ts =>
    (if t.isDeclaration then [⟨attachedDoc before t, t⟩] else []) ++
      documentedFrom (before ++ [t]) ts

namespace Tree

/-- The declarations of a file in source order, each with its doc comment. -/
def documented (root : Tree) : List Documented := documentedFrom [] root.namedChildren

/-- The package name of a file: that of the last package clause, wherever it
stands. -/
def packageName (root : Tree) : String :=
  ((root.namedChildren.filter fun t => t.kind == "package_clause").getLast?.map
    packageNameOf).getD ""

end Tree

variable (path : String)

/-! ### One node -/

theorem isSome_declarationOf? (doc : List String) (t : Tree) (next : Nat) :
    (declarationOf? path doc t next).isSome = t.isDeclaration := by
  unfold declarationOf? Tree.isDeclaration
  split
  case h_1 hk | h_2 hk | h_3 hk | h_4 hk => rw [hk]; rfl
  case h_5 h₁ h₂ h₃ h₄ =>
    have hk : t.kind ∉ ["function_declaration", "method_declaration", "var_declaration",
        "const_declaration"] := by
      simpa using ⟨h₁, h₂, h₃, h₄⟩
    exact (Bool.eq_false_iff.mpr fun h => hk (List.contains_iff_mem.mp h)).symm

theorem declarationOf?_eq_none {t : Tree} (ht : ¬ t.isDeclaration = true) (doc : List String)
    (next : Nat) : declarationOf? path doc t next = none := by
  rw [← Option.not_isSome_iff_eq_none, isSome_declarationOf?]
  exact ht

theorem not_isDeclaration_of_isComment {t : Tree} (ht : t.isComment = true) :
    ¬ t.isDeclaration = true := by
  rw [Tree.isDeclaration, beq_iff_eq.mp ht]
  decide

namespace Reading

variable (r : Reading) (t : Tree)

theorem tracker_step : (r.step path t).tracker = r.tracker.read t := by
  unfold step DocTracker.read
  split
  · rfl
  · dsimp only
    split
    · rfl
    · split <;> rfl

theorem package_step :
    (r.step path t).package =
      if t.kind = "package_clause" then packageNameOf t else r.package := by
  unfold step
  by_cases hc : t.isComment = true
  · have hk : t.kind ≠ "package_clause" := by rw [beq_iff_eq.mp hc]; decide
    rw [if_pos hc, if_neg hk]
  · rw [if_neg hc]
    by_cases hk : t.kind = "package_clause"
    · simp only [if_pos hk]
    · simp only [if_neg hk]
      split <;> rfl

theorem declarations_step :
    (r.step path t).declarations = r.declarations ++
      ((declarationOf? path (r.tracker.docFor t) t r.next).map Prod.fst).toList := by
  unfold step
  by_cases hc : t.isComment = true
  · rw [if_pos hc, declarationOf?_eq_none path (not_isDeclaration_of_isComment hc)]
    exact (List.append_nil _).symm
  · rw [if_neg hc]
    by_cases hk : t.kind = "package_clause"
    · have hnone : declarationOf? path (r.tracker.docFor t) t r.next = none :=
        declarationOf?_eq_none path (by rw [Tree.isDeclaration, hk]; decide) _ _
      simp [hk, hnone]
    · simp only [if_neg hk]
      cases declarationOf? path (r.tracker.docFor t) t r.next <;> simp

end Reading

/-! ### The whole file -/

theorem package_foldl : ∀ (ts : List Tree) (r : Reading),
    (ts.foldl (Reading.step path) r).package =
      ((ts.filter fun t => t.kind == "package_clause").getLast?.map packageNameOf).getD r.package
  | [], _ => rfl
  | t :: ts, r => by
    rw [List.foldl_cons, package_foldl ts, Reading.package_step]
    by_cases hk : t.kind = "package_clause"
    · have hp : (t.kind == "package_clause") = true := beq_iff_eq.mpr hk
      rw [if_pos hk, List.filter_cons, if_pos hp]
      cases hts : ts.filter fun t => t.kind == "package_clause" with
      | nil => rfl
      | cons u us => rw [List.getLast?_cons_cons, List.getLast?_cons]; rfl
    · have hp : ¬ (t.kind == "package_clause") = true := fun h => hk (beq_iff_eq.mp h)
      rw [if_neg hk, List.filter_cons, if_neg hp]

/-- **The package name of a file** is that of its last package clause. -/
theorem package_ofTree (root : Tree) : (Outline.ofTree path root).package = root.packageName :=
  package_foldl path root.namedChildren {}

/-- Whether a declaration is that of a node with its doc comment, from some index
on. -/
def Documented.ReadAs (p : Documented) (d : Declaration) : Prop :=
  ∃ next next', declarationOf? path p.doc p.tree next = some (d, next')

/-- What is read after some nodes hangs on those through their comments alone. -/
theorem declarations_foldl : ∀ (ts before : List Tree) (r : Reading),
    r.tracker = before.foldl DocTracker.read {} →
    ∃ ds, (ts.foldl (Reading.step path) r).declarations = r.declarations ++ ds ∧
      List.Forall₂ (Documented.ReadAs path) (documentedFrom before ts) ds
  | [], _, r, _ => ⟨[], (List.append_nil _).symm, List.Forall₂.nil⟩
  | t :: ts, before, r, hr => by
    have htracker : (r.step path t).tracker = (before ++ [t]).foldl DocTracker.read {} := by
      rw [Reading.tracker_step, hr, List.foldl_concat]
    have hdoc : r.tracker.docFor t = attachedDoc before t := by rw [hr, docFor_foldl_read]
    obtain ⟨ds, hds, hread⟩ := declarations_foldl ts (before ++ [t]) (r.step path t) htracker
    have hsome := isSome_declarationOf? path (attachedDoc before t) t r.next
    rw [List.foldl_cons, hds, Reading.declarations_step, hdoc, List.append_assoc, documentedFrom]
    refine ⟨_, rfl, ?_⟩
    cases hd : declarationOf? path (attachedDoc before t) t r.next with
    | none =>
      rw [hd] at hsome
      rw [← hsome]
      exact hread
    | some p =>
      rw [hd] at hsome
      rw [← hsome]
      exact List.Forall₂.cons ⟨r.next, p.2, hd⟩ hread

/-- **The declarations of a file** are those of its declaring nodes in order, each
with the doc comment attached to it. -/
theorem declarations_ofTree (root : Tree) :
    List.Forall₂ (Documented.ReadAs path) root.documented
      (Outline.ofTree path root).declarations := by
  obtain ⟨ds, hds, hread⟩ := declarations_foldl path root.namedChildren [] {} rfl
  have hds' : (Outline.ofTree path root).declarations = ds := hds
  rw [hds']
  exact hread

end GoComplexity
