/-
# Declarations by themselves

All declarations of a file draw their indexes from one counter, and nothing else
goes from one to the next but the comments that may document it.  Where the
counter stands shows in the indexes of nodes alone, and these do not show in
scores.  So the scores of a file are those of its declarations by themselves, one
after the other: of a declaration's tree, its doc comment, the path and the package
name.  Whatever is done to other declarations, they stay the same.

Key definitions: `Declaration.relabel`, `Declaration.stats`,
`Documented.statsFrom`, `Documented.stats`.
Key theorems: `declarationOf?_agrees`, `Documented.statsFrom_eq`,
`measure_ofTree`.
-/
import GoComplexity.Proofs.Agreement
import GoComplexity.Proofs.Reading
import GoComplexity.Proofs.VariedOutline
import GoComplexity.Score.Unit

namespace GoComplexity

/-! ### Another start of the counter -/

/-- Facts of a node that stands further on. -/
def Facts.shift (a : Nat) : Facts → Facts := Facts.restrict (fun _ => true) a

/-- A line of values with its nodes relabelled. -/
def ValueSpec.relabel (h : Facts → Facts) (s : ValueSpec) : ValueSpec :=
  { s with values := s.values.map (Node.relabel h) }

/-- A declaration with its nodes relabelled. -/
def Declaration.relabel (h : Facts → Facts) (d : Declaration) : Declaration :=
  { d with body := d.body.map (Node.relabel h), specs := d.specs.map (ValueSpec.relabel h) }

section

variable (path : String) {a b n m : Nat} (h : n + a = m + b)

include h

/-- Conversions that start with the same names agree. -/
theorem agrees_start (names : List String) :
    (⟨n, [names]⟩ : Conversion).Agrees (fun _ => true) a b ⟨m, [names]⟩ where
  next := h
  left := List.cons_ne_nil _ _
  right := List.cons_ne_nil _ _
  isLocal _ _ := Iff.rfl

theorem convertBody_agrees (names : List String) (t : Tree) :
    (convertBody path names t n).1.map (Node.relabel (Facts.shift a)) =
        (convertBody path names t m).1.map (Node.relabel (Facts.shift b)) ∧
      (convertBody path names t n).2 + a = (convertBody path names t m).2 + b := by
  unfold convertBody
  cases t.childByField? "body" with
  | none => exact ⟨rfl, h⟩
  | some body =>
    obtain ⟨hnode, hstate⟩ := convert_agrees path t.form body (agrees_start h names)
    exact ⟨congrArg some hnode, hstate.next⟩

omit h in
theorem convertValues_agrees (parent : Form) : ∀ (ts : List Tree) {n m : Nat}, n + a = m + b →
    (convertValues path parent ts n).1.map (Node.relabel (Facts.shift a)) =
        (convertValues path parent ts m).1.map (Node.relabel (Facts.shift b)) ∧
      (convertValues path parent ts n).2 + a = (convertValues path parent ts m).2 + b
  | [], _, _, h => ⟨rfl, h⟩
  | t :: ts, n, m, h => by
    obtain ⟨hnode, hstate⟩ := convert_agrees path parent t (agrees_start h [])
    obtain ⟨hnodes, hlast⟩ := convertValues_agrees parent ts hstate.next
    rw [convertValues_cons, convertValues_cons]
    refine ⟨?_, hlast⟩
    rw [List.map_cons, List.map_cons, hnodes]
    exact congrArg (· :: _) hnode

omit h in
theorem convertSpecs_agrees : ∀ (ts : List Tree) {n m : Nat}, n + a = m + b →
    (convertSpecs path ts n).1.map (ValueSpec.relabel (Facts.shift a)) =
        (convertSpecs path ts m).1.map (ValueSpec.relabel (Facts.shift b)) ∧
      (convertSpecs path ts n).2 + a = (convertSpecs path ts m).2 + b
  | [], _, _, h => ⟨rfl, h⟩
  | t :: ts, n, m, h => by
    obtain ⟨hvalues, hnext⟩ := convertValues_agrees path t.form (valuesOf t) h
    obtain ⟨hspecs, hlast⟩ := convertSpecs_agrees ts hnext
    rw [convertSpecs_cons, convertSpecs_cons]
    refine ⟨?_, hlast⟩
    rw [List.map_cons, List.map_cons, hspecs]
    exact congrArg (fun values => ValueSpec.mk _ values :: _) hvalues

/-- **A declaration from another start of the counter** is the declaration with its
nodes standing further on. -/
theorem declarationOf?_agrees (doc : List String) (t : Tree) :
    (declarationOf? path doc t n).map (fun p => p.1.relabel (Facts.shift a)) =
      (declarationOf? path doc t m).map fun p => p.1.relabel (Facts.shift b) := by
  unfold declarationOf?
  split
  case h_1 =>
    obtain ⟨hbody, -⟩ := convertBody_agrees path h (signatureNames ["parameters", "result"] t) t
    simp [Declaration.relabel, hbody]
  case h_2 =>
    obtain ⟨hbody, -⟩ :=
      convertBody_agrees path h (signatureNames ["receiver", "parameters", "result"] t) t
    simp [Declaration.relabel, hbody]
  case h_3 =>
    obtain ⟨hspecs, -⟩ := convertSpecs_agrees path (specsOf "var_spec" t) h
    simp [Declaration.relabel, hspecs]
  case h_4 =>
    obtain ⟨hspecs, -⟩ := convertSpecs_agrees path (specsOf "const_spec" t) h
    simp [Declaration.relabel, hspecs]
  case h_5 => rfl

end

/-! ### The units of a declaration -/

/-- The scores of the units of a declaration that are not to be ignored. -/
def Declaration.stats (package : String) (d : Declaration) : List Stat :=
  ((d.units package).filter fun u => !hasIgnore u.doc).map MeasuredUnit.measure

/-- The scores of a file are those of its declarations, one after the other. -/
theorem Outline.measure_eq_flatMap (o : Outline) :
    o.measure = o.declarations.flatMap (Declaration.stats o.package) := by
  unfold Outline.measure Outline.units Declaration.stats
  rw [List.filter_flatMap, List.map_flatMap]

/-- A unit whose body stands further on. -/
def MeasuredUnit.shift (a : Nat) (u : MeasuredUnit) : MeasuredUnit :=
  { u with body := u.body.map (Node.relabel (Facts.shift a)) }

theorem MeasuredUnit.measure_shift (a : Nat) (u : MeasuredUnit) :
    (u.shift a).measure = u.measure := by
  have hkeeps : KeepsScores (Facts.shift a) (· + a) u.identity u.identity :=
    keepsScores_restrict (fun _ _ => rfl) a
  unfold measure shift
  dsimp only
  rw [cyclomatic_relabel hkeeps, cognitive_relabel hkeeps]

section

variable (package : String) (a : Nat)

theorem ValueSpec.unitOf_shift (doc : List String) (name : String) (v : Node) :
    ValueSpec.unitOf package doc name (v.relabel (Facts.shift a)) =
      (ValueSpec.unitOf package doc name v).shift a := by
  unfold ValueSpec.unitOf MeasuredUnit.shift
  rw [Node.body_relabel, List.head?_map, Node.position, Node.facts_relabel]
  rfl

theorem ValueSpec.units_shift (doc : List String) (s : ValueSpec) :
    (s.relabel (Facts.shift a)).units package doc =
      (s.units package doc).map (MeasuredUnit.shift a) := by
  unfold ValueSpec.units ValueSpec.relabel
  dsimp only
  cases s.names with
  | nil => rfl
  | cons name names =>
    have hkind : ∀ v : Node, (v.relabel (Facts.shift a)).kind = v.kind := fun v => by
      rw [Node.kind, Node.facts_relabel]; rfl
    have hfilter : ((s.values.map (Node.relabel (Facts.shift a))).filter fun v =>
          v.kind == .functionLiteral) =
        (s.values.filter fun v => v.kind == .functionLiteral).map
          (Node.relabel (Facts.shift a)) := by
      rw [List.filter_map]
      exact congrArg _ (List.filter_congr fun v _ => by rw [Function.comp_apply, hkind])
    dsimp only
    rw [hfilter, List.map_map, List.map_map]
    exact List.map_congr_left fun v _ => ValueSpec.unitOf_shift package a doc name v

theorem Declaration.units_shift (d : Declaration) :
    (d.relabel (Facts.shift a)).units package = (d.units package).map (MeasuredUnit.shift a) := by
  have hkind : (d.relabel (Facts.shift a)).kind = d.kind := rfl
  unfold Declaration.units
  rw [hkind]
  cases d.kind with
  | function => rfl
  | method => rfl
  | value =>
    show (d.specs.map (ValueSpec.relabel (Facts.shift a))).flatMap (ValueSpec.units package d.doc) =
      (d.specs.flatMap (ValueSpec.units package d.doc)).map (MeasuredUnit.shift a)
    rw [List.flatMap_map, List.map_flatMap]
    exact List.flatMap_congr fun s _ => s.units_shift package a d.doc

/-- Where the nodes of a declaration stand does not show in its scores. -/
theorem Declaration.stats_shift (d : Declaration) :
    (d.relabel (Facts.shift a)).stats package = d.stats package := by
  unfold Declaration.stats
  rw [Declaration.units_shift, List.filter_map, List.map_map]
  exact List.map_congr_left fun u _ => u.measure_shift a

end

/-! ### Scores by themselves -/

namespace Documented

/-- The scores of a declaration whose nodes are numbered from an index on. -/
def statsFrom (path package : String) (next : Nat) (p : Documented) : List Stat :=
  ((declarationOf? path p.doc p.tree next).map fun d => d.1.stats package).getD []

/-- The scores of a declaration by itself. -/
def stats (path package : String) (p : Documented) : List Stat := p.statsFrom path package 0

/-- **The index from which a declaration is numbered** does not show in its scores. -/
theorem statsFrom_eq (path package : String) (next : Nat) (p : Documented) :
    p.statsFrom path package next = p.stats path package := by
  have hagrees := declarationOf?_agrees path (a := 0) (b := next)
    (show next + 0 = 0 + next by omega) p.doc p.tree
  have hstats := congrArg (Option.map (Declaration.stats package)) hagrees
  rw [Option.map_map, Option.map_map] at hstats
  have hshift : ∀ c : Nat, (Declaration.stats package ∘ fun d : Declaration × Nat =>
      d.1.relabel (Facts.shift c)) = fun d => d.1.stats package :=
    fun c => funext fun d => d.1.stats_shift package c
  rw [hshift, hshift] at hstats
  exact congrArg (Option.getD · []) hstats

theorem ReadAs.stats {path : String} {p : Documented} {d : Declaration} (h : p.ReadAs path d)
    (package : String) : d.stats package = p.stats path package := by
  obtain ⟨next, next', hd⟩ := h
  rw [← statsFrom_eq path package next, statsFrom, hd]
  rfl

end Documented

/-- The scores of a file are those of its declarations by themselves. -/
theorem measure_eq_flatMap_documented (path : String) (root : Tree) :
    (Outline.ofTree path root).measure =
      root.documented.flatMap (Documented.stats path root.packageName) := by
  have hall : ∀ {ps : List Documented} {ds : List Declaration} (package : String),
      List.Forall₂ (Documented.ReadAs path) ps ds →
      ds.flatMap (Declaration.stats package) = ps.flatMap (Documented.stats path package) := by
    intro ps ds package hread
    induction hread with
    | nil => rfl
    | cons hd _ ih => rw [List.flatMap_cons, List.flatMap_cons, hd.stats, ih]
  rw [Outline.measure_eq_flatMap, package_ofTree]
  exact hall root.packageName (declarations_ofTree path root)

/-- **A file is measured declaration by declaration.** Its scores are those of its
declarations by themselves, in source order; these do not hang on the index from
which a declaration is numbered; and a declaration that stands, with its doc
comment, in two files of one package name has the same scores in both. -/
theorem measure_ofTree (path : String) (root : Tree) :
    (Outline.ofTree path root).measure =
        root.documented.flatMap (Documented.stats path root.packageName) ∧
      (∀ (p : Documented) (package : String) (next : Nat),
        p.statsFrom path package next = p.stats path package) ∧
      ∀ (root' : Tree) (p : Documented), root'.packageName = root.packageName →
        p ∈ root.documented → p ∈ root'.documented →
        p.stats path root.packageName <:+: (Outline.ofTree path root).measure ∧
          p.stats path root.packageName <:+: (Outline.ofTree path root').measure := by
  have hpart : ∀ (root : Tree) (p : Documented), p ∈ root.documented →
      p.stats path root.packageName <:+: (Outline.ofTree path root).measure := by
    intro root p hp
    obtain ⟨before, after, hsplit⟩ := List.append_of_mem hp
    rw [measure_eq_flatMap_documented, hsplit, List.flatMap_append, List.flatMap_cons]
    exact ⟨_, _, List.append_assoc _ _ _⟩
  refine ⟨measure_eq_flatMap_documented path root,
    fun p package next => p.statsFrom_eq path package next, ?_⟩
  intro root' p hpackage hp hp'
  exact ⟨hpart root p hp, hpackage ▸ hpart root' p hp'⟩

/-- The function `func f() { f() }` on a row. -/
def callingItself (f : String) (row : Nat) : Tree :=
  .node { kind := "function_declaration", start := ⟨row, 0⟩, stop := ⟨row, 16⟩ }
    [.node { kind := "identifier", field := some "name", text := some f } [],
      Tree.inField "parameter_list" "parameters" [],
      Tree.inField "block" "body"
        [.node { kind := "expression_statement" } [Tree.callOf none f]]]

/-- A file of the package `p` with some more top-level nodes. -/
def fileOf (ts : List Tree) : Tree :=
  .node { kind := "source_file" }
    (.node { kind := "package_clause" }
      [.node { kind := "package_identifier", text := some "p" } []] :: ts)

/-- A function has its scores whether or not another one stands before it. -/
theorem measure_ofTree_beside :
    (fileOf [callingItself "g" 2, callingItself "f" 3]).packageName =
        (fileOf [callingItself "f" 3]).packageName ∧
      (⟨[], callingItself "f" 3⟩ : Documented) ∈ (fileOf [callingItself "f" 3]).documented ∧
      (⟨[], callingItself "f" 3⟩ : Documented) ∈
        (fileOf [callingItself "g" 2, callingItself "f" 3]).documented ∧
      [⟨"p", "f", 1, 1, ⟨"a.go", 4, 1⟩⟩] <:+:
        (Outline.ofTree "a.go" (fileOf [callingItself "g" 2, callingItself "f" 3])).measure := by
  have hpackage : (fileOf [callingItself "g" 2, callingItself "f" 3]).packageName =
      (fileOf [callingItself "f" 3]).packageName := rfl
  have hp : (⟨[], callingItself "f" 3⟩ : Documented) ∈
      (fileOf [callingItself "f" 3]).documented :=
    List.mem_singleton_self _
  have hp' : (⟨[], callingItself "f" 3⟩ : Documented) ∈
      (fileOf [callingItself "g" 2, callingItself "f" 3]).documented :=
    List.mem_cons_of_mem _ (List.mem_singleton_self _)
  have hstats : (⟨[], callingItself "f" 3⟩ : Documented).stats "a.go"
      (fileOf [callingItself "f" 3]).packageName =
        [⟨"p", "f", 1, 1, ⟨"a.go", 4, 1⟩⟩] := by
    decide +kernel
  have hpart := ((measure_ofTree "a.go" (fileOf [callingItself "f" 3])).2.2 _ _ hpackage hp hp').2
  rw [hstats] at hpart
  exact ⟨hpackage, hp, hp', hpart⟩

end GoComplexity
