/-
# Respacing a file

Below the top level of a file comments and positions are only spacing.  If
comments are taken out there and the rest is moved, then the outline of the file
differs in the positions of its nodes and in nothing else, and so do the scores:
wherever something is picked from the children of a node, comments are skipped.

Key definitions: `Tree.Spaced`, `Tree.Respaced`, `Outline.unplaced`,
`Stat.unplaced`.
Key theorem: `outline_respaced`.
-/
import GoComplexity.Proofs.Scoping
import GoComplexity.Proofs.VariedUnits

namespace GoComplexity

/-! ### Spacing -/

namespace Tree

/-- Trees that are spaced otherwise: comments are taken out, at any depth, and the
other nodes stand anywhere. -/
inductive Spaced : List Tree → List Tree → Prop
  | nil : Spaced [] []
  | comment {c : Tree} {cs ds : List Tree} (hk : c.isComment = true) (hf : c.field = none)
      (hc : c.children = []) (h : Spaced cs ds) : Spaced (c :: cs) ds
  | node {tag : Tag} {start stop : Point} {as bs cs ds : List Tree} (hs : Spaced as bs)
      (h : Spaced cs ds) :
      Spaced (.node tag as :: cs) (.node { tag with start := start, stop := stop } bs :: ds)

/-- A file whose top-level nodes stay as they are, with other spacing inside. -/
def Respaced (root root' : Tree) : Prop :=
  List.Forall₂ (fun t u => u.tag = t.tag ∧ Spaced t.children u.children) root.children
    root'.children

theorem Spaced.varied {cs ds : List Tree} (h : Spaced cs ds) :
    Varied id (fun _ => default) cs ds := by
  induction h with
  | nil => exact Varied.nil
  | comment hk hf hc _ ih => exact Varied.comment hk hf hc ih
  | node _ _ ihs ih => exact Varied.node ⟨rfl, rfl, rfl, Or.inr rfl, fun _ => rfl⟩ ihs ih

theorem Respaced.forall₂_topVaries {root root' : Tree} (h : Respaced root root') :
    List.Forall₂ (TopVaries id fun _ => default) root.children root'.children := by
  refine h.imp fun t u ⟨htag, hs⟩ => ?_
  have hvaries : t.tag.Varies id (fun _ => default) u.tag := by
    rw [htag]
    exact ⟨rfl, rfl, rfl, Or.inr rfl, fun _ => rfl⟩
  refine ⟨⟨hvaries, hs.varied⟩, ?_, ?_, fun _ => ?_⟩
  · exact congrArg Tag.start htag
  · exact congrArg Tag.stop htag
  · exact congrArg (fun a : Tag => a.text.getD "") htag

end Tree

/-! ### Outlines without positions -/

/-- A tree of nodes without their positions. -/
def Node.unplaced : Node → Node := Node.relabel fun f => { f with position := default }

/-- A declaration without the positions of its nodes. -/
def Declaration.unplaced (d : Declaration) : Declaration :=
  { d with
    body := d.body.map Node.unplaced
    specs := d.specs.map fun s => { s with values := s.values.map Node.unplaced } }

/-- An outline without the positions of its nodes. -/
def Outline.unplaced (o : Outline) : Outline :=
  { o with declarations := o.declarations.map Declaration.unplaced }

/-- A score without its place. -/
def Stat.unplaced (s : Stat) : Stat := { s with position := default }

theorem Node.vary_eq_unplaced : Node.vary id (fun _ => default) = Node.unplaced := by
  refine congrArg Node.relabel (funext fun f => ?_)
  rw [Facts.vary, Option.map_id, id, id]

theorem Outline.vary_eq_unplaced (o : Outline) : o.vary id (fun _ => default) = o.unplaced := by
  have hspec : ValueSpec.vary id (fun _ => default) =
      fun s => { s with values := s.values.map Node.unplaced } := by
    funext s
    rw [ValueSpec.vary, List.map_id, Node.vary_eq_unplaced]
  have hdeclaration : Declaration.vary id (fun _ => default) = Declaration.unplaced := by
    funext d
    rw [Declaration.vary, Declaration.unplaced, hspec, Node.vary_eq_unplaced, Receiver.rename_id,
      Option.map_id]
    rfl
  rw [Outline.vary, Outline.unplaced, hdeclaration]
  rfl

/-- **Respacing a file** changes the positions of nodes and of scores, and nothing
else, and the respaced file is nested as deeply. -/
theorem outline_respaced (path : String) {root root' : Tree} (h : root.Respaced root') :
    (∀ limits, root'.isTooDeep limits = root.isTooDeep limits) ∧
      (Outline.ofTree path root').unplaced = (Outline.ofTree path root).unplaced ∧
      (Outline.ofTree path root').measure.map Stat.unplaced =
        (Outline.ofTree path root).measure.map Stat.unplaced := by
  have htop := h.forall₂_topVaries
  have houtline := Outline.ofTree_varies path Renames.id htop
  have hstats : ∀ o : Outline, (o.vary id fun _ => default).measure.map Stat.unplaced =
      o.measure.map Stat.unplaced := by
    intro o
    refine map_eq_of_forall₂ (fun a b hab => ?_) (Outline.measure_vary id _ Renames.id o)
    rw [Stat.unplaced, Stat.unplaced, hab.function rfl, hab.package, hab.cyclomatic, hab.cognitive]
    rfl
  refine ⟨fun limits => isTooDeep_varies limits htop, ?_, ?_⟩
  · rw [← Outline.vary_eq_unplaced, ← Outline.vary_eq_unplaced, houtline]
  · rw [← hstats, houtline, hstats]

/-- A file with the function `func f() { return a && b }`, where comments stand
before the last name and that name stands at a point. -/
def returning (comments : List Tree) (place : Point) : Tree :=
  .node { kind := "source_file" }
    [.node { kind := "function_declaration" }
      [.node { kind := "identifier", field := some "name", text := some "f" } [],
        Tree.inField "parameter_list" "parameters" [],
        Tree.inField "block" "body"
          [.node { kind := "return_statement" }
            [.node { kind := "binary_expression" }
              (.node { kind := "identifier", field := some "left", text := some "a" } [] ::
                .node { kind := "&&", field := some "operator", isNamed := false } [] ::
                (comments ++
                  [.node { kind := "identifier", field := some "right", text := some "b",
                           start := place } []]))]]]]

/-- A comment is taken out between the operands, and the second one moves. -/
theorem outline_respaced_returning :
    (returning [.node { kind := "comment", text := some "/* or not */" } []] ⟨0, 40⟩).Respaced
        (returning [] ⟨1, 0⟩) ∧
      (Outline.ofTree "" (returning [] ⟨1, 0⟩)).measure.map Stat.unplaced =
        [⟨"", "f", 2, 1, default⟩] := by
  have hrespaced : (returning [.node { kind := "comment", text := some "/* or not */" } []]
      ⟨0, 40⟩).Respaced (returning [] ⟨1, 0⟩) := by
    refine List.Forall₂.cons ⟨rfl, ?_⟩ List.Forall₂.nil
    -- the name and the parameters, then the statement in the block, then its operands
    refine .node .nil (.node .nil (.node (.node (.node ?_ .nil) .nil) .nil))
    exact .node .nil (.node .nil (.comment rfl rfl rfl (.node .nil .nil)))
  have hstats : (Outline.ofTree ""
      (returning [.node { kind := "comment", text := some "/* or not */" } []]
        ⟨0, 40⟩)).measure.map Stat.unplaced = [⟨"", "f", 2, 1, default⟩] := by
    decide +kernel
  exact ⟨hrespaced, (outline_respaced "" hrespaced).2.2.trans hstats⟩

end GoComplexity
