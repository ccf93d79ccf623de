/-
# Renaming a file

The names of a file are the texts of its nodes.  Renaming them consistently, with
the texts of comments as they are, changes no score and no position: whether a
name is local, whether a call is one of the function itself and whether a jump
has a label are matters of equality between names, and of the two names that
declare nothing.

Key definitions: `Tree.rename`, `Stat.scores`.
Key theorem: `scores_rename`.
-/
import GoComplexity.Proofs.Scoping
import GoComplexity.Proofs.VariedUnits
import Mathlib.Logic.Equiv.Basic

namespace GoComplexity

/-- A tag with its text renamed; the text of a comment is no name. -/
def Tag.rename (ρ : String → String) (a : Tag) : Tag :=
  { a with text := if a.kind = "comment" then a.text else a.text.map ρ }

namespace Tree

mutual

/-- A tree with its texts renamed, those of comments apart. -/
def rename (ρ : String → String) : Tree → Tree
  | .node tag cs => .node (tag.rename ρ) (renameAll ρ cs)

def renameAll (ρ : String → String) : List Tree → List Tree
  | [] => []
  | t :: ts => t.rename ρ :: renameAll ρ ts

end

/-- Whether no comment of a tree stands for a name. -/
def NamesNoComment (t : Tree) : Prop :=
  ∀ c ∈ t.preorder, c.isComment = true → c.field ≠ some "name"

variable {ρ : String → String}

/-- A tag with its text renamed varies, if it is not that of a comment in place of
a name. -/
theorem tag_varies_rename (hρ : Renames ρ) {a : Tag}
    (ha : a.kind = "comment" → a.field ≠ some "name") : a.Varies ρ id (a.rename ρ) := by
  refine ⟨rfl, rfl, rfl, ?_, fun _ => rfl⟩
  by_cases hk : a.kind = "comment"
  · exact Or.inl ⟨hk, ha hk⟩
  · right
    show (if a.kind = "comment" then a.text else a.text.map ρ).getD "" = ρ (a.text.getD "")
    rw [if_neg hk]
    cases a.text with
    | none => exact hρ.empty.symm
    | some x => rfl

theorem varied_renameAll (hρ : Renames ρ) : ∀ cs : List Tree,
    (∀ c ∈ preorderAll cs, c.isComment = true → c.field ≠ some "name") →
      Varied ρ id cs (renameAll ρ cs)
  | [], _ => Varied.nil
  | .node tag bs :: cs, h => by
    rw [preorderAll, preorder] at h
    rw [renameAll, rename]
    refine Varied.node (tag_varies_rename hρ fun hk => ?_) (varied_renameAll hρ bs ?_)
      (varied_renameAll hρ cs ?_)
    · exact h (.node tag bs) List.mem_cons_self (beq_iff_eq.mpr hk)
    · exact fun c hc => h c (List.mem_cons_of_mem _ (List.mem_append_left _ hc))
    · exact fun c hc => h c (List.mem_append_right _ hc)

theorem topVaries_rename (hρ : Renames ρ) {t : Tree} (h : t.NamesNoComment) :
    t.TopVaries ρ id (t.rename ρ) := by
  cases t with
  | node tag cs =>
    rw [NamesNoComment, preorder] at h
    have htag : tag.Varies ρ id (tag.rename ρ) :=
      tag_varies_rename hρ fun hk => h (.node tag cs) List.mem_cons_self (beq_iff_eq.mpr hk)
    have hchildren : Varied ρ id cs (renameAll ρ cs) :=
      varied_renameAll hρ cs fun c hc => h c (List.mem_cons_of_mem _ hc)
    rw [rename]
    refine ⟨⟨htag, hchildren⟩, rfl, rfl, fun hk => ?_⟩
    have htext : (tag.rename ρ).text = tag.text := if_pos (beq_iff_eq.mp hk)
    exact congrArg (Option.getD · "") htext

theorem forall₂_topVaries_rename (hρ : Renames ρ) : ∀ cs : List Tree,
    (∀ c ∈ preorderAll cs, c.isComment = true → c.field ≠ some "name") →
      List.Forall₂ (TopVaries ρ id) cs (renameAll ρ cs)
  | [], _ => List.Forall₂.nil
  | c :: cs, h => by
    rw [preorderAll] at h
    exact List.Forall₂.cons (topVaries_rename hρ fun d hd => h d (List.mem_append_left _ hd))
      (forall₂_topVaries_rename hρ cs fun d hd => h d (List.mem_append_right _ hd))

end Tree

/-- The scores of a function, and where it stands. -/
def Stat.scores (s : Stat) : Int × Int × Position := (s.cyclomatic, s.cognitive, s.position)

/-- **Renaming a file** changes no score and no position, and the renamed file is
nested as deeply. -/
theorem scores_rename (path : String) {ρ : String → String} (hρ : Renames ρ) {root : Tree}
    (h : root.NamesNoComment) :
    (∀ limits, (root.rename ρ).isTooDeep limits = root.isTooDeep limits) ∧
      (Outline.ofTree path (root.rename ρ)).measure.map Stat.scores =
        (Outline.ofTree path root).measure.map Stat.scores := by
  have htop : List.Forall₂ (Tree.TopVaries ρ id) root.children (root.rename ρ).children := by
    cases root with
    | node tag cs =>
      rw [Tree.NamesNoComment, Tree.preorder] at h
      rw [Tree.rename]
      exact Tree.forall₂_topVaries_rename hρ cs fun c hc => h c (List.mem_cons_of_mem _ hc)
  have hscores : ∀ {σ : String → String}, Renames σ → ∀ o : Outline,
      (o.vary σ id).measure.map Stat.scores = o.measure.map Stat.scores := by
    intro σ hσ o
    refine map_eq_of_forall₂ (fun a b hab => ?_) (Outline.measure_vary σ id hσ o)
    rw [Stat.scores, Stat.scores, hab.cyclomatic, hab.cognitive, hab.position rfl]
  refine ⟨fun limits => isTooDeep_varies limits htop, ?_⟩
  calc (Outline.ofTree path (root.rename ρ)).measure.map Stat.scores
      = ((Outline.ofTree path (root.rename ρ)).vary id id).measure.map Stat.scores :=
        (hscores Renames.id _).symm
    _ = ((Outline.ofTree path root).vary ρ id).measure.map Stat.scores := by
        rw [Outline.ofTree_varies path hρ htop]
    _ = (Outline.ofTree path root).measure.map Stat.scores := hscores hρ _

/-- A file with the function `func f() { f() }` and a comment on it. -/
def selfCalling : Tree :=
  .node { kind := "source_file" }
    [.node { kind := "comment", text := some "// f calls itself" } [],
      .node { kind := "function_declaration", start := ⟨1, 0⟩, stop := ⟨1, 16⟩ }
        [.node { kind := "identifier", field := some "name", text := some "f" } [],
          Tree.inField "parameter_list" "parameters" [],
          Tree.inField "block" "body"
            [.node { kind := "expression_statement" } [Tree.callOf none "f"]]]]

/-- Under its other name the function calls itself as well. -/
theorem scores_rename_selfCalling :
    Renames (Equiv.swap "f" "g") ∧ selfCalling.NamesNoComment ∧
      (Outline.ofTree "" (selfCalling.rename (Equiv.swap "f" "g"))).measure.map Stat.scores =
        [(1, 1, ⟨"", 2, 1⟩)] := by
  have hρ : Renames (Equiv.swap "f" "g") :=
    ⟨Equiv.injective _, Equiv.swap_apply_of_ne_of_ne (by decide) (by decide),
      Equiv.swap_apply_of_ne_of_ne (by decide) (by decide)⟩
  have hnames : selfCalling.NamesNoComment := by
    unfold Tree.NamesNoComment
    decide
  have hscores : (Outline.ofTree "" selfCalling).measure.map Stat.scores =
      [(1, 1, ⟨"", 2, 1⟩)] := by
    decide +kernel
  exact ⟨hρ, hnames, (scores_rename "" hρ hnames).2.trans hscores⟩

end GoComplexity
