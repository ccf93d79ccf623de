/-
# Variations of a tree

A variation of a tree renames its texts, moves its nodes and takes comments out;
`ρ` is the renaming, and `g` forgets what may differ of a position.  A comment is
taken out only where nothing is read of it: it stands in no field and has no
children.  Every reading of a tree that a conversion makes skips comments, so the
conversion of a variation is the conversion of the tree with its names renamed,
from renamed scopes to renamed scopes.

Key definitions: `Tag.Varies`, `Tree.Varied`, `Tree.Varies`, `Renames`,
`Node.vary`.
Key theorems: `Tree.Varied.filter`, `Tree.Varies.childByField?`,
`Tree.Varies.enter_eq`, `convertAll_varied`, `convert_varies`.
-/
import GoComplexity.Proofs.Conversion
import GoComplexity.Proofs.Relabelling
import Mathlib.Data.List.Forall2

namespace GoComplexity

/-- A renaming that keeps names apart and leaves the two that declare nothing as
they are. -/
structure Renames (ρ : String → String) : Prop where
  injective : Function.Injective ρ
  empty : ρ "" = ""
  blank : ρ "_" = "_"

theorem Renames.id : Renames id := ⟨Function.injective_id, rfl, rfl⟩

/-- What related elements agree on. -/
theorem map_eq_of_forall₂ {α β : Type} {R : α → α → Prop} {f : α → β}
    (hf : ∀ a b, R a b → f b = f a) {as bs : List α} (h : List.Forall₂ R as bs) :
    bs.map f = as.map f := by
  induction h with
  | nil => rfl
  | cons hab _ ih => rw [List.map_cons, List.map_cons, hf _ _ hab, ih]

theorem any_eq_of_forall₂ {α : Type} {R : α → α → Prop} {P : α → Bool}
    (hP : ∀ a b, R a b → P b = P a) {as bs : List α} (h : List.Forall₂ R as bs) :
    bs.any P = as.any P := by
  have hmap := congrArg (List.any · id) (map_eq_of_forall₂ hP h)
  rwa [List.any_map, List.any_map] at hmap

/-- How the tag of a node may vary.  The text of a comment stays as it is, unless
it stands for a name. -/
structure Tag.Varies (ρ : String → String) (g : Position → Position) (a b : Tag) : Prop where
  kind : b.kind = a.kind
  field : b.field = a.field
  isNamed : b.isNamed = a.isNamed
  text : a.kind = "comment" ∧ a.field ≠ some "name" ∨ b.text.getD "" = ρ (a.text.getD "")
  place : ∀ path, g ((Tree.node b []).position path) = g ((Tree.node a []).position path)

namespace Tree

/-- How the trees of a list may vary. -/
inductive Varied (ρ : String → String) (g : Position → Position) : List Tree → List Tree → Prop
  | nil : Varied ρ g [] []
  | comment {c : Tree} {cs ds : List Tree} (hk : c.isComment = true) (hf : c.field = none)
      (hc : c.children = []) (h : Varied ρ g cs ds) : Varied ρ g (c :: cs) ds
  | node {c d : Tree} {cs ds : List Tree} (ht : c.tag.Varies ρ g d.tag)
      (hs : Varied ρ g c.children d.children) (h : Varied ρ g cs ds) :
      Varied ρ g (c :: cs) (d :: ds)

/-- How a tree may vary. -/
structure Varies (ρ : String → String) (g : Position → Position) (t u : Tree) : Prop where
  tag : t.tag.Varies ρ g u.tag
  children : Varied ρ g t.children u.children

/-- A tree that is left as it is varies. -/
theorem Varied.refl (g : Position → Position) : ∀ cs : List Tree, Varied id g cs cs
  | [] => Varied.nil
  | .node _ bs :: cs =>
    Varied.node ⟨rfl, rfl, rfl, Or.inr rfl, fun _ => rfl⟩ (Varied.refl g bs) (Varied.refl g cs)

theorem Varies.refl (g : Position → Position) (t : Tree) : Varies id g t t :=
  ⟨⟨rfl, rfl, rfl, Or.inr rfl, fun _ => rfl⟩, Varied.refl g t.children⟩

theorem isKept_of_isComment {t : Tree} (h : t.isComment = true) : t.isKept = false := by
  rw [isKept, h, Bool.not_true, Bool.and_false]

theorem kind_ne_of_isComment {t : Tree} (h : t.isComment = true) {kind : String}
    (hne : kind ≠ "comment") : t.kind ≠ kind := by
  rw [beq_iff_eq.mp h]
  exact hne.symm

variable {ρ : String → String} {g : Position → Position}

/-! ### What is read of a node -/

namespace Varies

variable {t u : Tree}

theorem kind (h : Varies ρ g t u) : u.kind = t.kind := h.tag.kind

theorem field (h : Varies ρ g t u) : u.field = t.field := h.tag.field

theorem isNamed (h : Varies ρ g t u) : u.isNamed = t.isNamed := h.tag.isNamed

theorem form (h : Varies ρ g t u) : u.form = t.form := congrArg Form.ofKind h.kind

theorem isComment (h : Varies ρ g t u) : u.isComment = t.isComment := by
  rw [Tree.isComment, Tree.isComment, h.kind]

theorem isKept (h : Varies ρ g t u) : u.isKept = t.isKept := by
  rw [Tree.isKept, Tree.isKept, h.isNamed, h.isComment]

/-- The text of a node that is no comment, or stands for a name, is renamed. -/
theorem text (h : Varies ρ g t u) (hk : t.kind ≠ "comment" ∨ t.field = some "name") :
    u.text = ρ t.text := by
  rcases h.tag.text with ⟨hc, hf⟩ | ht
  · exact absurd hc (hk.resolve_right hf)
  · exact ht

end Varies

/-! ### Lists of trees -/

section

variable {cs ds : List Tree}

/-- What is read of the named trees of a list varies as what is read of each. -/
theorem Varied.flatMap {α β : Type} {R : α → β → Prop} {read : Tree → List α}
    {read' : Tree → List β} (h : Varied ρ g cs ds)
    (hnode : ∀ c d, Varies ρ g c d → List.Forall₂ R (read c) (read' d))
    (hcomment : ∀ c : Tree, c.isComment = true → c.children = [] → read c = []) :
    List.Forall₂ R ((cs.filter isNamed).flatMap read) ((ds.filter isNamed).flatMap read') := by
  induction h with
  | nil => exact List.Forall₂.nil
  | @comment c cs ds hk _ hc _ ih =>
    by_cases hn : c.isNamed = true
    · rw [List.filter_cons_of_pos hn, List.flatMap_cons, hcomment c hk hc]
      exact ih
    · rw [List.filter_cons_of_neg hn]
      exact ih
  | @node c d cs ds ht hs _ _ ih =>
    have hnamed : d.isNamed = c.isNamed := ht.isNamed
    by_cases hn : c.isNamed = true
    · rw [List.filter_cons_of_pos hn, List.filter_cons_of_pos (hnamed.trans hn), List.flatMap_cons,
        List.flatMap_cons]
      exact List.rel_append (hnode c d ⟨ht, hs⟩) ih
    · rw [List.filter_cons_of_neg hn, List.filter_cons_of_neg (by rw [hnamed]; exact hn)]
      exact ih

/-- What is picked out of a list of trees varies with it, if no comment without a
field is picked. -/
theorem Varied.filter {P : Tree → Bool} (h : Varied ρ g cs ds)
    (hnode : ∀ c d, Varies ρ g c d → P d = P c)
    (hcomment : ∀ c : Tree, c.isComment = true → c.field = none → P c = false) :
    List.Forall₂ (Varies ρ g) (cs.filter P) (ds.filter P) := by
  induction h with
  | nil => exact List.Forall₂.nil
  | comment hk hf _ _ ih =>
    rw [List.filter_cons_of_neg (by rw [hcomment _ hk hf]; exact Bool.false_ne_true)]
    exact ih
  | @node c d cs ds ht hs _ _ ih =>
    have hP : P d = P c := hnode c d ⟨ht, hs⟩
    by_cases hc : P c = true
    · rw [List.filter_cons_of_pos hc, List.filter_cons_of_pos (hP.trans hc)]
      exact List.Forall₂.cons ⟨ht, hs⟩ ih
    · rw [List.filter_cons_of_neg hc, List.filter_cons_of_neg (by rw [hP]; exact hc)]
      exact ih

theorem Varied.any {P : Tree → Bool} (h : Varied ρ g cs ds)
    (hnode : ∀ c d, Varies ρ g c d → P d = P c)
    (hcomment : ∀ c : Tree, c.isComment = true → P c = false) : ds.any P = cs.any P := by
  induction h with
  | nil => rfl
  | comment hk _ _ _ ih => rw [List.any_cons, hcomment _ hk, Bool.false_or, ih]
  | node ht hs _ _ ih => rw [List.any_cons, List.any_cons, hnode _ _ ⟨ht, hs⟩, ih]

end

/-! ### Children -/

namespace Varies

variable {t u : Tree}

/-- The children of a kind that are picked out. -/
theorem filter_kind (h : Varies ρ g t u) {kind : String} (hne : kind ≠ "comment") :
    List.Forall₂ (Varies ρ g) (t.namedChildren.filter fun c => c.kind == kind)
      (u.namedChildren.filter fun c => c.kind == kind) := by
  unfold namedChildren
  rw [List.filter_filter, List.filter_filter]
  refine h.children.filter (fun c d hcd => ?_) fun c hk _ => ?_
  · rw [hcd.kind, hcd.isNamed]
  · rw [beq_eq_false_iff_ne.mpr (kind_ne_of_isComment hk hne), Bool.false_and]

theorem childrenByField (h : Varies ρ g t u) (name : String) :
    List.Forall₂ (Varies ρ g) (t.childrenByField name) (u.childrenByField name) := by
  refine h.children.filter (fun c d hcd => ?_) fun c _ hf => ?_
  · rw [hcd.field]
  · rw [hf]
    rfl

theorem kept (h : Varies ρ g t u) : List.Forall₂ (Varies ρ g) t.kept u.kept :=
  h.children.filter (fun _ _ hcd => hcd.isKept) fun _ hk _ => isKept_of_isComment hk

/-- A field has a first child in both trees or in neither. -/
theorem childByField? (h : Varies ρ g t u) (name : String) :
    t.childByField? name = none ∧ u.childByField? name = none ∨
      ∃ c d, t.childByField? name = some c ∧ u.childByField? name = some d ∧ Varies ρ g c d ∧
        c.field = some name := by
  have hfield := h.childrenByField name
  unfold Tree.childrenByField at hfield
  unfold Tree.childByField?
  rw [← List.head?_filter, ← List.head?_filter]
  cases hfs : t.children.filter fun c => c.field == some name with
  | nil =>
    rw [hfs] at hfield
    rw [List.forall₂_nil_left_iff.mp hfield]
    exact Or.inl ⟨rfl, rfl⟩
  | cons c cs =>
    rw [hfs] at hfield
    obtain ⟨d, ds, hcd, -, hds⟩ := List.forall₂_cons_left_iff.mp hfield
    have hc : c ∈ t.children.filter fun c => c.field == some name := by
      rw [hfs]
      exact List.mem_cons_self
    have hcf := (List.mem_filter.mp hc).2
    rw [hds]
    exact Or.inr ⟨c, d, rfl, rfl, hcd, beq_iff_eq.mp hcf⟩

theorem hasToken (h : Varies ρ g t u) {token : String} (hne : token ≠ "comment") :
    u.hasToken token = t.hasToken token := by
  refine h.children.any (fun c d hcd => ?_) fun c hk => ?_
  · rw [hcd.kind, hcd.isNamed]
  · rw [beq_eq_false_iff_ne.mpr (kind_ne_of_isComment hk hne), Bool.and_false]

end Varies

/-! ### Names -/

/-- The texts of nodes that are no comments, or stand for names, are renamed. -/
theorem map_text_varies {cs ds : List Tree} (h : List.Forall₂ (Varies ρ g) cs ds)
    (hc : ∀ c ∈ cs, c.kind ≠ "comment" ∨ c.field = some "name") :
    ds.map Tree.text = (cs.map Tree.text).map ρ := by
  induction h with
  | nil => rfl
  | cons hcd _ ih =>
    rw [List.map_cons, List.map_cons, List.map_cons, hcd.text (hc _ List.mem_cons_self),
      ih fun d hd => hc d (List.mem_cons_of_mem _ hd)]

namespace Varies

variable {t u : Tree} (h : Varies ρ g t u)

include h

theorem map_text_kind {kind : String} (hne : kind ≠ "comment") :
    (u.namedChildren.filter fun c => c.kind == kind).map Tree.text =
      ((t.namedChildren.filter fun c => c.kind == kind).map Tree.text).map ρ := by
  refine map_text_varies (h.filter_kind hne) fun c hc => Or.inl ?_
  rw [beq_iff_eq.mp (List.mem_filter.mp hc).2]
  exact hne

/-- The text of the first child of a kind. -/
theorem find?_text (kind : String) (hne : kind ≠ "comment") :
    (u.namedChildren.find? fun c => c.kind == kind).map Tree.text =
      ((t.namedChildren.find? fun c => c.kind == kind).map Tree.text).map ρ := by
  have htexts := congrArg List.head? (h.map_text_kind hne)
  simpa only [List.head?_map, List.head?_filter] using htexts

theorem map_text_name :
    (u.childrenByField "name").map Tree.text = ((t.childrenByField "name").map Tree.text).map ρ :=
  map_text_varies (h.childrenByField "name") fun _ hc =>
    Or.inr (beq_iff_eq.mp (List.mem_filter.mp hc).2)

theorem identifiers_eq : identifiers u = (identifiers t).map ρ := by
  unfold identifiers
  rw [h.kind]
  by_cases hk : t.kind = "identifier"
  · have hne : t.kind ≠ "comment" := by rw [hk]; decide
    rw [if_pos hk, if_pos hk, h.text (Or.inl hne)]
    rfl
  · rw [if_neg hk, if_neg hk]
    exact h.map_text_kind (by decide)

theorem identifiersOf_eq (field : String) :
    identifiersOf u field = (identifiersOf t field).map ρ := by
  unfold identifiersOf
  rcases h.childByField? field with ⟨ht, hu⟩ | ⟨c, d, ht, hu, hcd, -⟩
  · rw [ht, hu]
    rfl
  · rw [ht, hu]
    exact hcd.identifiers_eq

theorem parameterNamesOf_eq : parameterNamesOf u = (parameterNamesOf t).map ρ := by
  unfold parameterNamesOf Tree.childrenByField
  rw [List.filter_filter, List.filter_filter]
  have hnames := h.children.filter (P := fun c => c.kind == "identifier" && c.field == some "name")
    (fun c d hcd => by rw [hcd.kind, hcd.field])
    fun c _ hf => by rw [hf]; exact Bool.and_false _
  refine map_text_varies hnames fun c hc => Or.inr ?_
  have hfields := (List.mem_filter.mp hc).2
  rw [Bool.and_eq_true] at hfields
  exact beq_iff_eq.mp hfields.2

theorem parameterNames_eq : parameterNames u = (parameterNames t).map ρ := by
  unfold parameterNames
  rw [h.kind]
  by_cases hk : t.kind = "parameter_list"
  · rw [if_pos hk, if_pos hk]
    have hnames : List.Forall₂ (fun a b => ρ a = b) (t.namedChildren.flatMap parameterNamesOf)
        (u.namedChildren.flatMap parameterNamesOf) := by
      refine h.children.flatMap (fun c d hcd => ?_) fun c _ hc => ?_
      · rw [hcd.parameterNamesOf_eq, List.forall₂_map_right_iff]
        exact List.forall₂_same.mpr fun _ _ => rfl
      -- a comment has no children, so it has no names
      · rw [parameterNamesOf, Tree.childrenByField, hc]
        rfl
    rw [← List.forall₂_map_left_iff, List.forall₂_eq_eq_eq] at hnames
    exact hnames.symm
  · rw [if_neg hk, if_neg hk]
    rfl

theorem parametersOf_eq (field : String) : parametersOf u field = (parametersOf t field).map ρ := by
  unfold parametersOf
  rcases h.childByField? field with ⟨ht, hu⟩ | ⟨c, d, ht, hu, hcd, -⟩
  · rw [ht, hu]
    rfl
  · rw [ht, hu]
    exact hcd.parameterNames_eq

theorem declaredNames_eq : declaredNames u = (declaredNames t).map ρ := by
  have htoken : u.hasToken ":=" = t.hasToken ":=" := h.hasToken (by decide)
  unfold declaredNames
  rw [h.form, htoken]
  cases t.form <;> try rfl
  case shortVar => exact h.identifiersOf_eq "left"
  case valueSpec => exact h.map_text_name
  case rangeClause | receive =>
    by_cases ht : t.hasToken ":=" = true
    · simp only [ht, ↓reduceIte]
      exact h.identifiersOf_eq "left"
    · simp only [ht, Bool.false_eq_true, ↓reduceIte]
      rfl

theorem openingNames_eq : openingNames u = (openingNames t).map ρ := by
  unfold openingNames
  rw [h.form]
  cases t.form <;> try rfl
  case funcLiteral =>
    simp only [h.parametersOf_eq, List.map_append]
  case typeSwitch => exact h.identifiersOf_eq "alias"

end Varies

end Tree

/-! ### Scopes -/

/-- The scopes of the renamed names. -/
def Scopes.rename (ρ : String → String) (s : Scopes) : Scopes := s.map (List.map ρ)

namespace Renames

variable {ρ : String → String} (hρ : Renames ρ)

include hρ

theorem eq_empty_iff (x : String) : ρ x = "" ↔ x = "" := by
  conv_lhs => rw [← hρ.empty]
  exact hρ.injective.eq_iff

theorem eq_blank_iff (x : String) : ρ x = "_" ↔ x = "_" := by
  conv_lhs => rw [← hρ.blank]
  exact hρ.injective.eq_iff

theorem isBindable_eq (x : String) : isBindable (ρ x) = isBindable x := by
  unfold isBindable
  simp only [ne_eq, hρ.eq_empty_iff, hρ.eq_blank_iff]

theorem isLocal_eq (s : Scopes) (x : String) : (s.rename ρ).isLocal (ρ x) = s.isLocal x := by
  unfold Scopes.isLocal Scopes.rename
  rw [List.any_map]
  refine congrArg (List.any s) (funext fun scope => ?_)
  rw [Function.comp_apply, Bool.eq_iff_iff, List.contains_iff_mem, List.contains_iff_mem]
  exact List.mem_map_of_injective hρ.injective

theorem bind_eq (names : List String) (s : Scopes) :
    (s.rename ρ).bind (names.map ρ) = (s.bind names).rename ρ := by
  cases s with
  | nil => rfl
  | cons innermost outer =>
    have hfilter : (names.map ρ).filter isBindable =
        (names.filter isBindable).map ρ := by
      rw [List.filter_map]
      exact congrArg _ (List.filter_congr fun x _ => hρ.isBindable_eq x)
    show ((names.map ρ).filter isBindable ++ innermost.map ρ) :: outer.map (List.map ρ) = _
    rw [hfilter, ← List.map_append]
    rfl

end Renames

namespace Tree.Varies

variable {ρ : String → String} {g : Position → Position} {t u : Tree} (hρ : Renames ρ)
  (h : Varies ρ g t u)

include hρ h

theorem enter_eq (s : Scopes) : enter u (s.rename ρ) = (enter t s).rename ρ := by
  unfold enter
  rw [h.form, h.openingNames_eq, ← hρ.bind_eq]
  cases t.form.opensScope <;> rfl

theorem leave_eq (s : Scopes) : leave u (s.rename ρ) = (leave t s).rename ρ := by
  unfold leave
  rw [h.form, h.declaredNames_eq, hρ.bind_eq]
  cases t.form.opensScope with
  | false => rfl
  | true => exact (List.map_drop ..).symm

theorem callee?_eq (s : Scopes) : callee? (s.rename ρ) u = (callee? s t).map ρ := by
  unfold callee?
  rw [h.form]
  rcases h.childByField? "function" with ⟨ht, hu⟩ | ⟨c, d, ht, hu, hcd, -⟩
  · rw [ht, hu]
    cases t.form <;> rfl
  · rw [ht, hu]
    cases t.form <;> try rfl
    by_cases hk : c.kind = "identifier"
    · have hne : c.kind ≠ "comment" := by rw [hk]; decide
      simp only [hcd.kind, hk, hcd.text (Or.inl hne), hρ.isLocal_eq, decide_true, Bool.true_and]
      cases s.isLocal c.text <;> rfl
    · simp [hcd.kind, hk]

end Tree.Varies

/-! ### Nodes -/

/-- Facts with their names renamed and less of their position. -/
def Facts.vary (ρ : String → String) (g : Position → Position) (f : Facts) : Facts :=
  { f with position := g f.position, label := f.label.map ρ, callee := f.callee.map ρ }

/-- A tree of nodes with its names renamed and less of its positions. -/
def Node.vary (ρ : String → String) (g : Position → Position) : Node → Node :=
  Node.relabel (Facts.vary ρ g)

/-- The state of a conversion with its names renamed. -/
def Conversion.rename (ρ : String → String) (s : Conversion) : Conversion :=
  ⟨s.next, s.scopes.rename ρ⟩

section

variable {ρ : String → String} {g : Position → Position} {t u : Tree}

theorem logicalOperator?_varies (h : Tree.Varies ρ g t u) :
    logicalOperator? u = logicalOperator? t := by
  unfold logicalOperator?
  rcases h.childByField? "operator" with ⟨ht, hu⟩ | ⟨c, d, ht, hu, hcd, -⟩
  · rw [ht, hu]
  · rw [ht, hu]
    simp only [hcd.kind]

/-- What a node says of itself varies with the tree. -/
theorem facts_varies (h : Tree.Varies ρ g t u) (path : String) (parent : Form) (i : Nat)
    (callee : Option String) :
    (facts path parent i (callee.map ρ) u).vary id g =
      (facts path parent i callee t).vary ρ g := by
  have hplace : g (u.position path) = g (t.position path) := h.tag.place path
  have hrange : (u.children.any fun c => c.isKept && c.form == .rangeClause) =
      t.children.any fun c => c.isKept && c.form == .rangeClause := by
    refine h.children.any (fun c d hcd => ?_) fun c hk => ?_
    · rw [hcd.isKept, hcd.form]
    · rw [Tree.isKept_of_isComment hk, Bool.false_and]
  have hlabel := h.find?_text "label_name" (by decide)
  unfold facts
  rw [h.form, hrange, hlabel, logicalOperator?_varies h]
  cases t.form <;> try simp [Facts.vary, hplace]
  cases logicalOperator? t <;> simp [hplace]

/-! ### The children that are picked -/

variable {F F' : Node → Node}

theorem slot_varied {cs ds : List Tree} (h : Tree.Varied ρ g cs ds) (name : String) :
    ∀ {ns ms : List Node}, ms.map F' = ns.map F →
      (slot name ds ms).map F' = (slot name cs ns).map F := by
  induction h with
  | nil => exact fun _ => rfl
  | @comment c cs ds hk hf _ _ ih =>
    intro ns ms hns
    have hkept : c.isKept = false := Tree.isKept_of_isComment hk
    have hslot : slot name (c :: cs) ns = slot name cs ns := by
      rw [slot.eq_def]
      simp [hkept, hf]
    rw [hslot]
    exact ih hns
  | @node c d cs ds ht hs _ _ ih =>
    intro ns ms hns
    have hv : Tree.Varies ρ g c d := ⟨ht, hs⟩
    unfold slot
    rw [hv.isKept, hv.field]
    by_cases hc : c.isKept = true
    · rw [if_pos hc, if_pos hc]
      cases ns with
      | nil =>
        rw [List.map_nil, List.map_eq_nil_iff] at hns
        rw [hns]
        rfl
      | cons n ns =>
        cases ms with
        | nil => exact absurd hns (by simp)
        | cons m ms =>
          rw [List.map_cons, List.map_cons, List.cons.injEq] at hns
          dsimp only
          by_cases hf : c.field = some name
          · rw [if_pos hf, if_pos hf]
            exact congrArg some hns.1
          · rw [if_neg hf, if_neg hf]
            exact ih hns.2
    · rw [if_neg hc, if_neg hc]
      by_cases hf : c.field = some name
      · rw [if_pos hf, if_pos hf]
        rfl
      · rw [if_neg hf, if_neg hf]
        exact ih hns

theorem clauses_varies (h : Tree.Varies ρ g t u) {ns ms : List Node}
    (hns : ms.map F' = ns.map F) :
    (clauses u.children ms).map F' = (clauses t.children ns).map F := by
  have hkept := h.kept
  unfold clauses
  show ((((u.kept.zip ms).filter fun p => p.1.form.isCase).map Prod.snd).map F') =
    (((t.kept.zip ns).filter fun p => p.1.form.isCase).map Prod.snd).map F
  generalize t.kept = cs at hkept
  generalize u.kept = ds at hkept
  induction hkept generalizing ns ms with
  | nil => rfl
  | @cons c d cs ds hcd _ ih =>
    cases ns with
    | nil =>
      rw [List.map_nil, List.map_eq_nil_iff] at hns
      rw [hns]
      rfl
    | cons n ns =>
      cases ms with
      | nil => exact absurd hns (by simp)
      | cons m ms =>
        rw [List.map_cons, List.map_cons, List.cons.injEq] at hns
        have htail := ih hns.2
        simp only [List.zip_cons_cons, List.filter_cons, hcd.form]
        by_cases hcase : c.form.isCase = true
        · simp only [if_pos hcase, List.map_cons, htail, hns.1]
        · simp only [if_neg hcase, htail]

/-- The body and the alternative of a node vary with its children. -/
theorem slots_varies (h : Tree.Varies ρ g t u) {ns ms : List Node} (hns : ms.map F' = ns.map F) :
    (slots u ms).1.map F' = (slots t ns).1.map F ∧
      (slots u ms).2.map F' = (slots t ns).2.map F := by
  have hslot : ∀ name, (slot name u.children ms).map F' = (slot name t.children ns).map F :=
    fun name => slot_varied h.children name hns
  have hlist : ∀ name, (slot name u.children ms).toList.map F' =
      (slot name t.children ns).toList.map F := by
    intro name
    have := congrArg Option.toList (hslot name)
    rwa [Option.toList_map, Option.toList_map] at this
  have hclauses := clauses_varies h hns
  unfold slots
  rw [h.form]
  cases t.form <;> first | exact ⟨rfl, rfl⟩ | skip
  case ifStatement => exact ⟨hlist _, hslot _⟩
  case forStatement | funcLiteral => exact ⟨hlist _, rfl⟩
  case expressionSwitch | selectStatement => exact ⟨hclauses, rfl⟩

end

/-! ### Conversions -/

section

variable (path : String) {ρ : String → String} {g : Position → Position} (hρ : Renames ρ)

include hρ

/-- A node varies with its tree, if the nodes of its children do. -/
theorem convert_of_children {t u : Tree} (h : Tree.Varies ρ g t u)
    (hchildren : ∀ (parent : Form) (s : Conversion),
      (convertAll path parent u.children (s.rename ρ)).1.map (Node.vary id g) =
          (convertAll path parent t.children s).1.map (Node.vary ρ g) ∧
        (convertAll path parent u.children (s.rename ρ)).2 =
          (convertAll path parent t.children s).2.rename ρ)
    (parent : Form) (s : Conversion) :
    (convert path parent u (s.rename ρ)).1.vary id g = (convert path parent t s).1.vary ρ g ∧
      (convert path parent u (s.rename ρ)).2 = (convert path parent t s).2.rename ρ := by
  have henter : enter u (s.rename ρ).scopes = (enter t s.scopes).rename ρ := h.enter_eq hρ s.scopes
  have hinside : (s.rename ρ).inside u = (s.inside t).rename ρ :=
    congrArg (Conversion.mk (s.next + 1)) henter
  obtain ⟨hnodes, hstate⟩ := hchildren t.form (s.inside t)
  have hkept : convertKept path u (s.rename ρ) =
      convertAll path t.form u.children ((s.inside t).rename ρ) := by
    rw [convertKept, Tree.kept, convertAll_kept, h.form, hinside]
  have hkept' : convertKept path t s = convertAll path t.form t.children (s.inside t) := by
    rw [convertKept, Tree.kept, convertAll_kept]
  rw [convert_eq, convert_eq, hkept, hkept', henter, h.callee?_eq hρ]
  constructor
  · obtain ⟨hbody, halternative⟩ := slots_varies h hnodes
    unfold Node.vary at hnodes hbody halternative ⊢
    rw [Node.relabel_node, Node.relabel_node, hnodes, hbody, halternative]
    exact congrArg (Node.node · _ _ _) (facts_varies h path parent s.next _)
  · rw [hstate]
    exact congrArg (Conversion.mk _) (h.leave_eq hρ _)

/-- **The conversion of a variation** gives the nodes of the trees, renamed, from
renamed scopes to renamed scopes. -/
theorem convertAll_varied {cs ds : List Tree} (h : Tree.Varied ρ g cs ds) :
    ∀ (parent : Form) (s : Conversion),
      (convertAll path parent ds (s.rename ρ)).1.map (Node.vary id g) =
          (convertAll path parent cs s).1.map (Node.vary ρ g) ∧
        (convertAll path parent ds (s.rename ρ)).2 = (convertAll path parent cs s).2.rename ρ := by
  induction h with
  | nil => exact fun _ _ => ⟨rfl, rfl⟩
  | @comment c cs ds hk _ _ _ ih =>
    intro parent s
    have hkept : c.isKept = false := Tree.isKept_of_isComment hk
    rw [convertAll, if_neg (Bool.eq_false_iff.mp hkept)]
    exact ih parent s
  | @node c d cs ds ht hs _ ihs ih =>
    intro parent s
    have hv : Tree.Varies ρ g c d := ⟨ht, hs⟩
    by_cases hc : c.isKept = true
    · obtain ⟨hnode, hstate⟩ := convert_of_children path hρ hv ihs parent s
      obtain ⟨hnodes, hstate'⟩ := ih parent (convert path parent c s).2
      rw [convertAll_cons path parent hc, convertAll_cons path parent (hv.isKept.trans hc), hstate]
      constructor
      · rw [List.map_cons, List.map_cons, hnode, hnodes]
      · exact hstate'
    · rw [convertAll, convertAll, if_neg hc, if_neg (by rw [hv.isKept]; exact hc)]
      exact ih parent s

theorem convert_varies {t u : Tree} (h : Tree.Varies ρ g t u) (parent : Form) (s : Conversion) :
    (convert path parent u (s.rename ρ)).1.vary id g = (convert path parent t s).1.vary ρ g ∧
      (convert path parent u (s.rename ρ)).2 = (convert path parent t s).2.rename ρ :=
  convert_of_children path hρ h (convertAll_varied path hρ h.children) parent s

end

end GoComplexity
