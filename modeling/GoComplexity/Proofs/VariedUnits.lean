/-
# The units of a variation

The measured units of a renamed outline are the renamed units of the outline,
and they have the same scores: a renamed unit calls itself by its renamed name
where the unit did so by its name.  Which units a comment leaves out does not
change, since comments do not.

Key definitions: `MeasuredUnit.Varies`, `Stat.Varies`.
Key theorems: `keepsScores_vary`, `Outline.measure_vary`.
-/
import GoComplexity.Proofs.VariedOutline
import GoComplexity.Score.Unit

namespace GoComplexity

variable {ρ : String → String} {g : Position → Position}

/-- A renaming keeps the scores of a function that calls itself by a renamed name. -/
theorem keepsScores_vary (hρ : Renames ρ) (identity : Option String) :
    KeepsScores (Facts.vary ρ g) id identity (identity.map ρ) where
  injective := Function.injective_id
  index _ := rfl
  kind _ := rfl
  operator _ := rfl
  isDefault _ := rfl
  grouping _ := rfl
  label f := by
    show (f.label.map ρ).getD "" = "" ↔ _
    cases f.label with
    | none => exact Iff.rfl
    | some l => exact hρ.eq_empty_iff l
  callee f := by
    show ((identity.map ρ).isSome && f.callee.map ρ == identity.map ρ) = _
    have hsame : f.callee.map ρ = identity.map ρ ↔ f.callee = identity :=
      (Option.map_injective hρ.injective).eq_iff
    rw [Option.isSome_map, Bool.eq_iff_iff, Bool.and_eq_true, Bool.and_eq_true, beq_iff_eq,
      beq_iff_eq, hsame]

/-- How a measured unit may vary: under a renaming that changes nothing it keeps
its display name, and if all of a position is kept, its place. -/
structure MeasuredUnit.Varies (ρ : String → String) (g : Position → Position)
    (a b : MeasuredUnit) : Prop where
  name : ρ = id → b.name = a.name
  package : b.package = ρ a.package
  body : b.body = a.body.map (Node.vary ρ g)
  doc : b.doc = a.doc
  position : g = id → b.position = a.position
  identity : b.identity = a.identity.map ρ

/-- How the score of a unit may vary. -/
structure Stat.Varies (ρ : String → String) (g : Position → Position) (a b : Stat) : Prop where
  function : ρ = id → b.function = a.function
  package : b.package = ρ a.package
  cyclomatic : b.cyclomatic = a.cyclomatic
  cognitive : b.cognitive = a.cognitive
  position : g = id → b.position = a.position

theorem MeasuredUnit.Varies.measure (hρ : Renames ρ) {a b : MeasuredUnit} (h : a.Varies ρ g b) :
    a.measure.Varies ρ g b.measure where
  function := h.name
  package := h.package
  cyclomatic := by
    have hbody : GoComplexity.cyclomatic b.body = GoComplexity.cyclomatic a.body := by
      rw [h.body]
      exact cyclomatic_relabel (keepsScores_vary hρ a.identity) a.body
    exact congrArg Nat.cast hbody
  cognitive := by
    have hbody : GoComplexity.cognitive b.identity b.body =
        GoComplexity.cognitive a.identity a.body := by
      rw [h.identity, h.body]
      exact cognitive_relabel (keepsScores_vary hρ a.identity) a.body
    exact congrArg Nat.cast hbody
  position := h.position

section

variable (ρ g) (package : String)

/-- What is listed of the changed elements of a list. -/
theorem forall₂_flatMap_map {α β : Type} {R : β → β → Prop} {list list' : α → List β} {f : α → α}
    (h : ∀ a, List.Forall₂ R (list a) (list' (f a))) (as : List α) :
    List.Forall₂ R (as.flatMap list) ((as.map f).flatMap list') := by
  induction as with
  | nil => exact List.Forall₂.nil
  | cons a as ih => exact List.rel_append (h a) ih

theorem ValueSpec.units_vary (doc : List String) (spec : ValueSpec) :
    List.Forall₂ (MeasuredUnit.Varies ρ g) (spec.units package doc)
      ((spec.vary ρ g).units (ρ package) doc) := by
  unfold ValueSpec.units ValueSpec.vary
  cases spec.names with
  | nil => exact List.Forall₂.nil
  | cons name names =>
    have hkind : ∀ v : Node, (v.vary ρ g).kind = v.kind := fun v => by
      rw [Node.vary, Node.kind, Node.facts_relabel]; rfl
    have hfilter : ((spec.values.map (Node.vary ρ g)).filter fun v => v.kind == .functionLiteral) =
        (spec.values.filter fun v => v.kind == .functionLiteral).map (Node.vary ρ g) := by
      rw [List.filter_map]
      exact congrArg _ (List.filter_congr fun v _ => by rw [Function.comp_apply, hkind])
    rw [hfilter, List.map_cons]
    dsimp only
    rw [List.map_map, List.forall₂_map_left_iff, List.forall₂_map_right_iff,
      List.forall₂_same]
    refine fun v _ => ⟨fun hid => ?_, rfl, ?_, rfl, fun hid => ?_, rfl⟩
    · rw [hid]; rfl
    · show (v.vary ρ g).body.head? = v.body.head?.map (Node.vary ρ g)
      rw [Node.vary, Node.body_relabel, List.head?_map]
    · show (v.vary ρ g).position = v.position
      rw [Node.vary, Node.position, Node.facts_relabel, hid]; rfl

theorem Declaration.units_vary (d : Declaration) :
    List.Forall₂ (MeasuredUnit.Varies ρ g) (d.units package)
      ((d.vary ρ g).units (ρ package)) := by
  have hname : ρ = id → (d.vary ρ g).displayName = d.displayName := by
    intro hid
    unfold Declaration.displayName Declaration.vary
    rw [hid, Receiver.rename_id, Option.map_id]
    rfl
  have hunit : ∀ identity, MeasuredUnit.Varies ρ g
      ⟨d.displayName, package, d.body, d.doc, d.position, identity⟩
      ⟨(d.vary ρ g).displayName, ρ package, d.body.map (Node.vary ρ g), d.doc, d.position,
        identity.map ρ⟩ :=
    fun _ => ⟨hname, rfl, rfl, rfl, fun _ => rfl, rfl⟩
  have hkind : (d.vary ρ g).kind = d.kind := rfl
  unfold Declaration.units
  rw [hkind]
  cases d.kind with
  | function => exact List.Forall₂.cons (hunit (some d.name)) List.Forall₂.nil
  | method => exact List.Forall₂.cons (hunit none) List.Forall₂.nil
  | value => exact forall₂_flatMap_map (ValueSpec.units_vary ρ g package d.doc) d.specs

/-- **The scores of a renamed outline** are those of the outline. -/
theorem Outline.measure_vary (hρ : Renames ρ) (o : Outline) :
    List.Forall₂ (Stat.Varies ρ g) o.measure (o.vary ρ g).measure := by
  have hunits : List.Forall₂ (MeasuredUnit.Varies ρ g) o.units (o.vary ρ g).units :=
    forall₂_flatMap_map (Declaration.units_vary ρ g o.package) o.declarations
  have hkept := List.rel_filter (p := fun u => !hasIgnore u.doc) (q := fun u => !hasIgnore u.doc)
    (R := MeasuredUnit.Varies ρ g)
    (fun _ _ h => iff_of_eq (congrArg (fun doc => (!hasIgnore doc) = true) h.doc.symm)) hunits
  exact List.rel_map (fun _ _ h => h.measure hρ) hkept

end

end GoComplexity
