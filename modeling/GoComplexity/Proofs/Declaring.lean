/-
# What a conversion leaves in the scopes

A conversion is given a stack of scopes and hands one on.  The two differ at
most in the innermost scope, which has grown: by the names that are declared in
the tree with no node above the declaration, up to the root, that opens a scope.
A conversion passes over tokens and comments; where these have nothing below
them, it passes over no declaration.

Key definitions: `Tree.DeclaresOpenly`, `Tree.HasBareTokens`.
Key theorems: `Tree.scopeOf?_eq_none_iff`, `Tree.exists_at?_of_declares`,
`scopes_convert_added`.
-/
import GoComplexity.Proofs.Visibility

namespace GoComplexity

namespace Tree

/-! ### Declarations outside of all scopes -/

/-- Whether a node of a tree declares a name, while no node above it in the tree
opens a scope. -/
def DeclaresOpenly (t : Tree) (x : String) : Prop :=
  ∃ q b, t.at? q = some b ∧ b.Declares x ∧
    ∀ r a, Above r q → t.at? r = some a → ¬ a.OpensScope

/-- An address is outside of all scopes if nothing above it opens one. -/
theorem scopeOf?_eq_none_iff : ∀ {q : List Nat} {t b : Tree}, t.at? q = some b →
    (t.scopeOf? q = none ↔ ∀ r a, Above r q → t.at? r = some a → ¬ a.OpensScope)
  | [], t, b, _ => by
    rw [scopeOf?]
    exact iff_of_true rfl fun r a hr => absurd hr (not_above_nil r)
  | i :: q, t, b, h => by
    obtain ⟨c, hc, hb⟩ := exists_of_at?_cons h
    rw [scopeOf?_cons_eq_none_iff hc, scopeOf?_eq_none_iff hb]
    constructor
    · rintro ⟨hbelow, htop⟩ r a hr ha
      cases r with
      | nil => exact Option.some.inj ha ▸ htop
      | cons j r =>
        obtain ⟨rfl, habove⟩ := above_cons_iff.mp hr
        rw [at?_cons, hc, Option.bind_some] at ha
        exact hbelow r a habove ha
    · intro hall
      refine ⟨fun r a hr ha => ?_, hall [] t (above_nil_cons i q) rfl⟩
      have ha' : t.at? (i :: r) = some a := by rw [at?_cons, hc, Option.bind_some, ha]
      exact hall (i :: r) a (above_cons_iff.mpr ⟨rfl, hr⟩) ha'

theorem exposes_iff_declaresOpenly (t : Tree) (x : String) : t.Exposes x ↔ t.DeclaresOpenly x := by
  constructor
  · rintro ⟨q, b, hb, hx, hq⟩
    exact ⟨q, b, hb, hx, (scopeOf?_eq_none_iff hb).mp hq⟩
  · rintro ⟨q, b, hb, hx, hq⟩
    exact ⟨q, b, hb, hx, (scopeOf?_eq_none_iff hb).mpr hq⟩

/-- Whether the tokens and comments of a tree have nothing below them. -/
def HasBareTokens (t : Tree) : Prop := ∀ u ∈ t.preorder, u.isKept = false → u.children = []

theorem HasBareTokens.child {t c : Tree} (h : t.HasBareTokens) (hc : c ∈ t.children) :
    c.HasBareTokens := by
  intro u hu
  have hmem : u ∈ t.preorder := by
    rw [preorder_eq]
    exact List.mem_cons_of_mem _ (List.mem_flatMap.mpr ⟨c, hc, hu⟩)
  exact h u hmem

/-- **No declaration is overlooked.** Every node of a tree that declares a name
is at an address, if tokens and comments have nothing below them. -/
theorem exists_at?_of_declares {t b : Tree} {x : String} (h : t.HasBareTokens)
    (hb : b ∈ t.preorder) (hx : b.Declares x) : ∃ q, t.at? q = some b := by
  induction t using keptInduction with
  | node t ih =>
    rw [preorder_eq, List.mem_cons, List.mem_flatMap] at hb
    rcases hb with rfl | ⟨c, hc, hb⟩
    · exact ⟨[], rfl⟩
    · by_cases hk : c.isKept = true
      · have hkept : c ∈ t.kept := List.mem_filter.mpr ⟨hc, hk⟩
        obtain ⟨q, hq⟩ := ih c hkept (h.child hc) hb
        obtain ⟨i, hi⟩ := List.getElem?_of_mem hkept
        have hat : t.at? (i :: q) = some b := by rw [at?_cons, hi, Option.bind_some, hq]
        exact ⟨i :: q, hat⟩
      -- a token or a comment is alone in its tree, and declares nothing
      · have hself : c ∈ c.preorder := by rw [preorder_eq]; exact List.mem_cons_self
        have hbare : c.children = [] := h.child hc c hself (Bool.not_eq_true _ ▸ hk)
        rw [preorder_eq, hbare, List.flatMap_nil, List.mem_singleton] at hb
        exact absurd (hb ▸ hbare) hx.children_ne_nil

/-- A tree whose root opens a scope adds nothing to the scope in which it stands. -/
theorem exported_eq_nil {t : Tree} (h : t.OpensScope) : t.exported = [] := by
  rw [exported_eq, if_pos ((opensScope_form_iff t).mpr h)]

end Tree

/-! ### The stack after a conversion -/

/-- **What a conversion leaves in the scopes.** A conversion hands on the scopes
that it was given, with names added to the innermost one: none if the tree opens
a scope, and else the names that are declared in it, its root included, with no
node above the declaration that opens a scope. -/
theorem scopes_convert_added (path : String) (parent : Form) (t : Tree) (next : Nat)
    (innermost : List String) (outer : Scopes) :
    ∃ added : List String,
      (convert path parent t ⟨next, innermost :: outer⟩).2.scopes =
        (added ++ innermost) :: outer ∧
      (t.OpensScope → added = []) ∧
      ∀ x, x ∈ added ↔ (x ≠ "" ∧ x ≠ "_") ∧ t.DeclaresOpenly x := by
  refine ⟨t.exported, ?_, Tree.exported_eq_nil, fun x => ?_⟩
  · exact scopes_convert path parent t ⟨next, innermost :: outer⟩ innermost outer rfl
  · rw [Tree.mem_exported_iff, isBindable_iff, Tree.exposes_iff_declaresOpenly]

/-- After `x, _ := a; { y := x }` only `x` is new. -/
example :
    (convert "" .other
      (.node { kind := "statement_list" }
        [.node { kind := "short_var_declaration" }
          [.inField "expression_list" "left" [.ofName "x", .ofName "_"],
            .inField "expression_list" "right" [.ofName "a"]],
          .node { kind := "block" }
            [.node { kind := "short_var_declaration" }
              [.inField "expression_list" "left" [.ofName "y"],
                .inField "expression_list" "right" [.ofName "x"]]]])
      ⟨0, [["a"], ["b"]]⟩).2.scopes = [["x", "a"], ["b"]] := by
  decide +kernel

end GoComplexity
