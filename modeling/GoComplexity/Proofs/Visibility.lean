/-
# The scope of a local name

At an address a name is in scope if it is a parameter of the body, if a node
above the address opens its inside with it, or if a node before the address,
not above it, declares it in a scope that is still open there.  A conversion
resolves a call through a bare identifier by this rule: so no name leaks out of
its scope, and a declaration does not see its own names.

Key definitions: `Tree.scopeOf?`, `Tree.OpenedAround`, `Tree.DeclaredBefore`,
`Tree.InScope`.
Key theorems: `Tree.mem_seenAt_iff`, `Tree.inScope_iff_mem_seenAt`,
`callee_iff_not_inScope`.
-/
import GoComplexity.Proofs.Binding

namespace GoComplexity

namespace Tree

/-- Whether an address lies above another one. -/
def Above (r p : List Nat) : Prop := r <+: p ∧ r ≠ p

/-- The address of the innermost node above an address that opens a scope. -/
def scopeOf? : Tree → List Nat → Option (List Nat)
  | _, [] => none
  | t, i :: p =>
    match t.kept[i]?.bind fun c => c.scopeOf? p with
    | some r => some (i :: r)
    | none => if t.OpensScope then some [] else none

/-- Whether a node above an address opens its inside with a name. -/
def OpenedAround (t : Tree) (p : List Nat) (x : String) : Prop :=
  ∃ r a, Above r p ∧ t.at? r = some a ∧ a.Opens x

/-- Whether a node before an address, not above it, declares a name in a scope
that lies above the address, or in none. -/
def DeclaredBefore (t : Tree) (p : List Nat) (x : String) : Prop :=
  ∃ q b, t.at? q = some b ∧ b.Declares x ∧ q < p ∧ ¬ q <+: p ∧
    ∀ r ∈ t.scopeOf? q, Above r p

/-- Whether a name is in scope at an address of a body with the given
parameters. -/
def InScope (t : Tree) (parameters : List String) (p : List Nat) (x : String) : Prop :=
  x ∈ parameters ∨ x ≠ "" ∧ x ≠ "_" ∧ (t.OpenedAround p x ∨ t.DeclaredBefore p x)

/-! ### One step down -/

theorem not_above_nil (r : List Nat) : ¬ Above r [] := fun h => h.2 (List.prefix_nil.mp h.1)

theorem above_nil_cons (i : Nat) (p : List Nat) : Above [] (i :: p) :=
  ⟨List.nil_prefix, (List.cons_ne_nil i p).symm⟩

theorem above_cons_iff {j i : Nat} {r p : List Nat} :
    Above (j :: r) (i :: p) ↔ j = i ∧ Above r p := by
  unfold Above
  rw [List.cons_prefix_cons, ne_eq, List.cons.injEq]
  tauto

variable {t c : Tree} {i : Nat}

theorem scopeOf?_cons (hc : t.kept[i]? = some c) (p : List Nat) :
    t.scopeOf? (i :: p) =
      match c.scopeOf? p with
      | some r => some (i :: r)
      | none => if t.OpensScope then some [] else none := by
  rw [scopeOf?, hc]
  rfl

theorem openedAround_cons (hc : t.kept[i]? = some c) (p : List Nat) (x : String) :
    t.OpenedAround (i :: p) x ↔ t.Opens x ∨ c.OpenedAround p x := by
  constructor
  · rintro ⟨r, a, hr, ha, hx⟩
    cases r with
    | nil => exact Or.inl (Option.some.inj ha ▸ hx)
    | cons j r =>
      obtain ⟨rfl, hr'⟩ := above_cons_iff.mp hr
      rw [at?_cons, hc, Option.bind_some] at ha
      exact Or.inr ⟨r, a, hr', ha, hx⟩
  · rintro (hx | ⟨r, a, hr, ha, hx⟩)
    · exact ⟨[], t, above_nil_cons i p, rfl, hx⟩
    · have ha' : t.at? (i :: r) = some a := by rw [at?_cons, hc, Option.bind_some, ha]
      exact ⟨i :: r, a, above_cons_iff.mpr ⟨rfl, hr⟩, ha', hx⟩

theorem scopeOf?_cons_eq_none_iff (hc : t.kept[i]? = some c) (p : List Nat) :
    t.scopeOf? (i :: p) = none ↔ c.scopeOf? p = none ∧ ¬ t.OpensScope := by
  rw [scopeOf?_cons hc]
  cases c.scopeOf? p <;> simp

/-- Below one child, a scope is above if it is above in the child. -/
theorem scope_above_cons_iff (hc : t.kept[i]? = some c) (q p : List Nat) :
    (∀ r ∈ t.scopeOf? (i :: q), Above r (i :: p)) ↔ ∀ r ∈ c.scopeOf? q, Above r p := by
  have hnil := above_nil_cons i p
  rw [scopeOf?_cons hc]
  cases c.scopeOf? q with
  | some r => simp [above_cons_iff]
  | none => by_cases ho : t.OpensScope <;> simp [ho, hnil]

/-- Below another child, a scope is above if it is not in that child. -/
theorem scope_above_cons_iff_of_ne {j : Nat} (hc : t.kept[j]? = some c) (hne : j ≠ i)
    (q p : List Nat) :
    (∀ r ∈ t.scopeOf? (j :: q), Above r (i :: p)) ↔ c.scopeOf? q = none := by
  have hnil := above_nil_cons i p
  rw [scopeOf?_cons hc]
  cases c.scopeOf? q with
  | some r => simp [above_cons_iff, hne]
  | none => by_cases ho : t.OpensScope <;> simp [ho, hnil]

/-- Whether a node of a tree declares a name outside of all scopes in the tree. -/
def Exposes (t : Tree) (x : String) : Prop :=
  ∃ q b, t.at? q = some b ∧ b.Declares x ∧ t.scopeOf? q = none

/-- A declaration stands before an address below a child if it stands in an
earlier child, outside of all scopes there, or in the child before the rest of
the address. -/
theorem declaredBefore_cons (hc : t.kept[i]? = some c) (p : List Nat) (x : String) :
    t.DeclaredBefore (i :: p) x ↔
      (∃ j d, j < i ∧ t.kept[j]? = some d ∧ d.Exposes x) ∨ c.DeclaredBefore p x := by
  constructor
  · rintro ⟨q, b, hb, hx, hlt, hpre, hscope⟩
    cases q with
    | nil => exact absurd List.nil_prefix hpre
    | cons j q =>
      obtain ⟨d, hd, hb⟩ := exists_of_at?_cons hb
      rcases List.cons_lt_cons_iff.mp hlt with hji | ⟨rfl, hqp⟩
      -- no scope in another child is still open here
      · have hq := (scope_above_cons_iff_of_ne hd (by omega) q p).mp hscope
        exact Or.inl ⟨j, d, hji, hd, q, b, hb, hx, hq⟩
      · obtain rfl := Option.some.inj (hd.symm.trans hc)
        have hpre' : ¬ q <+: p := fun h => hpre (List.cons_prefix_cons.mpr ⟨rfl, h⟩)
        exact Or.inr ⟨q, b, hb, hx, hqp, hpre', (scope_above_cons_iff hd q p).mp hscope⟩
  · rintro (⟨j, d, hji, hd, q, b, hb, hx, hq⟩ | ⟨q, b, hb, hx, hlt, hpre, hscope⟩)
    · have hb' : t.at? (j :: q) = some b := by rw [at?_cons, hd, Option.bind_some, hb]
      refine ⟨j :: q, b, hb', hx, List.cons_lt_cons_iff.mpr (Or.inl hji), fun h => ?_, ?_⟩
      · have := (List.cons_prefix_cons.mp h).1
        omega
      · exact (scope_above_cons_iff_of_ne hd (by omega) q p).mpr hq
    · have hb' : t.at? (i :: q) = some b := by rw [at?_cons, hc, Option.bind_some, hb]
      exact ⟨i :: q, b, hb', hx, List.cons_lt_cons_iff.mpr (Or.inr ⟨rfl, hlt⟩),
        fun h => hpre (List.cons_prefix_cons.mp h).2, (scope_above_cons_iff hc q p).mpr hscope⟩

/-! ### The rule and the stack -/

/-- A tree exposes what its root declares and what its children expose, unless
the root opens a scope. -/
theorem exposes_iff (t : Tree) (x : String) :
    t.Exposes x ↔ ¬ t.OpensScope ∧ (t.Declares x ∨ ∃ c ∈ t.kept, c.Exposes x) := by
  constructor
  · rintro ⟨q, b, hb, hx, hq⟩
    cases q with
    | nil =>
      obtain rfl := Option.some.inj hb
      exact ⟨hx.not_opensScope, Or.inl hx⟩
    | cons j q =>
      obtain ⟨d, hd, hb⟩ := exists_of_at?_cons hb
      obtain ⟨hq, ho⟩ := (scopeOf?_cons_eq_none_iff hd q).mp hq
      exact ⟨ho, Or.inr ⟨d, List.mem_of_getElem? hd, q, b, hb, hx, hq⟩⟩
  · rintro ⟨ho, hx | ⟨c, hc, q, b, hb, hx, hq⟩⟩
    · exact ⟨[], t, rfl, hx, rfl⟩
    · obtain ⟨j, hj⟩ := List.getElem?_of_mem hc
      have hb' : t.at? (j :: q) = some b := by rw [at?_cons, hj, Option.bind_some, hb]
      exact ⟨j :: q, b, hb', hx, (scopeOf?_cons_eq_none_iff hj q).mpr ⟨hq, ho⟩⟩

/-- A tree adds to its scope the names that it exposes. -/
theorem mem_exported_iff (t : Tree) (x : String) :
    x ∈ t.exported ↔ isBindable x = true ∧ t.Exposes x := by
  induction t using keptInduction with
  | node t ih =>
    have hkept : (∃ c ∈ t.kept, x ∈ c.exported) ↔
        isBindable x = true ∧ ∃ c ∈ t.kept, c.Exposes x := by
      constructor
      · rintro ⟨c, hc, hx⟩
        exact ⟨((ih c hc).mp hx).1, c, hc, ((ih c hc).mp hx).2⟩
      · rintro ⟨hbind, c, hc, hx⟩
        exact ⟨c, hc, (ih c hc).mpr ⟨hbind, hx⟩⟩
    rw [exported_eq, exposes_iff, ← opensScope_form_iff]
    split
    · rename_i ho
      simp [ho]
    · rename_i ho
      rw [List.mem_append, List.mem_filter, mem_declaredNames_iff,
        mem_exportedAll_iff x t.kept fun c => isKept_of_mem_kept, hkept]
      tauto

/-- **The names seen on the way to an address** are those that are opened around
it or declared before it. -/
theorem mem_seenAt_iff : ∀ (p : List Nat) (t : Tree) {c : Tree}, t.at? p = some c → ∀ x,
    x ∈ t.seenAt p ↔ isBindable x = true ∧ (t.OpenedAround p x ∨ t.DeclaredBefore p x)
  | [], t, _, _, x => by
    rw [seenAt]
    refine iff_of_false List.not_mem_nil ?_
    rintro ⟨-, ⟨r, a, hr, -⟩ | ⟨q, b, -, -, hlt, -⟩⟩
    · exact not_above_nil r hr
    · exact List.not_lt_nil q hlt
  | i :: p, t, c, h, x => by
    obtain ⟨d, hd, hc⟩ := exists_of_at?_cons h
    have hbefore : (∃ j e, j < i ∧ t.kept[j]? = some e ∧ x ∈ e.exported) ↔
        isBindable x = true ∧ ∃ j e, j < i ∧ t.kept[j]? = some e ∧ e.Exposes x := by
      constructor
      · rintro ⟨j, e, hji, hj, hx⟩
        obtain ⟨hbind, hx⟩ := (mem_exported_iff e x).mp hx
        exact ⟨hbind, j, e, hji, hj, hx⟩
      · rintro ⟨hbind, j, e, hji, hj, hx⟩
        exact ⟨j, e, hji, hj, (mem_exported_iff e x).mpr ⟨hbind, hx⟩⟩
    rw [seenAt_cons hd, openedAround_cons hd, declaredBefore_cons hd, List.mem_append,
      List.mem_append, List.mem_filter, mem_seenAt_iff p d hc x, mem_exportedAll_take_iff, hbefore,
      mem_openingNames_iff]
    constructor
    · rintro ((⟨hbind, ho | hb⟩ | ⟨hbind, he⟩) | ⟨ho, hbind⟩)
      · exact ⟨hbind, Or.inl (Or.inr ho)⟩
      · exact ⟨hbind, Or.inr (Or.inr hb)⟩
      · exact ⟨hbind, Or.inr (Or.inl he)⟩
      · exact ⟨hbind, Or.inl (Or.inl ho)⟩
    · rintro ⟨hbind, (ho | ho) | he | hb⟩
      · exact Or.inr ⟨ho, hbind⟩
      · exact Or.inl (Or.inl ⟨hbind, Or.inl ho⟩)
      · exact Or.inl (Or.inr ⟨hbind, he⟩)
      · exact Or.inl (Or.inl ⟨hbind, Or.inr hb⟩)

/-- The names in scope are the parameters and those that are seen on the way. -/
theorem inScope_iff_mem_seenAt {p : List Nat} (h : t.at? p = some c) (parameters : List String)
    (x : String) : t.InScope parameters p x ↔ x ∈ parameters ∨ x ∈ t.seenAt p := by
  rw [mem_seenAt_iff p t h x, isBindable_iff, and_assoc]
  rfl

end Tree

/-- **Calls are resolved by scope.** The callee of the node at an address is the
identifier that it calls, if that is not in scope at the address; every other
node has none. -/
theorem callee_iff_not_inScope (path : String) (parent : Form) (parameters : List String)
    (next : Nat) {body c : Tree} {p : List Nat} (h : body.at? p = some c) :
    ∃ n, (convert path parent body ⟨next, [parameters]⟩).1.at? p = some n ∧
      ∀ x, n.callee = some x ↔
        c.kind = "call_expression" ∧ ∃ f, c.childByField? "function" = some f ∧
          f.kind = "identifier" ∧ f.text = x ∧ ¬ body.InScope parameters p x := by
  obtain ⟨n, hn, hcallee⟩ := callee_convert_iff path parent h
    (s := ⟨next, [parameters]⟩) (List.cons_ne_nil _ _)
  have hcall : c.form = .call ↔ c.kind = "call_expression" :=
    (Tree.form_eq_iff (by decide)).trans List.mem_singleton
  refine ⟨n, hn, fun x => ?_⟩
  rw [hcallee, hcall, isLocal_singleton, Tree.inScope_iff_mem_seenAt h]

/-- The block `func(g any) { f := f(); f(); g() }; f()`. -/
def declaredThenCalled : Tree :=
  .node { kind := "block" }
    [.node { kind := "func_literal" }
      [Tree.inField "parameter_list" "parameters"
        [.node { kind := "parameter_declaration" }
          [.node { kind := "identifier", field := some "name", text := some "g" } [],
            .node { kind := "type_identifier", field := some "type", text := some "any" } []]],
        Tree.inField "block" "body"
          [.node { kind := "short_var_declaration" }
            [Tree.inField "expression_list" "left" [Tree.ofName "f"],
              .node { kind := ":=", isNamed := false } [],
              Tree.inField "expression_list" "right" [Tree.callOf none "f"]],
            Tree.callOf none "f", Tree.callOf none "g"]],
      Tree.callOf none "f"]

/-- A declaration is unknown in its own operand and after its block.  Between the two a call of
its name has no callee, and a call of a parameter of the literal has none either. -/
theorem callee_after_declaration :
    let node := (convert "" .other declaredThenCalled ⟨0, [[]]⟩).1
    (∃ n, node.at? [0, 1, 0, 1, 0] = some n ∧ n.callee = some "f") ∧
      (∃ n, node.at? [0, 1, 1] = some n ∧ n.callee = none) ∧
      (∃ n, node.at? [0, 1, 2] = some n ∧ n.callee = none) ∧
      ∃ n, node.at? [1] = some n ∧ n.callee = some "f" := by
  intro node
  have hcalls : ∀ p x, declaredThenCalled.at? p = some (Tree.callOf none x) →
      ∃ n, node.at? p = some n ∧
        n.callee = if x ∈ declaredThenCalled.seenAt p then none else some x := by
    intro p x hp
    obtain ⟨n, hn, hcallee⟩ := callee_iff_not_inScope "" .other [] 0 hp
    refine ⟨n, hn, Option.ext fun y => ?_⟩
    rw [hcallee, Tree.inScope_iff_mem_seenAt hp]
    constructor
    · rintro ⟨-, f, hf, -, hx, hnot⟩
      obtain rfl := Option.some.inj hf
      obtain rfl : x = y := hx
      exact if_neg fun hseen => hnot (Or.inr hseen)
    · intro hy
      split at hy
      · exact nomatch hy
      · rename_i hnot
        obtain rfl := Option.some.inj hy
        exact ⟨rfl, _, rfl, rfl, rfl, fun h => hnot (h.resolve_left List.not_mem_nil)⟩
  obtain ⟨operand, hoperand, hf⟩ := hcalls [0, 1, 0, 1, 0] "f" rfl
  obtain ⟨after, hafter, hf'⟩ := hcalls [0, 1, 1] "f" rfl
  obtain ⟨parameter, hparameter, hg⟩ := hcalls [0, 1, 2] "g" rfl
  obtain ⟨outside, houtside, hf''⟩ := hcalls [1] "f" rfl
  exact ⟨⟨operand, hoperand, hf.trans (if_neg (by decide))⟩,
    ⟨after, hafter, hf'.trans (if_pos (by decide))⟩,
    ⟨parameter, hparameter, hg.trans (if_pos (by decide))⟩,
    ⟨outside, houtside, hf''.trans (if_neg (by decide))⟩⟩

end GoComplexity
