/-
# The names that a node binds

Some nodes declare names for what comes after them, some open their inside with
names, and some open a scope.  A conversion tells them by their forms; here they
are told by their kinds, and by the fields in which the names stand.

Key definitions: `Tree.OpensScope`, `Tree.HoldsName`, `Tree.HasParameter`,
`Tree.Declares`, `Tree.Opens`.
Key theorems: `Tree.form_eq_iff`, `Tree.opensScope_form_iff`,
`Tree.mem_declaredNames_iff`, `Tree.mem_openingNames_iff`.
-/
import GoComplexity.Proofs.Scoping

namespace GoComplexity

theorem isBindable_iff (x : String) : isBindable x = true ↔ x ≠ "" ∧ x ≠ "_" := by
  rw [isBindable, Bool.and_eq_true, decide_eq_true_eq, decide_eq_true_eq]

/-! ### Kinds of node -/

/-- The kinds of node that open a scope. -/
def scopeKinds : List String :=
  ["block", "if_statement", "for_statement", "expression_switch_statement",
    "type_switch_statement", "select_statement", "expression_case", "type_case", "default_case",
    "communication_case", "func_literal"]

theorem Form.kinds_subset_scopeKinds {f : Form} (h : f.opensScope = true) :
    f.kinds ⊆ scopeKinds := by
  cases f <;> first | exact absurd h (by decide) | decide

theorem Form.opensScope_ofKind : ∀ kind ∈ scopeKinds, (ofKind kind).opensScope = true := by
  decide

namespace Tree

/-- Whether a node opens a scope. -/
def OpensScope (t : Tree) : Prop := t.kind ∈ scopeKinds

instance (t : Tree) : Decidable t.OpensScope := inferInstanceAs (Decidable (_ ∈ _))

theorem opensScope_form_iff (t : Tree) : t.form.opensScope = true ↔ t.OpensScope := by
  constructor
  · intro h
    have hne : t.form ≠ .other := fun he => by
      rw [he] at h
      exact absurd h (by decide)
    exact Form.kinds_subset_scopeKinds h (Form.mem_kinds_ofKind hne)
  · exact Form.opensScope_ofKind t.kind

theorem form_of_kind {t : Tree} {f : Form} {kind : String} (hk : t.kind = kind)
    (hf : kind ∈ f.kinds) : t.form = f :=
  Form.ofKind_of_mem_kinds (hk ▸ hf)

/-- A form but that of all others is told by the kinds of node that have it. -/
theorem form_eq_iff {t : Tree} {f : Form} (hf : f ≠ .other) : t.form = f ↔ t.kind ∈ f.kinds := by
  refine ⟨fun h => ?_, Form.ofKind_of_mem_kinds⟩
  rw [← h]
  exact Form.mem_kinds_ofKind (h.trans_ne hf)

/-! ### The fields in which names stand -/

/-- Whether a name stands in a field: the field is the name, or it is no name
and has the name among its own children. -/
inductive HoldsName (t : Tree) (field x : String) : Prop
  | alone (l : Tree) (hl : t.childByField? field = some l) (hk : l.kind = "identifier")
    (hx : l.text = x)
  | listed (l c : Tree) (hl : t.childByField? field = some l) (hk : l.kind ≠ "identifier")
    (hc : c ∈ l.namedChildren) (hck : c.kind = "identifier") (hx : c.text = x)

/-- Whether one of the names of a node, of a kind, is the given one. -/
def Names (t : Tree) (kind x : String) : Prop :=
  ∃ n ∈ t.childrenByField "name", n.kind = kind ∧ n.text = x

/-- Whether the parameter list of a field has a parameter of the name. -/
def HasParameter (t : Tree) (field x : String) : Prop :=
  ∃ l, t.childByField? field = some l ∧ l.kind = "parameter_list" ∧
    ∃ d ∈ l.namedChildren, d.Names "identifier" x

variable {t : Tree} {field x : String}

theorem mem_getD_map_iff {o : Option Tree} {f : Tree → List String} :
    x ∈ (o.map f).getD [] ↔ ∃ l, o = some l ∧ x ∈ f l := by
  cases o <;> simp

theorem mem_identifiers_iff {l : Tree} : x ∈ identifiers l ↔
    l.kind = "identifier" ∧ l.text = x ∨
      l.kind ≠ "identifier" ∧ ∃ c ∈ l.namedChildren, c.kind = "identifier" ∧ c.text = x := by
  unfold identifiers
  by_cases hk : l.kind = "identifier"
  · simp [hk, eq_comm]
  · simp [hk, and_assoc]

theorem mem_identifiersOf_iff : x ∈ identifiersOf t field ↔ t.HoldsName field x := by
  rw [identifiersOf, mem_getD_map_iff]
  constructor
  · rintro ⟨l, hl, h⟩
    rcases mem_identifiers_iff.mp h with ⟨hk, hx⟩ | ⟨hk, c, hc, hck, hx⟩
    · exact .alone l hl hk hx
    · exact .listed l c hl hk hc hck hx
  · rintro (⟨l, hl, hk, hx⟩ | ⟨l, c, hl, hk, hc, hck, hx⟩)
    · exact ⟨l, hl, mem_identifiers_iff.mpr (Or.inl ⟨hk, hx⟩)⟩
    · exact ⟨l, hl, mem_identifiers_iff.mpr (Or.inr ⟨hk, c, hc, hck, hx⟩)⟩

theorem mem_parameterNamesOf_iff : x ∈ parameterNamesOf t ↔ t.Names "identifier" x := by
  unfold parameterNamesOf Names
  simp only [List.mem_map, List.mem_filter, beq_iff_eq, and_assoc]

theorem mem_parameterNames_iff : x ∈ parameterNames t ↔
    t.kind = "parameter_list" ∧ ∃ d ∈ t.namedChildren, d.Names "identifier" x := by
  unfold parameterNames
  split
  · rename_i hk
    simp only [hk, true_and, List.mem_flatMap, mem_parameterNamesOf_iff]
  · rename_i hk
    exact iff_of_false List.not_mem_nil fun h => hk h.1

theorem mem_parametersOf_iff : x ∈ parametersOf t field ↔ t.HasParameter field x := by
  rw [parametersOf, mem_getD_map_iff]
  exact exists_congr fun l => and_congr_right fun _ => mem_parameterNames_iff

/-! ### Nodes that declare -/

/-- Whether a node declares a name for what comes after it: a short declaration
those on its left, a line of variables or constants those in the field of its
names, and a range clause or a received statement, if it declares at all, those
on its left. -/
inductive Declares (t : Tree) (x : String) : Prop
  | short (hk : t.kind = "short_var_declaration") (hx : t.HoldsName "left" x)
  -- in a line of constants the commas stand in the field, too
  | line (hk : t.kind = "var_spec" ∨ t.kind = "const_spec") (n : Tree)
    (hn : n ∈ t.childrenByField "name") (hx : n.text = x)
  | clause (hk : t.kind = "range_clause" ∨ t.kind = "receive_statement")
    (ht : t.hasToken ":=" = true) (hx : t.HoldsName "left" x)

/-- **The names that a node declares**, told by its kind. -/
theorem mem_declaredNames_iff : x ∈ declaredNames t ↔ t.Declares x := by
  constructor
  · intro h
    have hkind : t.form ≠ .other → t.kind ∈ t.form.kinds := Form.mem_kinds_ofKind
    have hclause : t.kind = "range_clause" ∨ t.kind = "receive_statement" →
        x ∈ (if t.hasToken ":=" then identifiersOf t "left" else []) → t.Declares x := by
      intro hk hx
      split at hx
      · rename_i ht
        exact .clause hk ht (mem_identifiersOf_iff.mp hx)
      · exact absurd hx List.not_mem_nil
    unfold declaredNames at h
    cases hf : t.form <;> rw [hf] at h hkind
    case shortVar =>
      have hk := List.mem_singleton.mp (hkind (by decide))
      exact .short hk (mem_identifiersOf_iff.mp h)
    case valueSpec =>
      have hk := hkind (by decide)
      simp only [Form.kinds, List.mem_cons, List.not_mem_nil, or_false] at hk
      obtain ⟨n, hn, hx⟩ := List.mem_map.mp h
      exact .line hk n hn hx
    case rangeClause =>
      have hk := List.mem_singleton.mp (hkind (by decide))
      exact hclause (Or.inl hk) h
    case receive =>
      have hk := List.mem_singleton.mp (hkind (by decide))
      exact hclause (Or.inr hk) h
    -- the other forms declare nothing
    all_goals exact absurd h List.not_mem_nil
  · intro h
    unfold declaredNames
    cases h with
    | short hk hx =>
      rw [form_of_kind (f := .shortVar) hk (by decide)]
      exact mem_identifiersOf_iff.mpr hx
    | line hk n hn hx =>
      have hf : t.form = .valueSpec := by
        rcases hk with hk | hk <;> exact form_of_kind hk (by decide)
      rw [hf]
      exact List.mem_map.mpr ⟨n, hn, hx⟩
    | clause hk ht hx =>
      have hmem := mem_identifiersOf_iff.mpr hx
      rcases hk with hk | hk
      · rw [form_of_kind (f := .rangeClause) hk (by decide)]
        simpa only [ht, ↓reduceIte] using hmem
      · rw [form_of_kind (f := .receive) hk (by decide)]
        simpa only [ht, ↓reduceIte] using hmem

/-- What declares a name opens no scope. -/
theorem Declares.not_opensScope (h : t.Declares x) : ¬ t.OpensScope := by
  intro hopens
  have hnil := declaredNames_eq_nil ((opensScope_form_iff t).mpr hopens)
  exact List.not_mem_nil (hnil ▸ mem_declaredNames_iff.mpr h)

/-- What declares a name has children. -/
theorem Declares.children_ne_nil (h : t.Declares x) : t.children ≠ [] := by
  have hfield : ∀ {field l}, t.childByField? field = some l → t.children ≠ [] :=
    fun hl => List.ne_nil_of_mem (List.mem_of_find?_eq_some hl)
  have hleft : t.HoldsName "left" x → t.children ≠ [] := by
    rintro (⟨l, hl, -, -⟩ | ⟨l, -, hl, -, -, -, -⟩) <;> exact hfield hl
  cases h with
  | short _ hx => exact hleft hx
  | line _ n hn _ => exact List.ne_nil_of_mem (List.mem_filter.mp hn).1
  | clause _ _ hx => exact hleft hx

/-! ### Nodes that open their inside -/

/-- Whether a node opens its inside with a name: a function literal with those of
its parameters and results, and a switch over types with its alias. -/
inductive Opens (t : Tree) (x : String) : Prop
  | parameter (hk : t.kind = "func_literal") (hx : t.HasParameter "parameters" x)
  | result (hk : t.kind = "func_literal") (hx : t.HasParameter "result" x)
  | switch (hk : t.kind = "type_switch_statement") (hx : t.HoldsName "alias" x)

/-- **The names that a node opens its inside with**, told by its kind. -/
theorem mem_openingNames_iff : x ∈ openingNames t ↔ t.Opens x := by
  constructor
  · intro h
    have hkind : t.form ≠ .other → t.kind ∈ t.form.kinds := Form.mem_kinds_ofKind
    unfold openingNames at h
    cases hf : t.form <;> rw [hf] at h hkind
    case funcLiteral =>
      have hk := List.mem_singleton.mp (hkind (by decide))
      rcases List.mem_append.mp h with h | h
      · exact .parameter hk (mem_parametersOf_iff.mp h)
      · exact .result hk (mem_parametersOf_iff.mp h)
    case typeSwitch =>
      have hk := List.mem_singleton.mp (hkind (by decide))
      exact .switch hk (mem_identifiersOf_iff.mp h)
    -- the other forms open their inside with nothing
    all_goals exact absurd h List.not_mem_nil
  · intro h
    unfold openingNames
    cases h with
    | parameter hk hx =>
      rw [form_of_kind (f := .funcLiteral) hk (by decide)]
      exact List.mem_append_left _ (mem_parametersOf_iff.mpr hx)
    | result hk hx =>
      rw [form_of_kind (f := .funcLiteral) hk (by decide)]
      exact List.mem_append_right _ (mem_parametersOf_iff.mpr hx)
    | switch hk hx =>
      rw [form_of_kind (f := .typeSwitch) hk (by decide)]
      exact mem_identifiersOf_iff.mpr hx

end Tree
end GoComplexity
