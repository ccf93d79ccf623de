/-
# Local declarations

Inside a function a name may be declared by its signature, by a function literal
or a switch over types around the place, or by a declaration before the place in
a block that is still open there.  Some of these forms give the name to a value:
then a call through the name has no callee, and no visit of it counts.  The
others give it to a type: a type parameter of the function, or a type declared
before.  Those a conversion does not know, so a call through such a name is
taken for a call of the function of that name.

Key definitions: `Tree.ValueLocalAt`, `Tree.TypeLocalAt`, `Tree.LocalAt`.
Key theorems: `Tree.inScope_of_valueLocalAt`, `callee_localAt`,
`callee_of_local_type`.
-/
import GoComplexity.Outline.Build
import GoComplexity.Proofs.Visibility
import GoComplexity.Score.Cognitive

namespace GoComplexity

namespace Tree

/-! ### The forms of local declaration -/

/-- Whether a field lists a name: alone, or among the items of a list. -/
def Lists (t : Tree) (field x : String) : Prop :=
  ∃ l, t.childByField? field = some l ∧
    (l.kind = "identifier" ∧ l.text = x ∨
      l.kind = "expression_list" ∧ ∃ c ∈ l.namedChildren, c.kind = "identifier" ∧ c.text = x)

/-- Whether a function has a type parameter of the name. -/
def HasTypeParameter (t : Tree) (x : String) : Prop :=
  ∃ l, t.childByField? "type_parameters" = some l ∧ l.kind = "type_parameter_list" ∧
    ∃ d ∈ l.namedChildren, d.Names "identifier" x

/-- Whether a node gives a name to a value, for the rest of its block. -/
inductive DeclaresValue (t : Tree) (x : String) : Prop
  | short (hk : t.kind = "short_var_declaration") (hx : t.Lists "left" x)
  | var (hk : t.kind = "var_spec") (hx : t.Names "identifier" x)
  | const (hk : t.kind = "const_spec") (hx : t.Names "identifier" x)
  | range (hk : t.kind = "range_clause") (ht : t.hasToken ":=" = true) (hx : t.Lists "left" x)
  | receive (hk : t.kind = "receive_statement") (ht : t.hasToken ":=" = true)
    (hx : t.Lists "left" x)

/-- Whether a node gives a name to a type, for the rest of its block. -/
inductive DeclaresType (t : Tree) (x : String) : Prop
  | defined (hk : t.kind = "type_spec") (hx : t.Names "type_identifier" x)
  | equal (hk : t.kind = "type_alias") (hx : t.Names "type_identifier" x)

/-- Whether a node with a property stands before an address, not above it, in a
block that is still open there. -/
def Earlier (t : Tree) (D : Tree → Prop) (p : List Nat) : Prop :=
  ∃ q b, t.at? q = some b ∧ D b ∧ q < p ∧ ¬ q <+: p ∧ ∀ r ∈ t.scopeOf? q, Above r p

/-- Whether an address lies in a child of a node, the two of which have a
property. -/
def Within (t : Tree) (D : Tree → Tree → Prop) (p : List Nat) : Prop :=
  ∃ r i a c, t.at? r = some a ∧ a.kept[i]? = some c ∧ D a c ∧ r ++ [i] <+: p

/-- The body of a function literal, some parameter or result of which has the
name. -/
def IsLiteralBody (x : String) (a c : Tree) : Prop :=
  a.kind = "func_literal" ∧ c.field = some "body" ∧
    (a.HasParameter "parameters" x ∨ a.HasParameter "result" x)

/-- A clause of a switch over types, the alias of which has the name. -/
def IsAliasClause (x : String) (a c : Tree) : Prop :=
  a.kind = "type_switch_statement" ∧ (c.kind = "type_case" ∨ c.kind = "default_case") ∧
    a.Lists "alias" x

/-- Whether at an address of a function's body a name is local to the function
and stands for a value, by any form that does so. -/
inductive ValueLocalAt (f body : Tree) (p : List Nat) (x : String) : Prop
  | receiver (hk : f.kind = "method_declaration") (hx : f.HasParameter "receiver" x)
  | parameter (hx : f.HasParameter "parameters" x)
  | result (hx : f.HasParameter "result" x)
  | literal (h : body.Within (IsLiteralBody x) p)
  | switch (h : body.Within (IsAliasClause x) p)
  | declared (h : body.Earlier (fun b => b.DeclaresValue x) p)

/-- Whether at an address of a function's body a name is local to the function
and stands for a type. -/
inductive TypeLocalAt (f body : Tree) (p : List Nat) (x : String) : Prop
  | parameter (hx : f.HasTypeParameter x)
  | declared (h : body.Earlier (fun b => b.DeclaresType x) p)

/-- Whether at an address of a function's body a name is local to the function.
Neither the empty name nor the blank one is ever declared. -/
def LocalAt (f body : Tree) (p : List Nat) (x : String) : Prop :=
  (x ≠ "" ∧ x ≠ "_") ∧ (f.ValueLocalAt body p x ∨ f.TypeLocalAt body p x)

/-- Whether a node calls the function of a name. -/
def Calls (t : Tree) (x : String) : Prop :=
  t.kind = "call_expression" ∧
    ∃ g, t.childByField? "function" = some g ∧ g.kind = "identifier" ∧ g.text = x

/-- A top-level function or method. -/
def IsFunction (t : Tree) : Prop :=
  t.kind = "function_declaration" ∨ t.kind = "method_declaration"

/-- The names that a function's signature binds for its body. -/
def boundNames (f : Tree) : List String :=
  if f.kind = "method_declaration" then signatureNames ["receiver", "parameters", "result"] f
  else signatureNames ["parameters", "result"] f

/-! ### The forms that a conversion knows -/

variable {t body : Tree} {field x : String} {p : List Nat}

theorem holdsName_of_lists (h : t.Lists field x) : t.HoldsName field x := by
  obtain ⟨l, hl, ⟨hk, hx⟩ | ⟨hk, c, hc, hck, hx⟩⟩ := h
  · exact .alone l hl hk hx
  · have hne : l.kind ≠ "identifier" := by rw [hk]; decide
    exact .listed l c hl hne hc hck hx

theorem declares_of_declaresValue (h : t.DeclaresValue x) : t.Declares x := by
  cases h with
  | short hk hx => exact .short hk (holdsName_of_lists hx)
  | var hk hx =>
    obtain ⟨n, hn, -, hx⟩ := hx
    exact .line (Or.inl hk) n hn hx
  | const hk hx =>
    obtain ⟨n, hn, -, hx⟩ := hx
    exact .line (Or.inr hk) n hn hx
  | range hk ht hx => exact .clause (Or.inl hk) ht (holdsName_of_lists hx)
  | receive hk ht hx => exact .clause (Or.inr hk) ht (holdsName_of_lists hx)

theorem openedAround_of_within {D : Tree → Tree → Prop} (h : body.Within D p)
    (hD : ∀ a c, D a c → a.Opens x) : body.OpenedAround p x := by
  obtain ⟨r, i, a, c, ha, -, hac, hp⟩ := h
  have hr : r <+: p := (List.prefix_append r [i]).trans hp
  have hne : r ≠ p := by
    rintro rfl
    have hlen := hp.length_le
    rw [List.length_append, List.length_singleton] at hlen
    omega
  exact ⟨r, a, ⟨hr, hne⟩, ha, hD a c hac⟩

theorem opens_of_literal {a c : Tree} (h : IsLiteralBody x a c) : a.Opens x := by
  obtain ⟨hk, -, hx | hx⟩ := h
  · exact .parameter hk hx
  · exact .result hk hx

theorem opens_of_alias {a c : Tree} (h : IsAliasClause x a c) : a.Opens x :=
  .switch h.1 (holdsName_of_lists h.2.2)

theorem mem_boundNames {f : Tree} (hfield : field = "parameters" ∨ field = "result" ∨
      field = "receiver" ∧ f.kind = "method_declaration") (hx : f.HasParameter field x) :
    x ∈ f.boundNames := by
  have hmem := mem_parametersOf_iff.mpr hx
  unfold boundNames signatureNames
  by_cases hk : f.kind = "method_declaration"
  · rw [if_pos hk]
    refine List.mem_flatMap.mpr ⟨field, ?_, hmem⟩
    rcases hfield with rfl | rfl | ⟨rfl, -⟩ <;> simp
  · rw [if_neg hk]
    refine List.mem_flatMap.mpr ⟨field, ?_, hmem⟩
    rcases hfield with rfl | rfl | ⟨-, hm⟩
    · simp
    · simp
    · exact absurd hm hk

/-- **A local value is in scope.** Every form that gives a name to a value is one
that a conversion knows. -/
theorem inScope_of_valueLocalAt {f : Tree} (hx : x ≠ "" ∧ x ≠ "_")
    (h : f.ValueLocalAt body p x) : body.InScope f.boundNames p x := by
  cases h with
  | receiver hk h => exact Or.inl (mem_boundNames (Or.inr (Or.inr ⟨rfl, hk⟩)) h)
  | parameter h => exact Or.inl (mem_boundNames (Or.inl rfl) h)
  | result h => exact Or.inl (mem_boundNames (Or.inr (Or.inl rfl)) h)
  | literal h =>
    have hopen := openedAround_of_within h fun _ _ => opens_of_literal
    exact Or.inr ⟨hx.1, hx.2, Or.inl hopen⟩
  | switch h =>
    have hopen := openedAround_of_within h fun _ _ => opens_of_alias
    exact Or.inr ⟨hx.1, hx.2, Or.inl hopen⟩
  | declared h =>
    obtain ⟨q, b, hb, hd, hlt, hpre, hscope⟩ := h
    have hdeclares := declares_of_declaresValue hd
    exact Or.inr ⟨hx.1, hx.2, Or.inr ⟨q, b, hb, hdeclares, hlt, hpre, hscope⟩⟩

end Tree

/-! ### Calls through local names -/

variable (path : String) (doc : List String) (next : Nat)

/-- The body of a function is converted with the names of its signature. -/
theorem exists_declarationOf? {f body : Tree} (hf : f.IsFunction)
    (hb : f.childByField? "body" = some body) :
    ∃ d next', declarationOf? path doc f next = some (d, next') ∧
      d.body = some (convert path f.form body ⟨next, [f.boundNames]⟩).1 := by
  unfold declarationOf? Tree.boundNames
  rcases hf with hk | hk <;> simp [hk, convertBody, hb]

/-- A visit of a call without a callee counts nothing. -/
theorem Visitor.step_of_callee_eq_none (identity : Option String) (v : Visitor) {w : Work}
    (hk : w.node.kind = .call) (hc : w.node.callee = none) : (v.step identity w).1 = v := by
  unfold step
  rw [hk, hc]
  cases identity <;> rfl

/-- **Calls through local names.** At every address of a function's body there is
a node, and if it has a callee, that name is local there at most as a type.  If
the address is that of a call through a name that is local as a value, then the
node has no callee, and a visit of it counts nothing in any function. -/
theorem callee_localAt {f body c : Tree} {p : List Nat} (hf : f.IsFunction)
    (hb : f.childByField? "body" = some body) (hc : body.at? p = some c) :
    ∃ d next' n m, declarationOf? path doc f next = some (d, next') ∧ d.body = some n ∧
      n.at? p = some m ∧
      (∀ x, m.callee = some x →
        (f.LocalAt body p x ↔ (x ≠ "" ∧ x ≠ "_") ∧ f.TypeLocalAt body p x)) ∧
      ∀ x, c.Calls x → x ≠ "" ∧ x ≠ "_" → f.ValueLocalAt body p x →
        m.callee = none ∧ ∀ identity v k e, (Visitor.step identity v ⟨m, k, e⟩).1 = v := by
  obtain ⟨d, next', hd, hbody⟩ := exists_declarationOf? path doc next hf hb
  have hs : (⟨next, [f.boundNames]⟩ : Conversion).scopes ≠ [] := List.cons_ne_nil _ _
  obtain ⟨parent', s', hm, -, -⟩ := exists_convert_at? path p f.form body _ c hs hc
  obtain ⟨m', hm', hcallee⟩ := callee_convert_iff path f.form hc hs
  obtain rfl := Option.some.inj (hm.symm.trans hm')
  have hvalue : ∀ x, (convert path parent' c s').1.callee = some x → x ≠ "" ∧ x ≠ "_" →
      ¬ f.ValueLocalAt body p x := by
    intro x hx hname hlocal
    obtain ⟨-, g, -, -, -, hout⟩ := (hcallee x).mp hx
    rw [isLocal_singleton, Tree.mem_seenAt_iff p body hc x, isBindable_iff, and_assoc] at hout
    exact hout (Tree.inScope_of_valueLocalAt hname hlocal)
  refine ⟨d, next', _, _, hd, hbody, hm, ?_, ?_⟩
  · intro x hx
    constructor
    · rintro ⟨hname, hlocal | hlocal⟩
      · exact absurd hlocal (hvalue x hx hname)
      · exact ⟨hname, hlocal⟩
    · exact fun ⟨hname, hlocal⟩ => ⟨hname, Or.inr hlocal⟩
  · rintro x ⟨hk, g, hg, -, hgx⟩ hname hlocal
    have hform : c.form = .call := Tree.form_of_kind (f := .call) hk (by decide)
    have hnone : (convert path parent' c s').1.callee = none := by
      refine Option.eq_none_iff_forall_ne_some.mpr fun y hy => ?_
      obtain ⟨-, g', hg', -, hgy, -⟩ := (hcallee y).mp hy
      have hyx : y = x := by rw [← hgy, ← hgx, Option.some.inj (hg'.symm.trans hg)]
      exact hvalue y hy (hyx ▸ hname) (hyx ▸ hlocal)
    have hkind : (convert path parent' c s').1.kind = .call := by
      rw [convert_eq]
      show (facts path parent' _ _ c).kind = .call
      rw [facts, hform]
    exact ⟨hnone, fun identity v k e => Visitor.step_of_callee_eq_none identity v hkind hnone⟩

/-- The body `{ g(); type f int; return f(0) }`. -/
def shadowingBody : Tree :=
  Tree.inField "block" "body"
    [.node { kind := "statement_list" }
      [.node { kind := "expression_statement" } [Tree.callOf none "g"],
        .node { kind := "type_declaration" }
          [.node { kind := "type_spec" }
            [.node { kind := "type_identifier", field := some "name", text := some "f" } [],
              .node { kind := "type_identifier", field := some "type", text := some "int" } []]],
        .node { kind := "return_statement" }
          [.node { kind := "expression_list" }
            [.node { kind := "call_expression" }
              [.node { kind := "identifier", field := some "function", text := some "f" } [],
                Tree.inField "argument_list" "arguments"
                  [.node { kind := "int_literal", text := some "0" } []]]]]]]

/-- The function `func f(g func()) any` with that body. -/
def shadowing : Tree :=
  .node { kind := "function_declaration" }
    [.node { kind := "identifier", field := some "name", text := some "f" } [],
      Tree.inField "parameter_list" "parameters"
        [.node { kind := "parameter_declaration" }
          [.node { kind := "identifier", field := some "name", text := some "g" } [],
            Tree.inField "function_type" "type" [Tree.inField "parameter_list" "parameters" []]]],
      .node { kind := "type_identifier", field := some "result", text := some "any" } [],
      shadowingBody]

/-- The call of the parameter has no callee. -/
theorem callee_localAt_shadowing :
    shadowing.IsFunction ∧ shadowing.childByField? "body" = some shadowingBody ∧
      ∃ d next' n m, declarationOf? "" [] shadowing 0 = some (d, next') ∧ d.body = some n ∧
        n.at? [0, 0, 0] = some m ∧ m.callee = none := by
  have hf : shadowing.IsFunction := Or.inl rfl
  have hb : shadowing.childByField? "body" = some shadowingBody := rfl
  have hc : shadowingBody.at? [0, 0, 0] = some (Tree.callOf none "g") := rfl
  have hg : shadowing.HasParameter "parameters" "g" :=
    ⟨_, rfl, rfl, _, List.mem_singleton_self _, _, List.mem_singleton_self _, rfl, rfl⟩
  obtain ⟨d, next', n, m, hd, hn, hm, -, hvalue⟩ := callee_localAt "" [] 0 hf hb hc
  have hcall : (Tree.callOf none "g").Calls "g" := ⟨rfl, _, rfl, rfl, rfl⟩
  exact ⟨hf, hb, d, next', n, m, hd, hn, hm,
    (hvalue "g" hcall (by decide) (.parameter hg)).1⟩

/-- A type hides the function of its name, and a conversion to the type is still
taken for a call of the function. -/
theorem callee_of_local_type :
    shadowing.LocalAt shadowingBody [0, 2, 0, 0] "f" ∧
      ∃ d next' n m, declarationOf? "" [] shadowing 0 = some (d, next') ∧ d.body = some n ∧
        n.at? [0, 2, 0, 0] = some m ∧ m.callee = some "f" ∧
        (Visitor.step (some "f") {} ⟨m, 0, false⟩).1.total = 1 := by
  have hspec : shadowingBody.at? [0, 1, 0] = some
      (.node { kind := "type_spec" }
        [.node { kind := "type_identifier", field := some "name", text := some "f" } [],
          .node { kind := "type_identifier", field := some "type", text := some "int" } []]) := rfl
  have hscope : ∀ r ∈ shadowingBody.scopeOf? [0, 1, 0], Tree.Above r [0, 2, 0, 0] := by
    intro r hr
    obtain rfl := Option.some.inj hr
    exact Tree.above_nil_cons 0 [2, 0, 0]
  have htype : shadowing.TypeLocalAt shadowingBody [0, 2, 0, 0] "f" :=
    .declared ⟨[0, 1, 0], _, hspec, .defined rfl ⟨_, List.mem_singleton_self _, rfl, rfl⟩,
      by decide, by decide, hscope⟩
  have hf : shadowing.IsFunction := Or.inl rfl
  have hb : shadowing.childByField? "body" = some shadowingBody := rfl
  obtain ⟨d, next', hd, hbody⟩ := exists_declarationOf? "" [] 0 hf hb
  have hnode : ((convert "" shadowing.form shadowingBody ⟨0, [shadowing.boundNames]⟩).1.at?
      [0, 2, 0, 0]).map (fun m => (m.callee, (Visitor.step (some "f") {} ⟨m, 0, false⟩).1.total)) =
        some (some "f", 1) := by decide +kernel
  obtain ⟨m, hm, hfacts⟩ := Option.map_eq_some_iff.mp hnode
  obtain ⟨hcallee, htotal⟩ := Prod.mk.inj hfacts
  exact ⟨⟨by decide, Or.inr htype⟩, d, next', _, m, hd, hbody, hm, hcallee, htotal⟩

end GoComplexity
