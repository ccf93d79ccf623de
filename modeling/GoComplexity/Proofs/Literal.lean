/-
# A function and a variable that holds it

The functions `func f(…) … {…}` and `var f = func(…) … {…}` are outlined on two
ways.  The body of the first is converted with the names of its signature known;
the second is converted as an expression without any, its literal binds these
names when it is entered, and the measured body is found again among the nodes of
the literal.  Nothing between the signature and the body declares a name, so both
bodies are converted from states that agree on every name that can be declared,
and both functions have the same scores.

Key definitions: `Tree.IsFunctionNamed`, `Tree.IsVariableNamed`, `Tree.IsLiteralOf`,
`Documented.unitsFrom`.
Key theorems: `slot_convertAll`, `convert_parent`, `body_convert_literal`,
`scores_literal`.
-/
import GoComplexity.Proofs.Blanking
import GoComplexity.Proofs.Independence
import GoComplexity.Proofs.Visibility
import GoComplexity.Proofs.VariedUnits

namespace GoComplexity

/-! ### The two declarations -/

namespace Tree

/-- The function declaration of a name. -/
structure IsFunctionNamed (t : Tree) (f : String) : Prop where
  kind : t.kind = "function_declaration"
  name : nameOf t = f

/-- The variable declaration of one name with one initial value. -/
structure IsVariableNamed (v : Tree) (f : String) (value : Tree) : Prop where
  kind : v.kind = "var_declaration"
  line : ∃ spec, specsOf "var_spec" v = [spec] ∧
    (spec.childrenByField "name").map text = [f] ∧ valuesOf spec = [value]

/-- A function literal with the parameters, the result and the body of a function.
They may stand elsewhere and have fewer comments; outside of scopes of their own,
the parameters and the result declare nothing. -/
structure IsLiteralOf (l t : Tree) : Prop where
  kind : l.kind = "func_literal"
  parts : ∀ name ∈ ["parameters", "result", "body"],
    Option.Rel (Varies id fun _ => default) (t.childByField? name) (l.childByField? name)
  body : ∃ b ∈ t.childByField? "body", b.isKept = true
  signature : ∀ c ∈ l.kept, c.field ≠ some "body" → ∀ x, ¬ c.Exposes x

end Tree

/-- A tree in which nothing is declared exposes no name. -/
theorem Tree.not_exposes {t : Tree} (h : ∀ b ∈ t.preorder, declaredNames b = []) (x : String) :
    ¬ t.Exposes x := by
  induction t using Tree.keptInduction with
  | node t ih =>
    rw [preorder_eq] at h
    rw [exposes_iff]
    rintro ⟨-, hx | ⟨c, hc, hx⟩⟩
    · rw [← mem_declaredNames_iff, h t List.mem_cons_self] at hx
      exact absurd hx List.not_mem_nil
    · have hmem : c ∈ t.children := (List.mem_filter.mp hc).1
      exact ih c hc (fun b hb => h b (List.mem_cons_of_mem _ (List.mem_flatMap_of_mem hmem hb))) hx

/-- The units of a declaration whose nodes are numbered from an index on. -/
def Documented.unitsFrom (path package : String) (next : Nat) (p : Documented) :
    List MeasuredUnit :=
  ((declarationOf? path p.doc p.tree next).map fun d => d.1.units package).getD []

/-! ### The body of a literal -/

section

variable (path : String)

/-- The node in a field is the one made of the field's first child, after the
children before it. -/
theorem slot_convertAll (parent : Form) (name : String) {b : Tree} (hb : b.isKept = true) :
    ∀ (cs : List Tree) (s : Conversion), cs.find? (fun c => c.field == some name) = some b →
      slot name cs (convertAll path parent cs s).1 =
        some (convert path parent b
          (convertAll path parent (cs.takeWhile fun c => c.field != some name) s).2).1
  | [], _, h => absurd h (by simp)
  | c :: cs, s, h => by
    rw [List.find?_cons] at h
    by_cases hf : c.field = some name
    · rw [beq_iff_eq.mpr hf] at h
      obtain rfl := Option.some.inj h
      have hstop : (c.field != some name) = false := by simp [hf]
      rw [convertAll_cons path parent hb, slot, if_pos hb, List.takeWhile_cons, hstop]
      exact if_pos hf
    · rw [beq_eq_false_iff_ne.mpr hf] at h
      have hgo : (c :: cs).takeWhile (fun c => c.field != some name) =
          c :: cs.takeWhile fun c => c.field != some name := by
        rw [List.takeWhile_cons, bne_iff_ne.mpr hf]
        rfl
      have ih := slot_convertAll parent name hb cs
      rw [hgo]
      by_cases hc : c.isKept = true
      · rw [convertAll_cons path parent hc, convertAll_cons path parent hc, slot, if_pos hc]
        dsimp only
        rw [if_neg hf, ih _ h]
      · rw [convertAll, if_neg hc, convertAll, if_neg hc, slot.eq_def]
        dsimp only
        rw [if_neg hc, if_neg hf, ih _ h]

/-- The form above a node shows only in whether a default clause is one of a
select. -/
theorem convert_parent {parent parent' : Form} (h : parent ≠ .selectStatement)
    (h' : parent' ≠ .selectStatement) (t : Tree) (s : Conversion) :
    convert path parent t s = convert path parent' t s := by
  have hfacts : ∀ i callee, facts path parent i callee t = facts path parent' i callee t := by
    intro i callee
    unfold facts
    rw [if_neg h, if_neg h']
  rw [convert_eq, convert_eq, hfacts]

/-- Trees that expose nothing add nothing to the scopes. -/
theorem scopes_convertAll_of_not_exposes (parent : Form) {cs : List Tree}
    (h : ∀ c ∈ cs, c.isKept = true → ∀ x, ¬ c.Exposes x) {s : Conversion} (hs : s.scopes ≠ []) :
    (convertAll path parent cs s).2.scopes = s.scopes := by
  obtain ⟨top, rest, hs⟩ := List.exists_cons_of_ne_nil hs
  have hkept : ∀ c ∈ cs.filter Tree.isKept, c.isKept = true := fun c hc => (List.mem_filter.mp hc).2
  have hnone : Tree.exportedAll (cs.filter Tree.isKept) = [] := by
    refine List.eq_nil_iff_forall_not_mem.mpr fun x hx => ?_
    obtain ⟨c, hc, hxc⟩ := (Tree.mem_exportedAll_iff x _ hkept).mp hx
    exact h c (List.mem_filter.mp hc).1 (hkept c hc) x ((Tree.mem_exported_iff c x).mp hxc).2
  have hall := scopes_convertAll path parent (cs.filter Tree.isKept)
    (fun c hc => ⟨hkept c hc, fun s' top' rest' => scopes_convert path parent c s' top' rest'⟩)
    s top rest hs
  rw [← convertAll_kept, hall, hnone, hs]
  rfl

/-- The measured body of a literal is converted with the names of its signature
known. -/
theorem body_convert_literal {l b : Tree} (hkind : l.kind = "func_literal")
    (hbody : l.childByField? "body" = some b) (hb : b.isKept = true)
    (hsignature : ∀ c ∈ l.kept, c.field ≠ some "body" → ∀ x, ¬ c.Exposes x)
    (parent : Form) (next : Nat) :
    ∃ next', (convert path parent l ⟨next, [[]]⟩).1.body =
      [(convert path .funcLiteral b
        ⟨next', [(signatureNames ["parameters", "result"] l).filter isBindable, []]⟩).1] := by
  have hform : l.form = .funcLiteral := congrArg Form.ofKind hkind
  have henter : enter l [[]] =
      [(signatureNames ["parameters", "result"] l).filter isBindable, []] := by
    rw [enter_cons, hform, openingNames, hform]
    simp [signatureNames, Form.opensScope]
  have hbefore : ∀ c ∈ l.children.takeWhile (fun c => c.field != some "body"),
      c.isKept = true → ∀ x, ¬ c.Exposes x := by
    intro c hc hkept
    have hfield : c.field ≠ some "body" :=
      bne_iff_ne.mp (List.mem_takeWhile_imp (p := fun c : Tree => c.field != some "body") hc)
    have hmem : c ∈ l.kept := List.mem_filter.mpr ⟨List.takeWhile_subset _ hc, hkept⟩
    exact hsignature c hmem hfield
  have hscopes := scopes_convertAll_of_not_exposes path .funcLiteral hbefore
    (s := Conversion.inside ⟨next, [[]]⟩ l) (by rw [Conversion.inside, henter]; simp)
  have hslot := slot_convertAll path .funcLiteral "body" hb l.children
    (Conversion.inside ⟨next, [[]]⟩ l) hbody
  have hnodes : (convertKept path l ⟨next, [[]]⟩).1 =
      (convertAll path .funcLiteral l.children (Conversion.inside ⟨next, [[]]⟩ l)).1 := by
    rw [convertKept, Tree.kept, convertAll_kept, hform]
  refine ⟨(convertAll path .funcLiteral
    (l.children.takeWhile fun c => c.field != some "body")
    (Conversion.inside ⟨next, [[]]⟩ l)).2.next, ?_⟩
  rw [convert_eq]
  show (slots l (convertKept path l ⟨next, [[]]⟩).1).1 = _
  rw [slots, hform, hnodes]
  dsimp only
  rw [hslot, Option.toList_some, ← henter]
  exact congrArg (fun s => [(convert path .funcLiteral b s).1])
    (congrArg (Conversion.mk _) hscopes)

end

/-! ### Both functions -/

section

variable (path : String) {f : String} {t v l : Tree}

/-- The unit of a function declaration. -/
theorem unitsFrom_function (ht : t.IsFunctionNamed f) (package : String) (next : Nat)
    (doc : List String) :
    Documented.unitsFrom path package next ⟨doc, t⟩ =
      [{ name := f, package := package, doc := doc, position := t.position path,
         body := (convertBody path (signatureNames ["parameters", "result"] t) t next).1,
         identity := some f }] := by
  rw [Documented.unitsFrom, declarationOf?]
  simp only [ht.kind, ht.name]
  rfl

/-- The unit of a variable that holds a function literal. -/
theorem unitsFrom_variable (hv : v.IsVariableNamed f l) (hl : l.kind = "func_literal")
    (package : String) (next : Nat) (doc : List String) :
    ∃ parent, Documented.unitsFrom path package next ⟨doc, v⟩ =
      [ValueSpec.unitOf package doc f (convert path parent l ⟨next, [[]]⟩).1] := by
  obtain ⟨spec, hspec, hnames, hvalues⟩ := hv.line
  have hform : l.form = .funcLiteral := congrArg Form.ofKind hl
  have hkind : (convert path spec.form l ⟨next, [[]]⟩).1.kind = .functionLiteral := by
    rw [convert_eq]
    show (facts path spec.form next _ l).kind = _
    rw [facts, hform]
  refine ⟨spec.form, ?_⟩
  rw [Documented.unitsFrom, declarationOf?]
  simp only [hv.kind, hspec, convertSpecs_cons, hvalues, convertValues_cons, hnames]
  simp [convertSpecs, convertValues, Declaration.units, ValueSpec.units, hkind]

/-- A literal binds the names that the signature of the function binds. -/
theorem signatureNames_literal (hl : l.IsLiteralOf t) :
    signatureNames ["parameters", "result"] l = signatureNames ["parameters", "result"] t := by
  have hnames : ∀ name ∈ ["parameters", "result", "body"],
      parametersOf l name = parametersOf t name := by
    intro name hname
    have hpart := hl.parts name hname
    unfold parametersOf
    generalize t.childByField? name = c at hpart
    generalize l.childByField? name = d at hpart
    cases hpart with
    | none => rfl
    | some hcd => rw [Option.map_some, Option.map_some, hcd.parameterNames_eq, List.map_id]
  unfold signatureNames
  exact List.flatMap_congr fun name hname => hnames name (List.mem_append_left ["body"] hname)

/-- The body of a function and that of a literal are converted from states that
agree on every name that can be declared. -/
theorem agrees_signature (names : List String) (n m : Nat) :
    Conversion.Agrees isBindable m n ⟨n, [names]⟩ ⟨m, [names.filter isBindable, []]⟩ where
  next := Nat.add_comm n m
  left := List.cons_ne_nil _ _
  right := List.cons_ne_nil _ _
  isLocal x hx := by
    rw [isLocal_singleton, isLocal_cons, isLocal_singleton, List.mem_filter]
    simp [hx]

/-- Trees of nodes that differ in their positions alone have the same scores. -/
theorem scores_of_vary {g : Position → Position} {n m : Node}
    (h : m.vary id g = n.vary id g) (identity : Option String) :
    cyclomatic (some n) = cyclomatic (some m) ∧
      cognitive identity (some n) = cognitive identity (some m) := by
  have hkeeps := keepsScores_vary (g := g) Renames.id identity
  rw [Option.map_id] at hkeeps
  have hsame : (some m).map (Node.relabel (Facts.vary id g)) =
      (some n).map (Node.relabel (Facts.vary id g)) := congrArg some h
  rw [← cyclomatic_relabel hkeeps, ← hsame, cyclomatic_relabel hkeeps,
    ← cognitive_relabel hkeeps, ← hsame, cognitive_relabel hkeeps]
  exact ⟨rfl, rfl⟩

/-- **The two bodies** have the same scores, each converted in its own way. -/
theorem scores_body (hf : isBindable f = true) (ht : t.IsFunctionNamed f) (hl : l.IsLiteralOf t)
    (parent : Form) (next next' : Nat) :
    ∃ n m, (convertBody path (signatureNames ["parameters", "result"] t) t next).1 = some n ∧
      (convert path parent l ⟨next', [[]]⟩).1.body = [m] ∧
      cyclomatic (some n) = cyclomatic (some m) ∧
      cognitive (some f) (some n) = cognitive (some f) (some m) := by
  obtain ⟨b, hb, hkept⟩ := hl.body
  have hpart := hl.parts "body" (by decide)
  rw [hb] at hpart
  obtain ⟨b', hb', hvaries⟩ : ∃ b', l.childByField? "body" = some b' ∧
      Tree.Varies id (fun _ => default) b b' := by
    cases hl' : l.childByField? "body" with
    | none => rw [hl'] at hpart; nomatch hpart
    | some b' =>
      rw [hl'] at hpart
      cases hpart with
      | some h => exact ⟨b', rfl, h⟩
  obtain ⟨m, hbody⟩ := body_convert_literal path hl.kind hb' (hvaries.isKept.trans hkept)
    hl.signature parent next'
  rw [signatureNames_literal hl] at hbody
  refine ⟨_, _, by rw [convertBody, hb], hbody, ?_⟩
  generalize signatureNames ["parameters", "result"] t = names
  let start : Conversion := ⟨m, [names.filter isBindable, []]⟩
  -- one conversion of the same body: first from the other state, then of the other tree
  have hform : t.form = .other := congrArg Form.ofKind ht.kind
  have hagrees := (convert_agrees path .funcLiteral b (agrees_signature names next m)).1
  have hparent : convert path t.form b ⟨next, [names]⟩ =
      convert path .funcLiteral b ⟨next, [names]⟩ := by
    rw [hform]
    exact convert_parent path (by decide) (by decide) b _
  have hidentity : ∀ x ∈ some f, isBindable x = true := fun x hx => Option.some.inj hx ▸ hf
  have hvary : (convert path .funcLiteral b' start).1.vary id (fun _ => default) =
      (convert path .funcLiteral b start).1.vary id fun _ => default := by
    have hsame := (convert_varies path Renames.id hvaries .funcLiteral start).1
    have hrename : start.rename id = start := by
      rw [Conversion.rename, Scopes.rename, List.map_id_fun, List.map_id]
    rwa [hrename] at hsame
  obtain ⟨hcyclomatic, hcognitive⟩ := scores_of_vary hvary (some f)
  rw [hparent]
  constructor
  · exact (cyclomatic_of_restrict (n := some _) (m := some _) (congrArg some hagrees)).trans
      hcyclomatic
  · exact (cognitive_of_restrict (n := some _) (m := some _) (congrArg some hagrees)
      hidentity).trans hcognitive

/-- **A function and a variable that holds it** have the same scores: each of the
two declarations gives one unit, whatever documents it and from whatever index its
nodes are numbered. -/
theorem scores_literal (hf : f ≠ "") (hf' : f ≠ "_") (ht : t.IsFunctionNamed f)
    (hv : v.IsVariableNamed f l) (hl : l.IsLiteralOf t) (package package' : String)
    (doc doc' : List String) (next next' : Nat) :
    ∃ u u', Documented.unitsFrom path package next ⟨doc, t⟩ = [u] ∧
      Documented.unitsFrom path package' next' ⟨doc', v⟩ = [u'] ∧
      u.measure.cyclomatic = u'.measure.cyclomatic ∧
      u.measure.cognitive = u'.measure.cognitive := by
  obtain ⟨parent, hvariable⟩ := unitsFrom_variable path hv hl.kind package' next' doc'
  obtain ⟨n, m, hn, hm, hcyclomatic, hcognitive⟩ :=
    scores_body path ((isBindable_iff f).mpr ⟨hf, hf'⟩) ht hl parent next next'
  refine ⟨_, _, unitsFrom_function path ht package next doc, hvariable, ?_, ?_⟩
  · show (cyclomatic _ : Int) = cyclomatic _
    rw [hn, ValueSpec.unitOf, hm]
    exact congrArg Nat.cast hcyclomatic
  · show (cognitive _ _ : Int) = cognitive _ _
    rw [hn, ValueSpec.unitOf, hm]
    exact congrArg Nat.cast hcognitive

end

/-- The parameters and the body of `(g func()) { f(); g() }`. -/
def calledParts : List Tree :=
  [Tree.inField "parameter_list" "parameters"
    [.node { kind := "parameter_declaration" }
      [.node { kind := "identifier", field := some "name", text := some "g" } [],
        Tree.inField "function_type" "type" []]],
    Tree.inField "block" "body"
      [.node { kind := "expression_statement" } [Tree.callOf none "f"],
        .node { kind := "expression_statement" } [Tree.callOf none "g"]]]

/-- The function `func f(g func()) { f(); g() }`. -/
def calledFunction : Tree :=
  .node { kind := "function_declaration" }
    (.node { kind := "identifier", field := some "name", text := some "f" } [] ::
      calledParts)

/-- The literal `func(g func()) { f(); g() }`. -/
def calledLiteral : Tree := .node { kind := "func_literal" } calledParts

/-- The variable `var f = func(g func()) { f(); g() }`. -/
def calledVariable : Tree :=
  .node { kind := "var_declaration" }
    [.node { kind := "var_spec" }
      [.node { kind := "identifier", field := some "name", text := some "f" } [],
        Tree.inField "expression_list" "value" [calledLiteral]]]

theorem calledLiteral_isLiteralOf : calledLiteral.IsLiteralOf calledFunction where
  kind := rfl
  parts name hname := by
    have hsame : calledLiteral.childByField? name = calledFunction.childByField? name := by
      simp only [List.mem_cons, List.not_mem_nil, or_false] at hname
      rcases hname with rfl | rfl | rfl <;> rfl
    rw [hsame]
    cases calledFunction.childByField? name with
    | none => exact Option.Rel.none
    | some c => exact Option.Rel.some (Tree.Varies.refl _ c)
  body := ⟨_, rfl, rfl⟩
  signature c hc hfield x := by
    have hkept : calledLiteral.kept = calledParts := rfl
    rw [hkept, calledParts] at hc
    simp only [List.mem_cons, List.not_mem_nil, or_false] at hc
    rcases hc with rfl | rfl
    · exact Tree.not_exposes (by decide +kernel) x
    · exact absurd rfl hfield

/-- A function that calls itself and its parameter has the scores of the variable. -/
theorem scores_calledLiteral :
    "f" ≠ "" ∧ "f" ≠ "_" ∧ calledFunction.IsFunctionNamed "f" ∧
      calledVariable.IsVariableNamed "f" calledLiteral ∧ calledLiteral.IsLiteralOf calledFunction ∧
      ∃ u u', Documented.unitsFrom "a.go" "p" 0 ⟨[], calledFunction⟩ = [u] ∧
        Documented.unitsFrom "a.go" "p" 7 ⟨["// f"], calledVariable⟩ = [u'] ∧
        u.measure.cyclomatic = u'.measure.cyclomatic ∧
        u.measure.cognitive = u'.measure.cognitive := by
  have ht : calledFunction.IsFunctionNamed "f" := ⟨rfl, rfl⟩
  have hv : calledVariable.IsVariableNamed "f" calledLiteral := ⟨rfl, _, rfl, rfl, rfl⟩
  exact ⟨by decide, by decide, ht, hv, calledLiteral_isLiteralOf,
    scores_literal "a.go" (by decide) (by decide) ht hv calledLiteral_isLiteralOf "p" "p" []
      ["// f"] 0 7⟩

end GoComplexity
