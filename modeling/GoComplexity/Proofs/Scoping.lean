/-
# The stack of scopes

The scopes that a conversion carries along are a stack.  A node that opens a
scope works on a scope of its own and drops it again; any other node adds to
the innermost scope what it declares and what the nodes below it add.  So the
names that are local when a conversion comes to an address can be told from
the nodes above the address and from those before them.

Key definitions: `Tree.exported`, `Tree.seenAt`.
Key theorems: `scopes_convert`, `exists_convert_at?`, `callee_convert_iff`.
-/
import GoComplexity.Proofs.Address

namespace GoComplexity

theorem openingNames_eq_nil {t : Tree} (h : t.form.opensScope = false) : openingNames t = [] := by
  unfold openingNames
  cases hf : t.form <;> first | rfl | (rw [hf] at h; exact absurd h (by decide))

theorem declaredNames_eq_nil {t : Tree} (h : t.form.opensScope = true) : declaredNames t = [] := by
  unfold declaredNames
  cases hf : t.form <;> first | rfl | (rw [hf] at h; exact absurd h (by decide))

namespace Tree

mutual

/-- The names that a tree adds to the scope in which it stands. -/
def exported : Tree → List String
  | .node tag cs =>
    if (Tree.node tag cs).form.opensScope then []
    else (declaredNames (.node tag cs)).filter isBindable ++ exportedAll cs

/-- The names that the trees of a list add, the last first. -/
def exportedAll : List Tree → List String
  | [] => []
  | c :: cs => exportedAll cs ++ if c.isKept then exported c else []

end

theorem exportedAll_kept : ∀ cs : List Tree, exportedAll (cs.filter isKept) = exportedAll cs
  | [] => rfl
  | c :: cs => by
    by_cases hc : c.isKept = true
    · rw [List.filter_cons_of_pos hc, exportedAll, exportedAll, exportedAll_kept cs]
    · rw [List.filter_cons_of_neg hc, exportedAll, if_neg hc, List.append_nil, exportedAll_kept cs]

theorem exported_eq (t : Tree) : t.exported =
    if t.form.opensScope then []
    else (declaredNames t).filter isBindable ++ exportedAll t.kept := by
  cases t with
  | node tag cs => rw [exported, kept, exportedAll_kept]; rfl

theorem mem_exportedAll_iff (x : String) : ∀ cs : List Tree, (∀ c ∈ cs, c.isKept = true) →
    (x ∈ exportedAll cs ↔ ∃ c ∈ cs, x ∈ c.exported)
  | [], _ => by simp [exportedAll]
  | c :: cs, h => by
    rw [exportedAll, if_pos (h c List.mem_cons_self), List.mem_append,
      mem_exportedAll_iff x cs fun d hd => h d (List.mem_cons_of_mem _ hd),
      List.exists_mem_cons_iff, or_comm]

/-- What the children before a place add. -/
theorem mem_exportedAll_take_iff (t : Tree) (i : Nat) (x : String) :
    x ∈ exportedAll (t.kept.take i) ↔ ∃ j d, j < i ∧ t.kept[j]? = some d ∧ x ∈ d.exported := by
  rw [mem_exportedAll_iff x (t.kept.take i) fun c hc =>
    isKept_of_mem_kept (List.mem_of_mem_take hc)]
  constructor
  · rintro ⟨d, hd, hx⟩
    obtain ⟨j, hj⟩ := List.getElem?_of_mem hd
    have hji : j < i := by
      by_contra hle
      rw [List.getElem?_take_eq_none (by omega)] at hj
      exact absurd hj (by simp)
    rw [List.getElem?_take_of_lt hji] at hj
    exact ⟨j, d, hji, hj, hx⟩
  · rintro ⟨j, d, hji, hj, hx⟩
    exact ⟨d, List.mem_of_getElem? ((List.getElem?_take_of_lt hji).trans hj), hx⟩

end Tree

/-- Inside a node its opening names are in the innermost scope, which is its own
if it opens one. -/
theorem enter_cons (t : Tree) (top : List String) (rest : Scopes) :
    enter t (top :: rest) =
      if t.form.opensScope then ((openingNames t).filter isBindable) :: top :: rest
      else top :: rest := by
  unfold enter
  cases h : t.form.opensScope with
  | true => simp [Scopes.bind]
  | false => simp [Scopes.bind, openingNames_eq_nil h]

variable (path : String) (parent : Form)

theorem scopes_convertAll : ∀ (cs : List Tree),
    (∀ c ∈ cs, c.isKept = true ∧ ∀ (s : Conversion) top rest, s.scopes = top :: rest →
      (convert path parent c s).2.scopes = (c.exported ++ top) :: rest) →
    ∀ (s : Conversion) top rest, s.scopes = top :: rest →
      (convertAll path parent cs s).2.scopes = (Tree.exportedAll cs ++ top) :: rest
  | [], _, s, top, rest, hs => hs
  | c :: cs, h, s, top, rest, hs => by
    obtain ⟨hc, hs'⟩ := h c List.mem_cons_self
    rw [convertAll_cons path parent hc, Tree.exportedAll, if_pos hc, List.append_assoc]
    exact scopes_convertAll cs (fun d hd => h d (List.mem_cons_of_mem _ hd)) _ _ rest
      (hs' s top rest hs)

/-- **Frame.** A conversion adds the names that its tree exports to the innermost
scope, and leaves the others as they are. -/
theorem scopes_convert (t : Tree) (s : Conversion) (top : List String) (rest : Scopes)
    (hs : s.scopes = top :: rest) :
    (convert path parent t s).2.scopes = (t.exported ++ top) :: rest := by
  induction t using Tree.keptInduction generalizing parent s top rest with
  | node t ih =>
    have hall := scopes_convertAll path t.form t.kept fun c hc =>
      ⟨Tree.isKept_of_mem_kept hc, fun s' top' rest' => ih c hc t.form s' top' rest'⟩
    have henter := enter_cons t top rest
    rw [convert_eq, Tree.exported_eq]
    show leave t (convertAll path t.form t.kept (s.inside t)).2.scopes = _
    unfold leave
    cases ho : t.form.opensScope with
    -- all that was added went into the scope of the node, which is dropped
    | true =>
      rw [ho, if_pos rfl] at henter
      rw [hall (s.inside t) _ (top :: rest) (by rw [Conversion.inside, hs, henter])]
      rfl
    | false =>
      rw [ho, if_neg Bool.false_ne_true] at henter
      rw [hall (s.inside t) top rest (by rw [Conversion.inside, hs, henter])]
      simp [Scopes.bind]

namespace Tree

/-- The names that a body has made local by the time a conversion comes to an
address. -/
def seenAt : Tree → List Nat → List String
  | _, [] => []
  | t, i :: p =>
    match t.kept[i]? with
    | some c => c.seenAt p ++ exportedAll (t.kept.take i) ++ (openingNames t).filter isBindable
    | none => []

theorem seenAt_cons {t c : Tree} {i : Nat} (hc : t.kept[i]? = some c) (p : List Nat) :
    t.seenAt (i :: p) =
      c.seenAt p ++ exportedAll (t.kept.take i) ++ (openingNames t).filter isBindable := by
  rw [seenAt, hc]

end Tree

theorem isLocal_cons (top : List String) (rest : Scopes) (x : String) :
    Scopes.isLocal (top :: rest) x = true ↔ x ∈ top ∨ Scopes.isLocal rest x = true := by
  rw [Scopes.isLocal, List.any_cons, Bool.or_eq_true, List.contains_iff_mem]
  rfl

theorem isLocal_singleton (scope : List String) (x : String) :
    Scopes.isLocal [scope] x = true ↔ x ∈ scope := by
  rw [isLocal_cons]
  exact or_iff_left Bool.false_ne_true

/-- The scopes in which the child at a place is converted. -/
theorem isLocal_before {s : Conversion} (hs : s.scopes ≠ []) (t : Tree) (i : Nat) :
    (s.before path t i).scopes ≠ [] ∧ ∀ x, (s.before path t i).scopes.isLocal x = true ↔
      s.scopes.isLocal x = true ∨ x ∈ Tree.exportedAll (t.kept.take i) ∨
        x ∈ (openingNames t).filter isBindable := by
  obtain ⟨top, rest, hs⟩ := List.exists_cons_of_ne_nil hs
  have hall := scopes_convertAll path t.form (t.kept.take i) fun c hc =>
    ⟨Tree.isKept_of_mem_kept (List.mem_of_mem_take hc), fun s' top' rest' =>
      scopes_convert path t.form c s' top' rest'⟩
  have henter := enter_cons t top rest
  unfold Conversion.before
  cases ho : t.form.opensScope with
  | true =>
    rw [ho, if_pos rfl] at henter
    rw [hall (s.inside t) _ (top :: rest) (by rw [Conversion.inside, hs, henter]), hs]
    refine ⟨List.cons_ne_nil _ _, fun x => ?_⟩
    rw [isLocal_cons, List.mem_append]
    tauto
  | false =>
    rw [ho, if_neg Bool.false_ne_true] at henter
    rw [hall (s.inside t) top rest (by rw [Conversion.inside, hs, henter]), hs]
    refine ⟨List.cons_ne_nil _ _, fun x => ?_⟩
    rw [isLocal_cons, isLocal_cons, List.mem_append, openingNames_eq_nil ho]
    simp only [List.filter_nil, List.not_mem_nil, or_false]
    tauto

/-- The node at an address is converted with the names local that were so at the
start or have been seen on the way. -/
theorem exists_convert_at? :
    ∀ (p : List Nat) (parent : Form) (t : Tree) (s : Conversion) (c : Tree),
    s.scopes ≠ [] → t.at? p = some c →
    ∃ parent' s', (convert path parent t s).1.at? p = some (convert path parent' c s').1 ∧
      s'.scopes ≠ [] ∧
      ∀ x, s'.scopes.isLocal x = true ↔ s.scopes.isLocal x = true ∨ x ∈ t.seenAt p
  | [], parent, t, s, c, hs, h => by
    refine ⟨parent, s, ?_, hs, fun x => ?_⟩
    · rw [Node.at?, Option.some.inj h]
    · simp [Tree.seenAt]
  | i :: p, parent, t, s, c, hs, h => by
    obtain ⟨d, hd, hc⟩ := Tree.exists_of_at?_cons h
    obtain ⟨hne, hbefore⟩ := isLocal_before path hs t i
    obtain ⟨parent', s', hat, hs', hlocal⟩ :=
      exists_convert_at? p t.form d (s.before path t i) c hne hc
    refine ⟨parent', s', ?_, hs', fun x => ?_⟩
    · rw [at?_convert_cons, hd, Option.bind_some, hat]
    · rw [hlocal, hbefore, Tree.seenAt_cons hd]
      simp only [List.mem_append]
      tauto

theorem callee?_eq_some_iff (scopes : Scopes) (t : Tree) (x : String) :
    callee? scopes t = some x ↔ t.form = .call ∧ ∃ f, t.childByField? "function" = some f ∧
      f.kind = "identifier" ∧ f.text = x ∧ scopes.isLocal x = false := by
  unfold callee?
  split
  · rename_i f hform hf
    rw [hf]
    constructor
    · intro h
      split at h
      · rename_i hc
        rw [Bool.and_eq_true, decide_eq_true_eq, Bool.not_eq_true'] at hc
        exact ⟨hform, f, rfl, hc.1, Option.some.inj h, Option.some.inj h ▸ hc.2⟩
      · exact absurd h (by simp)
    · rintro ⟨-, g, hg, hk, rfl, hl⟩
      obtain rfl := Option.some.inj hg
      simp [hk, hl]
  · rename_i hn
    refine iff_of_false (by simp) ?_
    rintro ⟨hform, f, hf, -⟩
    exact hn f hform hf

/-- What a conversion makes the callee of the node at an address. -/
theorem callee_convert_iff {t c : Tree} {p : List Nat} (h : t.at? p = some c)
    {s : Conversion} (hs : s.scopes ≠ []) :
    ∃ n, (convert path parent t s).1.at? p = some n ∧ ∀ x, n.callee = some x ↔
      c.form = .call ∧ ∃ f, c.childByField? "function" = some f ∧ f.kind = "identifier" ∧
        f.text = x ∧ ¬ (s.scopes.isLocal x = true ∨ x ∈ t.seenAt p) := by
  obtain ⟨parent', s', hat, hs', hlocal⟩ := exists_convert_at? path p parent t s c hs h
  refine ⟨_, hat, fun x => ?_⟩
  have hcallee : (convert path parent' c s').1.callee = callee? (enter c s'.scopes) c := by
    rw [convert_eq]
    exact facts_callee path parent' _ _ c
  rw [hcallee, callee?_eq_some_iff, ← hlocal]
  refine and_congr_right fun hform => ?_
  obtain ⟨top, rest, hs'⟩ := List.exists_cons_of_ne_nil hs'
  rw [hs', enter_cons, hform, if_neg (by decide), Bool.not_eq_true]

/-! ### Small trees -/

namespace Tree

/-- A node of a kind in a field. -/
def inField (kind field : String) (cs : List Tree) : Tree := .node { kind, field := some field } cs

/-- A name. -/
def ofName (x : String) : Tree := .node { kind := "identifier", text := some x } []

/-- A call of a name, without arguments. -/
def callOf (field : Option String) (x : String) : Tree :=
  .node { kind := "call_expression", field }
    [.node { kind := "identifier", field := some "function", text := some x } [],
      inField "argument_list" "arguments" []]

end Tree

end GoComplexity
