/-
# Blank names

A declaration is made blank by writing `_` for each name that it declares; then
it declares nothing.  In a tree of the grammar nothing else turns on those
names: what the nodes above open, and what the nodes before the address add,
stays the same.

Key definitions: `Tree.blankNames`, `Tree.blankAt`, `Tree.Grammatical`.
Key theorems: `Tree.names_blankNames`, `Tree.seenAt_blankNames`,
`Tree.seenAt_blankAt`.
-/
import GoComplexity.Outline.Build
import GoComplexity.Proofs.Scoping

namespace GoComplexity

namespace Tree

/-- The same node with `_` for its text. -/
def blank (t : Tree) : Tree := .node { t.tag with text := some "_" } t.children

/-- A lone name or a list of names, made blank. -/
def blankIdentifiers (t : Tree) : Tree :=
  if t.kind = "identifier" then t.blank
  else .node t.tag (t.children.map fun c => if c.kind = "identifier" then c.blank else c)

/-- The same node with the children of a field changed. -/
def mapField (name : String) (f : Tree → Tree) (t : Tree) : Tree :=
  .node t.tag (t.children.map fun c => if c.field = some name then f c else c)

/-- A declaration with its names made blank; any other node as it is. -/
def blankNames (t : Tree) : Tree :=
  match t.form with
  | .shortVar => t.mapField "left" blankIdentifiers
  | .valueSpec => t.mapField "name" blank
  | .rangeClause | .receive => if t.hasToken ":=" then t.mapField "left" blankIdentifiers else t
  | .typeSwitch => t.mapField "alias" blankIdentifiers
  | _ => t

/-- The trees of a list with one of those that are carried over changed. -/
def modifyKept (f : Tree → Tree) : Nat → List Tree → List Tree
  | _, [] => []
  | i, c :: cs =>
    if c.isKept then
      match i with
      | 0 => f c :: cs
      | i + 1 => c :: modifyKept f i cs
    else c :: modifyKept f i cs

/-- The same tree with the node at an address made blank. -/
def blankAt : List Nat → Tree → Tree
  | [], t => t.blankNames
  | i :: p, t => .node t.tag (modifyKept (blankAt p) i t.children)

end Tree

/-- The field in which a form lists names. -/
def Form.listField? : Form → Option String
  | .shortVar | .rangeClause | .receive => some "left"
  | .typeSwitch => some "alias"
  | _ => none

/-- The fields in which a declaration's operands stand. -/
def Form.operandFields : Form → List String
  | .shortVar | .rangeClause | .receive => ["right"]
  | .valueSpec => ["value"]
  | .typeSwitch => ["initializer", "value"]
  | _ => []

namespace Tree

/-- Whether the child at a place is an operand of a declaration. -/
structure HasOperand (t : Tree) (i : Nat) (o : Tree) : Prop where
  at_place : t.kept[i]? = some o
  in_field : ∃ name ∈ t.form.operandFields, o.field = some name

/-- What the grammar says of a node: a list of parameters holds parameter
declarations, and names are declared in an expression list or alone. -/
structure Regular (t : Tree) : Prop where
  parameters : t.kind = "parameter_list" → ∀ c ∈ t.kept, isParameter c = true
  names : ∀ name ∈ t.form.listField?, ∀ c ∈ t.kept, c.field = some name →
    c.kind = "identifier" ∨ c.kind = "expression_list"

instance (t : Tree) : Decidable t.Regular :=
  decidable_of_iff (_ ∧ _) ⟨fun h => ⟨h.1, h.2⟩, fun h => ⟨h.parameters, h.names⟩⟩

/-- What the grammar says of a tree. -/
def Grammatical (t : Tree) : Prop := ∀ c ∈ t.preorder, c.Regular

instance (t : Tree) : Decidable t.Grammatical := inferInstanceAs (Decidable (∀ _ ∈ _, _))

/-! ### Trees of the grammar -/

namespace Grammatical

variable {t c : Tree}

theorem regular (h : t.Grammatical) : t.Regular := by
  refine h t ?_
  rw [preorder_eq]
  exact List.mem_cons_self

theorem child (h : t.Grammatical) (hc : c ∈ t.kept) : c.Grammatical := by
  intro d hd
  refine h d ?_
  rw [preorder_eq]
  exact List.mem_cons_of_mem _ (List.mem_flatMap.mpr ⟨c, (List.mem_filter.mp hc).1, hd⟩)

theorem of_at? : ∀ {p : List Nat} {t : Tree}, t.Grammatical → t.at? p = some c → c.Grammatical
  | [], _, h, hc => Option.some.inj hc ▸ h
  | _ :: _, _, h, hc => by
    obtain ⟨d, hd, hc⟩ := exists_of_at?_cons hc
    exact of_at? (h.child (List.mem_of_getElem? hd)) hc

end Grammatical

/-! ### One blank node -/

/-- Whether two nodes are of one kind and stand in one field. -/
structure SameRole (t u : Tree) : Prop where
  kind : u.kind = t.kind
  field : u.field = t.field
  isNamed : u.isNamed = t.isNamed

namespace SameRole

variable {t u : Tree}

theorem of_tag (h : u.tag = t.tag) : SameRole t u :=
  ⟨congrArg Tag.kind h, congrArg Tag.field h, congrArg Tag.isNamed h⟩

theorem form (h : SameRole t u) : u.form = t.form := congrArg Form.ofKind h.kind

theorem isKept (h : SameRole t u) : u.isKept = t.isKept := by
  rw [Tree.isKept, Tree.isKept, isComment, isComment, h.kind, h.isNamed]

end SameRole

theorem sameRole_blank (t : Tree) : SameRole t t.blank := ⟨rfl, rfl, rfl⟩

theorem sameRole_blankIdentifiers (t : Tree) : SameRole t t.blankIdentifiers := by
  unfold blankIdentifiers
  split
  · exact t.sameRole_blank
  · exact SameRole.of_tag rfl

theorem tag_blankNames (t : Tree) : t.blankNames.tag = t.tag := by
  unfold blankNames
  cases t.form <;> try rfl
  all_goals
    dsimp only
    split <;> rfl

theorem exportedAll_map {g : Tree → Tree} : ∀ cs : List Tree,
    (∀ c ∈ cs, (g c).isKept = c.isKept ∧ (g c).exported = c.exported) →
    exportedAll (cs.map g) = exportedAll cs
  | [], _ => rfl
  | c :: cs, h => by
    obtain ⟨hk, he⟩ := h c List.mem_cons_self
    rw [List.map_cons, exportedAll, exportedAll, hk, he,
      exportedAll_map cs fun d hd => h d (List.mem_cons_of_mem _ hd)]

/-- The text of a node adds no name. -/
theorem exported_blank (t : Tree) : t.blank.exported = t.exported := by
  rw [exported_eq, exported_eq]
  rfl

/-- A list of names adds none of them. -/
theorem exported_blankIdentifiers {t : Tree}
    (h : t.kind = "identifier" ∨ t.kind = "expression_list") :
    t.blankIdentifiers.exported = t.exported := by
  rcases h with h | h
  · rw [blankIdentifiers, if_pos h, exported_blank]
  · have hf : t.form = .other := by rw [form, h]; rfl
    have hb : t.blankIdentifiers.form = .other := t.sameRole_blankIdentifiers.form.trans hf
    have hd : declaredNames t = [] := by rw [declaredNames, hf]
    have hd' : declaredNames t.blankIdentifiers = [] := by rw [declaredNames, hb]
    have hc : t.blankIdentifiers.children =
        t.children.map fun c => if c.kind = "identifier" then c.blank else c := by
      rw [blankIdentifiers, if_neg (by rw [h]; decide)]
      rfl
    rw [exported_eq, exported_eq, hf, hb, hd, hd', kept, kept, exportedAll_kept, exportedAll_kept,
      hc, exportedAll_map t.children fun c _ => ?_]
    split
    · exact ⟨c.sameRole_blank.isKept, c.exported_blank⟩
    · exact ⟨rfl, rfl⟩

/-! ### A blank declaration -/

theorem mapField_id (name : String) (t : Tree) : t.mapField name id = t := by
  cases t with
  | node tag cs => simp [mapField, children, Tree.tag]

/-- How a node is made blank: the children of one field are changed, which holds
no operand, and they add the same names as before. -/
structure Blanks (t : Tree) (name : String) (f : Tree → Tree) : Prop where
  eq : t.blankNames = t.mapField name f
  notMem : name ∉ t.form.operandFields
  sameRole : ∀ c, SameRole c (f c)
  exported : ∀ c ∈ t.kept, c.field = some name → (f c).exported = c.exported

theorem Blanks.of_listField {t : Tree} (h : t.Regular) (name : String)
    (hn : name ∈ t.form.listField?) (ho : name ∉ t.form.operandFields)
    (hb : t.blankNames = t.mapField name blankIdentifiers) : Blanks t name blankIdentifiers where
  eq := hb
  notMem := ho
  sameRole := sameRole_blankIdentifiers
  exported := fun c hc hf => exported_blankIdentifiers (h.names name hn c hc hf)

theorem Blanks.of_eq_self (t : Tree) (name : String) (ho : name ∉ t.form.operandFields)
    (hb : t.blankNames = t) : Blanks t name id where
  eq := by rw [hb, mapField_id]
  notMem := ho
  sameRole := fun _ => ⟨rfl, rfl, rfl⟩
  exported := fun _ _ _ => rfl

/-- Every node of the grammar is made blank in one field. -/
theorem exists_blanks {t : Tree} (h : t.Regular) : ∃ name f, Blanks t name f := by
  have hlist := Blanks.of_listField h
  have hself := Blanks.of_eq_self t
  unfold blankNames at hlist hself
  cases hf : t.form <;> rw [hf] at hlist hself
  case shortVar => exact ⟨"left", _, hlist "left" rfl (by decide) rfl⟩
  case typeSwitch => exact ⟨"alias", _, hlist "alias" rfl (by decide) rfl⟩
  case valueSpec =>
    have hb : t.blankNames = t.mapField "name" blank := by rw [blankNames, hf]
    exact ⟨"name", _, hb, by rw [hf]; decide, sameRole_blank, fun c _ _ => c.exported_blank⟩
  -- without the token nothing is declared, and the node stays as it is
  case rangeClause | receive =>
    by_cases ht : t.hasToken ":=" = true
    · exact ⟨"left", _, hlist "left" rfl (by decide) (if_pos ht)⟩
    · exact ⟨"left", _, hself "left" (by decide) (if_neg ht)⟩
  all_goals exact ⟨"", _, hself "" (by decide) rfl⟩

theorem identifiers_blankIdentifiers {t : Tree} {x : String}
    (h : x ∈ identifiers t.blankIdentifiers) : x = "_" := by
  unfold identifiers at h
  rw [t.sameRole_blankIdentifiers.kind] at h
  unfold blankIdentifiers at h
  split at h
  · exact List.mem_singleton.mp h
  · obtain ⟨c, hc, rfl⟩ := List.mem_map.mp h
    obtain ⟨hc, hk⟩ := List.mem_filter.mp hc
    obtain ⟨d, -, rfl⟩ := List.mem_map.mp (List.mem_filter.mp hc).1
    split at hk
    · rename_i hd
      rw [if_pos hd]
      rfl
    · rename_i hd
      exact absurd (beq_iff_eq.mp hk) hd

theorem childByField?_mapField {f : Tree → Tree} (hf : ∀ c, SameRole c (f c)) (t : Tree)
    (name : String) :
    (t.mapField name f).childByField? name = (t.childByField? name).map f := by
  have hfield : ((fun c : Tree => c.field == some name) ∘
      fun c => if c.field = some name then f c else c) = fun c => c.field == some name := by
    funext c
    rw [Function.comp_apply]
    split
    · rw [(hf c).field]
    · rfl
  unfold childByField? mapField
  rw [children, List.find?_map, hfield]
  refine Option.map_congr fun c hc => if_pos ?_
  have := List.find?_some hc
  exact beq_iff_eq.mp this

theorem identifiersOf_mapField_blankIdentifiers {t : Tree} {name x : String}
    (h : x ∈ identifiersOf (t.mapField name blankIdentifiers) name) : x = "_" := by
  unfold identifiersOf at h
  rw [childByField?_mapField sameRole_blankIdentifiers] at h
  cases hc : t.childByField? name with
  | none => simp [hc] at h
  | some c =>
    rw [hc] at h
    exact identifiers_blankIdentifiers h

theorem childrenByField_mapField_blank {t c : Tree} {name : String}
    (h : c ∈ (t.mapField name blank).childrenByField name) : c.text = "_" := by
  obtain ⟨hc, hf⟩ := List.mem_filter.mp h
  obtain ⟨d, -, rfl⟩ := List.mem_map.mp hc
  split at hf
  · rename_i hd
    rw [if_pos hd]
    rfl
  · rename_i hd
    exact absurd (beq_iff_eq.mp hf) hd

/-- **A blank declaration declares nothing.** -/
theorem names_blankNames {t : Tree} (h : t.form ≠ .funcLiteral) {x : String}
    (hx : x ∈ declaredNames t.blankNames ++ openingNames t.blankNames) : x = "_" := by
  have hform : t.blankNames.form = t.form := (SameRole.of_tag t.tag_blankNames).form
  unfold declaredNames openingNames at hx
  rw [hform] at hx
  unfold blankNames at hx
  cases hf : t.form <;> simp only [hf] at hx
  case funcLiteral => exact absurd hf h
  case shortVar => exact identifiersOf_mapField_blankIdentifiers (by simpa using hx)
  case typeSwitch => exact identifiersOf_mapField_blankIdentifiers (by simpa using hx)
  case valueSpec =>
    rw [List.append_nil] at hx
    obtain ⟨c, hc, rfl⟩ := List.mem_map.mp hx
    exact childrenByField_mapField_blank hc
  case rangeClause | receive =>
    by_cases ht : t.hasToken ":=" = true
    · rw [if_pos ht, List.append_nil] at hx
      split at hx
      · exact identifiersOf_mapField_blankIdentifiers hx
      · exact absurd hx List.not_mem_nil
    · rw [if_neg ht, if_neg ht] at hx
      exact absurd hx List.not_mem_nil
  all_goals exact absurd hx List.not_mem_nil

variable {t o : Tree} {i : Nat}

theorem kept_mapField {f : Tree → Tree} (hf : ∀ c, SameRole c (f c)) (t : Tree) (name : String) :
    (t.mapField name f).kept = t.kept.map fun c => if c.field = some name then f c else c := by
  unfold kept mapField
  rw [children, List.filter_map]
  congr 1
  refine List.filter_congr fun c _ => ?_
  rw [Function.comp_apply]
  split
  · rw [(hf c).isKept]
  · rfl

namespace HasOperand

theorem form_ne_funcLiteral (h : t.HasOperand i o) : t.form ≠ .funcLiteral := by
  intro hl
  obtain ⟨name, hname, -⟩ := h.in_field
  rw [hl] at hname
  exact absurd hname List.not_mem_nil

/-- A switch over types alone opens its inside with names that it declares. -/
theorem openingNames_eq_nil (h : t.HasOperand i o) (hs : t.form ≠ .typeSwitch) :
    openingNames t = [] := by
  have hl := h.form_ne_funcLiteral
  unfold openingNames
  cases hf : t.form <;> try rfl
  case typeSwitch => exact absurd hf hs
  case funcLiteral => exact absurd hf hl

end HasOperand

/-- To an operand of a declaration its names do not matter: the operand stays as
it is, and the children before it add the same names. -/
theorem kept_blankNames (h : t.Regular) (ho : t.HasOperand i o) :
    t.blankNames.kept[i]? = some o ∧
      exportedAll (t.blankNames.kept.take i) = exportedAll (t.kept.take i) := by
  obtain ⟨name, f, hb⟩ := exists_blanks h
  obtain ⟨other, hother, hfield⟩ := ho.in_field
  rw [hb.eq, kept_mapField hb.sameRole]
  constructor
  · rw [List.getElem?_map, ho.at_place, Option.map_some, if_neg]
    intro he
    rw [hfield] at he
    exact hb.notMem (Option.some.inj he ▸ hother)
  · rw [← List.map_take]
    refine exportedAll_map _ fun c hc => ?_
    split
    · rename_i he
      exact ⟨(hb.sameRole c).isKept, hb.exported c (List.mem_of_mem_take hc) he⟩
    · exact ⟨rfl, rfl⟩

/-- What is seen in an operand of a declaration is what is seen there once the
declaration is blank, and the names that the declaration opens. -/
theorem seenAt_blankNames (h : t.Regular) (ho : t.HasOperand i o) (p : List Nat) (x : String) :
    x ∈ t.seenAt (i :: p) ↔
      x ∈ t.blankNames.seenAt (i :: p) ∨ x ∈ (openingNames t).filter isBindable := by
  have hblank : (openingNames t.blankNames).filter isBindable = [] := by
    rw [List.filter_eq_nil_iff]
    intro y hy
    rw [names_blankNames ho.form_ne_funcLiteral (List.mem_append_right _ hy)]
    decide
  obtain ⟨ho', hbefore⟩ := kept_blankNames h ho
  rw [seenAt_cons ho.at_place, seenAt_cons ho', hbefore, hblank, List.append_nil, List.mem_append]

/-! ### A blank declaration in a tree -/

theorem tag_blankAt : ∀ (p : List Nat) (t : Tree), (blankAt p t).tag = t.tag
  | [], t => t.tag_blankNames
  | _ :: _, _ => rfl

section

variable {g : Tree → Tree}

/-- The one tree that is changed is the one before which so many are carried
over; there may be none. -/
theorem modifyKept_cases (g : Tree → Tree) : ∀ (cs : List Tree) (i : Nat),
    ((cs.filter isKept).length ≤ i ∧ modifyKept g i cs = cs) ∨
      ∃ xs c ys, cs = xs ++ c :: ys ∧ c.isKept = true ∧ (xs.filter isKept).length = i ∧
        modifyKept g i cs = xs ++ g c :: ys
  | [], i => Or.inl ⟨Nat.zero_le i, rfl⟩
  | c :: cs, i => by
    rw [modifyKept.eq_def]
    dsimp only
    by_cases hc : c.isKept = true
    · rw [if_pos hc, List.filter_cons_of_pos hc]
      cases i with
      | zero => exact Or.inr ⟨[], c, cs, rfl, hc, rfl, rfl⟩
      | succ i =>
        rcases modifyKept_cases g cs i with ⟨hle, he⟩ | ⟨xs, d, ys, rfl, hd, rfl, he⟩
        · exact Or.inl ⟨Nat.succ_le_succ hle, congrArg (c :: ·) he⟩
        · refine Or.inr ⟨c :: xs, d, ys, rfl, hd, ?_, congrArg (c :: ·) he⟩
          rw [List.filter_cons_of_pos hc, List.length_cons]
    · rw [if_neg hc, List.filter_cons_of_neg hc]
      rcases modifyKept_cases g cs i with ⟨hle, he⟩ | ⟨xs, d, ys, rfl, hd, rfl, he⟩
      · exact Or.inl ⟨hle, congrArg (c :: ·) he⟩
      · refine Or.inr ⟨c :: xs, d, ys, rfl, hd, ?_, congrArg (c :: ·) he⟩
        rw [List.filter_cons_of_neg hc]

theorem map_tag_modifyKept (hg : ∀ t, (g t).tag = t.tag) (cs : List Tree) (i : Nat) :
    (modifyKept g i cs).map Tree.tag = cs.map Tree.tag := by
  rcases modifyKept_cases g cs i with ⟨-, he⟩ | ⟨xs, c, ys, rfl, -, -, he⟩
  · rw [he]
  · rw [he, List.map_append, List.map_append, List.map_cons, List.map_cons, hg]

/-- What is read of the named trees of a list stays the same if it does for those
that are carried over. -/
theorem flatMap_modifyKept {β : Type} {read : Tree → List β} (hg : ∀ t, (g t).tag = t.tag)
    {cs : List Tree} (i : Nat) (h : ∀ c ∈ cs, c.isKept = true → read (g c) = read c) :
    ((modifyKept g i cs).filter isNamed).flatMap read = (cs.filter isNamed).flatMap read := by
  rcases modifyKept_cases g cs i with ⟨-, he⟩ | ⟨xs, c, ys, rfl, hc, -, he⟩
  · rw [he]
  · have hn : c.isNamed = true := (Bool.and_eq_true_iff.mp hc).1
    have hgn : (g c).isNamed = true := (SameRole.of_tag (hg c)).isNamed.trans hn
    rw [he, List.filter_append, List.filter_append, List.filter_cons_of_pos hn,
      List.filter_cons_of_pos hgn, List.flatMap_append, List.flatMap_append, List.flatMap_cons,
      List.flatMap_cons, h c (by simp) hc]

/-- What is read of a field stays the same if it does for the children there that
are carried over. -/
theorem map_find?_modifyKept {β : Type} {read : Tree → β} (hg : ∀ t, (g t).tag = t.tag)
    (name : String) {cs : List Tree} (i : Nat)
    (h : ∀ c ∈ cs, c.isKept = true → c.field = some name → read (g c) = read c) :
    ((modifyKept g i cs).find? fun c => c.field == some name).map read =
      (cs.find? fun c => c.field == some name).map read := by
  rcases modifyKept_cases g cs i with ⟨-, he⟩ | ⟨xs, c, ys, rfl, hc, -, he⟩
  · rw [he]
  · have hfield : (g c).field = c.field := (SameRole.of_tag (hg c)).field
    rw [he, List.find?_append, List.find?_append, Option.map_or, Option.map_or]
    congr 1
    simp only [List.find?_cons, hfield]
    cases hp : c.field == some name with
    | true => exact congrArg some (h c (by simp) hc (beq_iff_eq.mp hp))
    | false => rfl

end

/-- Of the children carried over the one at the place is changed, and those
before it are not. -/
theorem kept_blankAt (i : Nat) (p : List Nat) (t : Tree) :
    (blankAt (i :: p) t).kept[i]? = t.kept[i]?.map (blankAt p) ∧
      (blankAt (i :: p) t).kept.take i = t.kept.take i := by
  have hkept : (blankAt (i :: p) t).kept =
      (modifyKept (blankAt p) i t.children).filter isKept := rfl
  rw [hkept, kept]
  rcases modifyKept_cases (blankAt p) t.children i with ⟨hle, he⟩ | ⟨xs, c, ys, hcs, hc, hi, he⟩
  · rw [he, List.getElem?_eq_none hle]
    exact ⟨rfl, rfl⟩
  · have hc' : (blankAt p c).isKept = true := (SameRole.of_tag (tag_blankAt p c)).isKept.trans hc
    rw [he, hcs, List.filter_append, List.filter_append, List.filter_cons_of_pos hc,
      List.filter_cons_of_pos hc', ← hi]
    simp

/-- The blank node is found at its address. -/
theorem at?_blankAt (r : List Nat) : ∀ (p : List Nat) (t : Tree),
    (blankAt p t).at? (p ++ r) = (t.at? p).bind fun c => c.blankNames.at? r
  | [], _ => rfl
  | i :: p, t => by
    rw [List.cons_append, at?_cons, at?_cons, (kept_blankAt i p t).1]
    cases t.kept[i]? with
    | none => rfl
    | some c => exact at?_blankAt r p c

/-! ### The names above and before a blank declaration -/

/-- The listed names of a node are read off its tag and those of its children. -/
theorem identifiers_congr {t u : Tree} (ht : u.tag = t.tag)
    (hc : u.children.map Tree.tag = t.children.map Tree.tag) : identifiers u = identifiers t := by
  have htags : ∀ cs : List Tree,
      ((cs.filter isNamed).filter fun c => c.kind == "identifier").map text =
        (((cs.map Tree.tag).filter Tag.isNamed).filter fun g => g.kind == "identifier").map
          fun g => g.text.getD "" := by
    intro cs
    simp only [List.filter_map, List.map_map]
    rfl
  unfold identifiers namedChildren
  rw [htags, htags, hc, kind, kind, text, text, ht]

/-- The names of a parameter declaration are read off the tags of its children. -/
theorem parameterNamesOf_congr {t u : Tree}
    (hc : u.children.map Tree.tag = t.children.map Tree.tag) :
    parameterNamesOf u = parameterNamesOf t := by
  have htags : ∀ cs : List Tree,
      ((cs.filter fun c => c.field == some "name").filter
          fun c => c.kind == "identifier").map text =
        (((cs.map Tree.tag).filter fun g => g.field == some "name").filter
          fun g => g.kind == "identifier").map fun g => g.text.getD "" := by
    intro cs
    simp only [List.filter_map, List.map_map]
    rfl
  unfold parameterNamesOf childrenByField
  rw [htags, htags, hc]

theorem blankNames_eq_self {t : Tree} (h : t.form.operandFields = []) : t.blankNames = t := by
  unfold blankNames
  cases hf : t.form <;> first | rfl | (rw [hf] at h; exact absurd h (by decide))

theorem map_tag_children_blankAt (i : Nat) (p : List Nat) (t : Tree) :
    (blankAt (i :: p) t).children.map Tree.tag = t.children.map Tree.tag :=
  map_tag_modifyKept (tag_blankAt p) t.children i

theorem identifiers_blankAt {t : Tree} (h : t.kind = "identifier" ∨ t.kind = "expression_list") :
    ∀ p : List Nat, identifiers (blankAt p t) = identifiers t
  | [] => by
    rw [blankAt, blankNames_eq_self]
    rcases h with h | h <;> rw [form, h] <;> rfl
  | i :: p => identifiers_congr rfl (map_tag_children_blankAt i p t)

theorem parameterNamesOf_blankAt {t : Tree} (h : isParameter t = true) :
    ∀ p : List Nat, parameterNamesOf (blankAt p t) = parameterNamesOf t
  | [] => by
    rw [blankAt, blankNames_eq_self]
    rcases Bool.or_eq_true_iff.mp h with h | h <;> rw [form, beq_iff_eq.mp h] <;> rfl
  | i :: p => parameterNamesOf_congr (map_tag_children_blankAt i p t)

theorem parameterNames_blankAt {t : Tree} (h : t.Regular) :
    ∀ p : List Nat, parameterNames (blankAt p t) = parameterNames t
  | [] => by
    unfold parameterNames
    by_cases hk : t.kind = "parameter_list"
    · rw [blankAt, blankNames_eq_self]
      rw [form, hk]
      rfl
    · rw [if_neg hk, if_neg]
      rwa [blankAt, (SameRole.of_tag t.tag_blankNames).kind]
  | i :: p => by
    unfold parameterNames
    have hkind : (blankAt (i :: p) t).kind = t.kind := rfl
    rw [hkind]
    split
    · rename_i hk
      have htag := tag_blankAt p
      refine flatMap_modifyKept htag i fun c hc hkept => parameterNamesOf_blankAt ?_ p
      exact h.parameters hk c (List.mem_filter.mpr ⟨hc, hkept⟩)
    · rfl

/-- What a node opens does not turn on the declarations below it. -/
theorem openingNames_blankAt {t : Tree} (h : t.Grammatical) (i : Nat) (p : List Nat) :
    openingNames (blankAt (i :: p) t) = openingNames t := by
  have htag := tag_blankAt p
  have hform : (blankAt (i :: p) t).form = t.form := rfl
  have hparameters : ∀ name,
      parametersOf (blankAt (i :: p) t) name = parametersOf t name := by
    intro name
    refine congrArg (Option.getD · []) (map_find?_modifyKept htag name i ?_)
    exact fun c hc hkept _ =>
      parameterNames_blankAt (h.child (List.mem_filter.mpr ⟨hc, hkept⟩)).regular p
  unfold openingNames
  rw [hform]
  cases hf : t.form <;> try rfl
  case funcLiteral => rw [hparameters, hparameters]
  case typeSwitch =>
    refine congrArg (Option.getD · []) (map_find?_modifyKept htag "alias" i ?_)
    exact fun c hc hkept hfield => identifiers_blankAt
      (h.regular.names "alias" (by rw [hf]; rfl) c (List.mem_filter.mpr ⟨hc, hkept⟩) hfield) p

/-- What is seen on the way to an address and then on the way on. -/
theorem seenAt_append {c : Tree} (r : List Nat) : ∀ {p : List Nat} {t : Tree}, t.at? p = some c →
    t.seenAt (p ++ r) = c.seenAt r ++ t.seenAt p
  | [], _, h => by rw [List.nil_append, seenAt, List.append_nil, Option.some.inj h]
  | _ :: _, _, h => by
    obtain ⟨d, hd, hc⟩ := exists_of_at?_cons h
    rw [List.cons_append, seenAt_cons hd, seenAt_cons hd, seenAt_append r hc, List.append_assoc,
      List.append_assoc, List.append_assoc]

/-- **Above a blank declaration nothing changes**: the names that are seen on the
way to the declaration are the same. -/
theorem seenAt_blankAt {c : Tree} (r : List Nat) : ∀ {p : List Nat} {t : Tree}, t.Grammatical →
    t.at? p = some c → (blankAt p t).seenAt (p ++ r) = c.blankNames.seenAt r ++ t.seenAt p
  | [], _, _, h => by rw [List.nil_append, blankAt, seenAt, List.append_nil, Option.some.inj h]
  | i :: p, t, h, hc => by
    obtain ⟨d, hd, hc⟩ := exists_of_at?_cons hc
    obtain ⟨hd', hbefore⟩ := kept_blankAt i p t
    rw [hd, Option.map_some] at hd'
    rw [List.cons_append, seenAt_cons hd', seenAt_cons hd, hbefore, openingNames_blankAt h,
      seenAt_blankAt r (h.child (List.mem_of_getElem? hd)) hc, List.append_assoc,
      List.append_assoc, List.append_assoc]

end Tree

end GoComplexity
