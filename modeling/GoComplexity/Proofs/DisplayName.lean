/-
# Display names

A method whose receiver list holds a parameter is shown by the type of the first one:
a star for each pointer on the way to its base, and then the name of the base, or a
fixed word if the base is missing or no plain type name.  Names hold no stars,
parentheses and dots, so that a display name tells the number of pointers, the base and
the name of the method apart, and is never the name of a function.

Key definitions: `LeadsTo`, `baseName`, `Tree.firstReceiver?`, `Tree.displayName?`,
`qualifiedName`.
Key theorems: `render_of_leadsTo`, `exists_leadsTo`, `LeadsTo.unique`,
`qualifiedName_inj`, `displayName?_method`.
-/
import GoComplexity.Proofs.Cutting
import GoComplexity.Proofs.VariedOutline

namespace GoComplexity

/-! ### Pointers -/

/-- A type, if there is one, leads through a number of pointers to a base, if there is one.
What a pointer points to is the first of its named children that is no comment. -/
inductive LeadsTo : Option Tree → Nat → Option Tree → Prop
  | nothing : LeadsTo none 0 none
  | direct {t : Tree} (h : t.kind ≠ "pointer_type") : LeadsTo (some t) 0 (some t)
  | pointer {t : Tree} {k : Nat} {base : Option Tree} (h : t.kind = "pointer_type")
      (hbase : LeadsTo (t.children.find? Tree.isKept) k base) : LeadsTo (some t) (k + 1) base

mutual

/-- Every type leads to a base. -/
theorem exists_leadsTo_some : ∀ t : Tree, ∃ k base, LeadsTo (some t) k base
  | .node tag cs => by
    by_cases h : tag.kind = "pointer_type"
    · obtain ⟨k, base, hbase⟩ := exists_leadsTo_find cs
      exact ⟨k + 1, base, .pointer h hbase⟩
    · exact ⟨0, some (.node tag cs), .direct h⟩

theorem exists_leadsTo_find : ∀ cs : List Tree, ∃ k base, LeadsTo (cs.find? Tree.isKept) k base
  | [] => ⟨0, none, .nothing⟩
  | c :: cs => by
    rw [List.find?_cons]
    split
    · exact exists_leadsTo_some c
    · exact exists_leadsTo_find cs

end

theorem exists_leadsTo : ∀ type : Option Tree, ∃ k base, LeadsTo type k base
  | none => ⟨0, none, .nothing⟩
  | some t => exists_leadsTo_some t

/-- A type leads to one base only. -/
theorem LeadsTo.unique {type base base' : Option Tree} {k k' : Nat} (h : LeadsTo type k base)
    (h' : LeadsTo type k' base') : k' = k ∧ base' = base := by
  induction h generalizing k' with
  | nothing =>
    cases h'
    exact ⟨rfl, rfl⟩
  | direct h =>
    cases h' with
    | direct => exact ⟨rfl, rfl⟩
    | pointer hp => exact absurd hp h
  | pointer h _ ih =>
    cases h' with
    | direct hd => exact absurd h hd
    | pointer _ hbase =>
      obtain ⟨rfl, rfl⟩ := ih hbase
      exact ⟨rfl, rfl⟩

/-- The name of a base: its text if it is a plain type name, and else a fixed word. -/
def baseName : Option Tree → String
  | some t => if t.kind = "type_identifier" then t.text else "BADRECV"
  | none => "BADRECV"

/-- A star for each of so many pointers. -/
def stars (k : Nat) : String := String.ofList (List.replicate k '*')

theorem receiverElem_eq : ∀ cs : List Tree, receiverType.receiverElem cs =
    ((cs.find? Tree.isKept).map receiverType).getD .other
  | [] => rfl
  | c :: cs => by
    rw [receiverType.receiverElem, List.find?_cons]
    cases c.isKept with
    | true => rfl
    | false => exact receiverElem_eq cs

/-- **A receiver type is shown** by a star for each pointer and the name of its base. -/
theorem render_of_leadsTo {type base : Option Tree} {k : Nat} (h : LeadsTo type k base) :
    ((type.map receiverType).getD .other).render = stars k ++ baseName base := by
  induction h with
  | nothing => rfl
  | @direct t h =>
    show (receiverType t).render = "" ++ baseName (some t)
    rw [receiverType_eq, String.empty_append, baseName, if_neg h]
    split <;> rfl
  | @pointer t k base h hbase ih =>
    have hkind : t.kind ≠ "type_identifier" := by
      rw [h]
      decide
    have hstars : stars (k + 1) = "*" ++ stars k := by
      rw [stars, List.replicate_succ, ← List.singleton_append, String.ofList_append]
      rfl
    show (receiverType t).render = _
    rw [receiverType_eq, if_neg hkind, if_pos h, Receiver.render, receiverElem_eq, ih, hstars,
      String.append_assoc]

/-! ### Names with a receiver -/

/-- The name of a method in front of which stands its receiver type in parentheses. -/
def qualifiedName (k : Nat) (base name : String) : String :=
  "(" ++ (stars k ++ base) ++ ")." ++ name

/-- A text that may be an identifier, as far as it holds no star, parenthesis or dot. -/
def IsNameText (s : String) : Prop :=
  '*' ∉ s.toList ∧ '(' ∉ s.toList ∧ ')' ∉ s.toList ∧ '.' ∉ s.toList

instance (s : String) : Decidable (IsNameText s) := inferInstanceAs (Decidable (_ ∧ _))

theorem toList_qualifiedName (k : Nat) (base name : String) :
    (qualifiedName k base name).toList =
      ('(' :: (List.replicate k '*' ++ base.toList)) ++ ')' :: ('.' :: name.toList) := by
  rw [qualifiedName, stars]
  simp only [String.toList_append, String.toList_ofList, List.append_assoc, List.cons_append]
  rfl

/-- Stars in front of texts without stars are told apart from them. -/
theorem replicate_append_inj : ∀ {k k' : Nat} {base base' : List Char}, '*' ∉ base →
    '*' ∉ base' → List.replicate k '*' ++ base = List.replicate k' '*' ++ base' →
    k = k' ∧ base = base'
  | 0, 0, _, _, _, _, heq => ⟨rfl, heq⟩
  | 0, k' + 1, base, base', h, _, heq => by
    have hmem : '*' ∈ List.replicate (k' + 1) '*' ++ base' := List.mem_cons_self
    exact absurd (heq ▸ hmem : '*' ∈ List.replicate 0 '*' ++ base) h
  | k + 1, 0, base, base', _, h', heq => by
    have hmem : '*' ∈ List.replicate (k + 1) '*' ++ base := List.mem_cons_self
    exact absurd (heq ▸ hmem : '*' ∈ List.replicate 0 '*' ++ base') h'
  | k + 1, k' + 1, _, _, h, h', heq =>
    (replicate_append_inj h h' (List.cons.inj heq).2).imp_left (congrArg (· + 1))

/-- **A qualified name tells its parts apart.** -/
theorem qualifiedName_inj {k k' : Nat} {base base' name name' : String}
    (hbase : IsNameText base) (hbase' : IsNameText base') :
    qualifiedName k base name = qualifiedName k' base' name' ↔
      k = k' ∧ base = base' ∧ name = name' := by
  constructor
  · intro heq
    have hclosing {k : Nat} {base : String} (h : IsNameText base) :
        ')' ∉ '(' :: (List.replicate k '*' ++ base.toList) := by
      simp [List.mem_replicate, h.2.2.1]
    have htexts := congrArg String.toList heq
    rw [toList_qualifiedName, toList_qualifiedName] at htexts
    obtain ⟨hreceiver, hname⟩ := firstMark_inj (hclosing hbase) (hclosing hbase') htexts
    obtain ⟨hk, hbases⟩ := replicate_append_inj hbase.1 hbase'.1 (List.cons.inj hreceiver).2
    exact ⟨hk, String.toList_inj.mp hbases, String.toList_inj.mp (List.cons.inj hname).2⟩
  · rintro ⟨rfl, rfl, rfl⟩
    rfl

/-- A qualified name is no identifier. -/
theorem qualifiedName_ne {k : Nat} {base name other : String} (h : IsNameText other) :
    other ≠ qualifiedName k base name := by
  intro heq
  have hmem : '(' ∈ (qualifiedName k base name).toList := by
    rw [toList_qualifiedName]
    exact List.mem_cons_self
  exact h.2.1 (heq ▸ hmem)

/-! ### Display names of declarations -/

namespace Tree

/-- The first parameter of the receiver list of a method, if there is one. -/
def firstReceiver? (t : Tree) : Option Tree :=
  (t.childByField? "receiver").bind fun l => l.namedChildren.find? isParameter

/-- The receiver of a method leads through so many pointers to a base. -/
def Receives (t : Tree) (k : Nat) (base : Option Tree) : Prop :=
  ∃ p, t.firstReceiver? = some p ∧ LeadsTo (p.childByField? "type") k base

/-- The display name of the declaration that a top-level node is. -/
def displayName? (t : Tree) : Option String :=
  (declarationOf? "" [] t 0).map fun d => d.1.displayName

theorem receiverOf?_eq (t : Tree) : receiverOf? (t.childByField? "receiver") =
    t.firstReceiver?.map fun p => ((p.childByField? "type").map receiverType).getD .other := by
  unfold receiverOf? firstReceiver?
  cases t.childByField? "receiver" with
  | none => rfl
  | some l =>
    rw [Option.map_some, Option.bind_some, ← List.head?_filter]
    cases l.namedChildren.filter isParameter <;> rfl

section

variable {t : Tree} (h : t.kind = "method_declaration") (path : String) (doc : List String)
  (next : Nat)

include h

theorem map_displayName_method :
    (declarationOf? path doc t next).map (fun d => d.1.displayName) =
      some (match receiverOf? (t.childByField? "receiver") with
        | some r => "(" ++ r.render ++ ")." ++ nameOf t
        | none => nameOf t) := by
  unfold declarationOf?
  rw [h]
  cases receiverOf? (t.childByField? "receiver") <;> rfl

/-- A method with no receiver in its list is shown by its name. -/
theorem map_displayName_of_none (hnone : t.firstReceiver? = none) :
    (declarationOf? path doc t next).map (fun d => d.1.displayName) = some (nameOf t) := by
  rw [map_displayName_method h, receiverOf?_eq, hnone]
  rfl

/-- A method with a receiver is shown by the pointers and the base of the receiver's type. -/
theorem map_displayName_of_receives {k : Nat} {base : Option Tree} (hreceives : t.Receives k base) :
    (declarationOf? path doc t next).map (fun d => d.1.displayName) =
      some (qualifiedName k (baseName base) (nameOf t)) := by
  obtain ⟨p, hsome, hleads⟩ := hreceives
  rw [map_displayName_method h, receiverOf?_eq, hsome, Option.map_some]
  dsimp only
  rw [render_of_leadsTo hleads, qualifiedName]

/-- A method has one display name, wherever it stands. -/
theorem map_displayName_eq :
    (declarationOf? path doc t next).map (fun d => d.1.displayName) = t.displayName? := by
  rw [displayName?, map_displayName_method h, map_displayName_method h]

end

theorem displayName?_function {t : Tree} (h : t.kind = "function_declaration") :
    t.displayName? = some (nameOf t) := by
  unfold displayName? declarationOf?
  rw [h]
  rfl

/-- A base that is a plain type name, and no other word than the fixed one. -/
structure IsPlainBase (u : Tree) : Prop where
  kind : u.kind = "type_identifier"
  text : IsNameText u.text
  ne : u.text ≠ "BADRECV"

theorem isNameText_baseName {base : Option Tree}
    (h : ∀ u, base = some u → u.kind = "type_identifier" → IsNameText u.text) :
    IsNameText (baseName base) := by
  have hword : IsNameText "BADRECV" := by decide
  cases base with
  | none => exact hword
  | some u =>
    rw [baseName]
    split
    case isTrue hkind => exact h u rfl hkind
    case isFalse => exact hword

/-- Only a plain type name is shown as one other than the fixed word. -/
theorem baseName_eq_iff {text : String} (hne : text ≠ "BADRECV") (base : Option Tree) :
    text = baseName base ↔ ∃ u, base = some u ∧ u.kind = "type_identifier" ∧ u.text = text := by
  cases base with
  | none => simpa [baseName] using hne
  | some u =>
    rw [baseName]
    by_cases hkind : u.kind = "type_identifier"
    · simp [hkind, eq_comm]
    · simpa [hkind] using hne

end Tree

open GoComplexity.Tree

/-- **The display name of a method.** Wherever it stands, it is the plain name if there is no
receiver, and else shows a star for each pointer to the base of the receiver's type, the name
of the base and the name of the method.  So if the base is a plain type name, other than the
fixed word, then another method with a receiver has the same display name just if it has as
many pointers, the same base and the same name; and no function has the display name of a
method with a receiver. -/
theorem displayName?_method {t : Tree} (h : t.kind = "method_declaration") :
    (∀ path doc next,
        (declarationOf? path doc t next).map (fun d => d.1.displayName) = t.displayName?) ∧
      (t.firstReceiver? = none → t.displayName? = some (nameOf t)) ∧
      (∀ p, t.firstReceiver? = some p →
        ∃ k base, (∀ k' base', LeadsTo (p.childByField? "type") k' base' ↔ k' = k ∧ base' = base) ∧
          t.displayName? = some (qualifiedName k (baseName base) (nameOf t))) ∧
      (∀ k u, t.Receives k (some u) → IsPlainBase u →
        ∀ t' k' base', t'.kind = "method_declaration" → t'.Receives k' base' →
          (∀ u', base' = some u' → u'.kind = "type_identifier" → IsNameText u'.text) →
          (t.displayName? = t'.displayName? ↔
            k = k' ∧ (∃ u', base' = some u' ∧ u'.kind = "type_identifier" ∧ u'.text = u.text) ∧
              nameOf t = nameOf t')) ∧
      ∀ f, f.kind = "function_declaration" → IsNameText (nameOf f) → t.firstReceiver? ≠ none →
        f.displayName? ≠ t.displayName? := by
  have hshown {k : Nat} {base : Option Tree} {t : Tree} (h : t.kind = "method_declaration")
      (hreceives : t.Receives k base) :
      t.displayName? = some (qualifiedName k (baseName base) (nameOf t)) :=
    map_displayName_of_receives h "" [] 0 hreceives
  refine ⟨map_displayName_eq h, map_displayName_of_none h "" [] 0, fun p hp => ?_,
    fun k u ht hu t' k' base' h' ht' hbase' => ?_, fun f hf hname hsome heq => ?_⟩
  · obtain ⟨k, base, hleads⟩ := exists_leadsTo (p.childByField? "type")
    refine ⟨k, base, fun k' base' => ⟨hleads.unique, ?_⟩, hshown h ⟨p, hp, hleads⟩⟩
    rintro ⟨rfl, rfl⟩
    exact hleads
  · have hbase : baseName (some u) = u.text := if_pos hu.kind
    rw [hshown h ht, hshown h' ht', Option.some.injEq, hbase,
      qualifiedName_inj hu.text (isNameText_baseName hbase'), baseName_eq_iff hu.ne]
  · obtain ⟨p, hp⟩ := Option.ne_none_iff_exists'.mp hsome
    obtain ⟨k, base, hleads⟩ := exists_leadsTo (p.childByField? "type")
    rw [displayName?_function hf, hshown h ⟨p, hp, hleads⟩] at heq
    exact qualifiedName_ne hname (Option.some.inj heq)

/-- A method on a pointer, with a comment after the star. -/
def methodOn (pointee : Tree) : Tree :=
  .node { kind := "method_declaration" }
    [.node { kind := "parameter_list", field := some "receiver" }
      [.node { kind := "parameter_declaration" }
        [.node { kind := "pointer_type", field := some "type" }
          [.node { kind := "*", isNamed := false } [], .node { kind := "comment" } [], pointee]]],
      .node { kind := "field_identifier", field := some "name", text := some "m" } []]

/-- A method on a pointer to a named type and one on a pointer to a generic type. -/
theorem displayName?_methodOn :
    let named : Tree := .node { kind := "type_identifier", text := some "T" } []
    let generic : Tree := .node { kind := "generic_type" } []
    (methodOn named).kind = "method_declaration" ∧
      (methodOn named).displayName? = some "(*T).m" ∧
      (methodOn generic).displayName? = some "(*BADRECV).m" ∧
      (methodOn named).displayName? ≠ (methodOn generic).displayName? := by
  intro named generic
  have hnamed : (methodOn named).Receives 1 (some named) :=
    ⟨_, rfl, .pointer rfl (.direct (by decide))⟩
  have hgeneric : (methodOn generic).Receives 1 (some generic) :=
    ⟨_, rfl, .pointer rfl (.direct (by decide))⟩
  have hbase : IsPlainBase named := ⟨rfl, by decide, by decide⟩
  obtain ⟨-, -, -, hmethods, -⟩ := displayName?_method (t := methodOn named) rfl
  refine ⟨rfl, rfl, rfl, fun heq => ?_⟩
  obtain ⟨-, ⟨u, hu, hkind, -⟩, -⟩ :=
    (hmethods 1 named hnamed hbase (methodOn generic) 1 (some generic) rfl hgeneric
      fun u hu hkind => by
        obtain rfl := Option.some.inj hu
        exact absurd hkind (by decide)).mp heq
  obtain rfl := Option.some.inj hu
  exact absurd hkind (by decide)

end GoComplexity
