/-
# The outline of a variation

At the top level a variation leaves everything in its place, and comments as they
are.  Then doc comments stay with their declarations, and the outline of the
variation is the outline of the file with its names renamed, and the variation is
nested as deeply as the file.

Key definitions: `Tree.TopVaries`, `Declaration.vary`, `Outline.vary`.
Key theorems: `declarationOf?_varies`, `Outline.ofTree_varies`,
`isTooDeep_varies`.
-/
import GoComplexity.Outline.Build
import GoComplexity.Proofs.Variation

namespace GoComplexity

/-- A receiver with its names renamed. -/
def Receiver.rename (ρ : String → String) : Receiver → Receiver
  | .ident name => .ident (ρ name)
  | .pointer elem => .pointer (elem.rename ρ)
  | .other => .other

@[simp] theorem Receiver.rename_id : Receiver.rename id = id := by
  funext r
  induction r with
  | ident name => rfl
  | pointer elem ih => exact congrArg Receiver.pointer ih
  | other => rfl

/-- A line of values with its names renamed and less of its positions. -/
def ValueSpec.vary (ρ : String → String) (g : Position → Position) (s : ValueSpec) : ValueSpec :=
  ⟨s.names.map ρ, s.values.map (Node.vary ρ g)⟩

/-- A declaration with its names renamed and less of the positions of its nodes. -/
def Declaration.vary (ρ : String → String) (g : Position → Position) (d : Declaration) :
    Declaration :=
  { d with
    name := ρ d.name
    body := d.body.map (Node.vary ρ g)
    receiver := d.receiver.map (Receiver.rename ρ)
    specs := d.specs.map (ValueSpec.vary ρ g) }

/-- An outline with its names renamed and less of the positions of its nodes. -/
def Outline.vary (ρ : String → String) (g : Position → Position) (o : Outline) : Outline :=
  ⟨o.path, ρ o.package, o.declarations.map (Declaration.vary ρ g)⟩

/-- How a top-level node may vary. -/
structure Tree.TopVaries (ρ : String → String) (g : Position → Position) (t u : Tree) : Prop where
  varies : t.Varies ρ g u
  start : u.start = t.start
  stop : u.stop = t.stop
  comment : t.isComment = true → u.text = t.text

variable {ρ : String → String} {g : Position → Position}

theorem Tree.forall₂_namedChildren {root root' : Tree}
    (h : List.Forall₂ (Tree.TopVaries ρ g) root.children root'.children) :
    List.Forall₂ (Tree.TopVaries ρ g) root.namedChildren root'.namedChildren :=
  List.rel_filter (fun _ _ ht => iff_of_eq (congrArg (· = true) ht.varies.isNamed.symm)) h

/-! ### Receivers -/

theorem receiverType_eq (t : Tree) :
    receiverType t =
      if t.kind = "type_identifier" then .ident t.text
      else if t.kind = "pointer_type" then .pointer (receiverType.receiverElem t.children)
      else .other := by
  cases t with
  | node tag cs => rw [receiverType]; rfl

theorem receiverType_of_children {t u : Tree} (h : t.Varies ρ g u)
    (hchildren : receiverType.receiverElem u.children =
      (receiverType.receiverElem t.children).rename ρ) :
    receiverType u = (receiverType t).rename ρ := by
  rw [receiverType_eq, receiverType_eq, h.kind]
  by_cases hi : t.kind = "type_identifier"
  · have hne : t.kind ≠ "comment" := by rw [hi]; decide
    rw [if_pos hi, if_pos hi, h.text (Or.inl hne)]
    rfl
  · rw [if_neg hi, if_neg hi]
    by_cases hp : t.kind = "pointer_type"
    · rw [if_pos hp, if_pos hp, hchildren]
      rfl
    · rw [if_neg hp, if_neg hp]
      rfl

theorem receiverElem_varied {cs ds : List Tree} (h : Tree.Varied ρ g cs ds) :
    receiverType.receiverElem ds = (receiverType.receiverElem cs).rename ρ := by
  induction h with
  | nil => rfl
  | @comment c cs ds hk _ _ _ ih =>
    have hkept : c.isKept = false := Tree.isKept_of_isComment hk
    rw [receiverType.receiverElem, if_neg (Bool.eq_false_iff.mp hkept)]
    exact ih
  | @node c d cs ds ht hs _ ihs ih =>
    have hv : c.Varies ρ g d := ⟨ht, hs⟩
    rw [receiverType.receiverElem, receiverType.receiverElem, hv.isKept]
    by_cases hc : c.isKept = true
    · rw [if_pos hc, if_pos hc]
      exact receiverType_of_children hv ihs
    · rw [if_neg hc, if_neg hc]
      exact ih

theorem receiverType_varies {t u : Tree} (h : t.Varies ρ g u) :
    receiverType u = (receiverType t).rename ρ :=
  receiverType_of_children h (receiverElem_varied h.children)

/-- The receiver is that of the first parameter of its list. -/
theorem receiverOf?_varies {t u : Tree} (h : t.Varies ρ g u) (field : String) :
    receiverOf? (u.childByField? field) =
      (receiverOf? (t.childByField? field)).map (Receiver.rename ρ) := by
  rcases h.childByField? field with ⟨ht, hu⟩ | ⟨l, m, ht, hu, hlm, -⟩
  · rw [ht, hu]
    rfl
  · rw [ht, hu]
    have hparameters : List.Forall₂ (Tree.Varies ρ g) (l.namedChildren.filter isParameter)
        (m.namedChildren.filter isParameter) := by
      unfold Tree.namedChildren
      rw [List.filter_filter, List.filter_filter]
      refine hlm.children.filter (fun c d hcd => ?_) fun c hk _ => ?_
      · rw [isParameter, isParameter, hcd.kind, hcd.isNamed]
      · have h₁ : c.kind ≠ "parameter_declaration" := Tree.kind_ne_of_isComment hk (by decide)
        have h₂ : c.kind ≠ "variadic_parameter_declaration" :=
          Tree.kind_ne_of_isComment hk (by decide)
        simp [isParameter, h₁, h₂]
    unfold receiverOf?
    rw [Option.map_some, Option.map_some]
    cases hl : l.namedChildren.filter isParameter with
    | nil =>
      rw [hl] at hparameters
      rw [List.forall₂_nil_left_iff.mp hparameters]
      rfl
    | cons c cs =>
      rw [hl] at hparameters
      obtain ⟨d, ds, hcd, -, hm⟩ := List.forall₂_cons_left_iff.mp hparameters
      rw [hm]
      rcases hcd.childByField? "type" with ⟨hc, hd⟩ | ⟨a, b, hc, hd, hab, -⟩
      · simp only [hc, hd]
        rfl
      · simp only [hc, hd, Option.map_some, Option.getD_some, receiverType_varies hab]

/-! ### Values -/

theorem specsOf_varies {t u : Tree} (h : t.Varies ρ g u) {specKind : String}
    (hne : specKind ≠ "comment") :
    List.Forall₂ (Tree.Varies ρ g) (specsOf specKind t) (specsOf specKind u) := by
  refine h.children.flatMap (fun c d hcd => ?_) fun c hk hc => ?_
  · rw [hcd.kind]
    by_cases hs : c.kind = specKind
    · rw [if_pos hs, if_pos hs]
      exact List.Forall₂.cons hcd List.Forall₂.nil
    · rw [if_neg hs, if_neg hs]
      split
      · exact hcd.filter_kind hne
      · exact List.Forall₂.nil
  · have hnone : c.namedChildren = [] := by rw [Tree.namedChildren, hc]; rfl
    rw [if_neg (Tree.kind_ne_of_isComment hk hne), hnone]
    split <;> rfl

theorem valuesOf_varies {t u : Tree} (h : t.Varies ρ g u) :
    List.Forall₂ (Tree.Varies ρ g) (valuesOf t) (valuesOf u) := by
  have hkept : ∀ l : Tree, (l.namedChildren.filter fun e => !e.isComment) = l.kept := by
    intro l
    rw [Tree.namedChildren, List.filter_filter]
    exact List.filter_congr fun c _ => Bool.and_comm _ _
  unfold valuesOf
  rcases h.childByField? "value" with ⟨ht, hu⟩ | ⟨l, m, ht, hu, hlm, -⟩
  · rw [ht, hu]
    exact List.Forall₂.nil
  · rw [ht, hu]
    simp only [Option.map_some, Option.getD_some, hkept]
    exact hlm.kept

theorem convertValues_cons (path : String) (parent : Form) (t : Tree) (ts : List Tree)
    (next : Nat) :
    convertValues path parent (t :: ts) next =
      ((convert path parent t ⟨next, [[]]⟩).1 ::
          (convertValues path parent ts (convert path parent t ⟨next, [[]]⟩).2.next).1,
        (convertValues path parent ts (convert path parent t ⟨next, [[]]⟩).2.next).2) :=
  rfl

theorem convertSpecs_cons (path : String) (t : Tree) (ts : List Tree) (next : Nat) :
    convertSpecs path (t :: ts) next =
      (⟨(t.childrenByField "name").map Tree.text,
            (convertValues path t.form (valuesOf t) next).1⟩ ::
          (convertSpecs path ts (convertValues path t.form (valuesOf t) next).2).1,
        (convertSpecs path ts (convertValues path t.form (valuesOf t) next).2).2) :=
  rfl

section

variable (path : String) (hρ : Renames ρ)

include hρ

theorem convertValues_varies (parent : Form) {ts us : List Tree}
    (h : List.Forall₂ (Tree.Varies ρ g) ts us) :
    ∀ next, (convertValues path parent us next).1.map (Node.vary id g) =
        (convertValues path parent ts next).1.map (Node.vary ρ g) ∧
      (convertValues path parent us next).2 = (convertValues path parent ts next).2 := by
  induction h with
  | nil => exact fun _ => ⟨rfl, rfl⟩
  | @cons t u ts us htu _ ih =>
    intro next
    obtain ⟨hnode, hstate⟩ := convert_varies path hρ htu parent ⟨next, [[]]⟩
    have hstart : (⟨next, [[]]⟩ : Conversion).rename ρ = ⟨next, [[]]⟩ := rfl
    rw [hstart] at hnode hstate
    have hnext : (convert path parent u ⟨next, [[]]⟩).2.next =
        (convert path parent t ⟨next, [[]]⟩).2.next := by rw [hstate]; rfl
    obtain ⟨hnodes, hlast⟩ := ih (convert path parent t ⟨next, [[]]⟩).2.next
    rw [convertValues_cons, convertValues_cons, hnext]
    constructor
    · rw [List.map_cons, List.map_cons, hnode, hnodes]
    · exact hlast

theorem convertSpecs_varies {ts us : List Tree} (h : List.Forall₂ (Tree.Varies ρ g) ts us) :
    ∀ next, (convertSpecs path us next).1.map (ValueSpec.vary id g) =
        (convertSpecs path ts next).1.map (ValueSpec.vary ρ g) ∧
      (convertSpecs path us next).2 = (convertSpecs path ts next).2 := by
  induction h with
  | nil => exact fun _ => ⟨rfl, rfl⟩
  | @cons t u ts us htu _ ih =>
    intro next
    obtain ⟨hvalues, hnext⟩ := convertValues_varies path hρ t.form (valuesOf_varies htu) next
    obtain ⟨hspecs, hlast⟩ := ih (convertValues path t.form (valuesOf t) next).2
    rw [convertSpecs_cons, convertSpecs_cons, htu.form, hnext]
    constructor
    · rw [List.map_cons, List.map_cons, hspecs]
      refine congrArg (· :: _) ?_
      unfold ValueSpec.vary
      rw [hvalues, htu.map_text_name, List.map_id]
    · exact hlast

/-! ### Functions -/

theorem convertBody_varies {t u : Tree} (h : t.Varies ρ g u) (names : List String) (next : Nat) :
    (convertBody path (names.map ρ) u next).1.map (Node.vary id g) =
        (convertBody path names t next).1.map (Node.vary ρ g) ∧
      (convertBody path (names.map ρ) u next).2 = (convertBody path names t next).2 := by
  unfold convertBody
  rcases h.childByField? "body" with ⟨ht, hu⟩ | ⟨b, c, ht, hu, hbc, -⟩
  · rw [ht, hu]
    exact ⟨rfl, rfl⟩
  · rw [ht, hu, h.form]
    obtain ⟨hnode, hstate⟩ := convert_varies path hρ hbc t.form ⟨next, [names]⟩
    have hstart : (⟨next, [names]⟩ : Conversion).rename ρ = ⟨next, [names.map ρ]⟩ := rfl
    rw [hstart] at hnode hstate
    have hnext := congrArg Conversion.next hstate
    exact ⟨congrArg some hnode, hnext⟩

omit hρ in
theorem signatureNames_varies {t u : Tree} (h : t.Varies ρ g u) (fields : List String) :
    signatureNames fields u = (signatureNames fields t).map ρ := by
  unfold signatureNames
  rw [List.map_flatMap]
  exact List.flatMap_congr fun field _ => h.parametersOf_eq field

theorem nameOf_varies {t u : Tree} (h : t.Varies ρ g u) : nameOf u = ρ (nameOf t) := by
  unfold nameOf
  rcases h.childByField? "name" with ⟨ht, hu⟩ | ⟨c, d, ht, hu, hcd, hf⟩
  · rw [ht, hu]
    exact hρ.empty.symm
  · rw [ht, hu]
    exact hcd.text (Or.inr hf)

theorem packageNameOf_varies {t u : Tree} (h : t.Varies ρ g u) :
    packageNameOf u = ρ (packageNameOf t) := by
  unfold packageNameOf
  rw [h.find?_text "package_identifier" (by decide)]
  cases (t.namedChildren.find? fun c => c.kind == "package_identifier").map Tree.text with
  | none => exact hρ.empty.symm
  | some name => rfl

/-- **A declaration varies with its tree**, and takes as many indexes. -/
theorem declarationOf?_varies (doc : List String) {t u : Tree} (h : t.TopVaries ρ g u)
    (next : Nat) :
    (declarationOf? path doc u next).map (Prod.map (Declaration.vary id g) id) =
      (declarationOf? path doc t next).map (Prod.map (Declaration.vary ρ g) id) := by
  have hposition : u.position path = t.position path := by
    rw [Tree.position, Tree.position, h.start]
  have hname : nameOf u = ρ (nameOf t) := nameOf_varies hρ h.varies
  have hreceiver := receiverOf?_varies h.varies "receiver"
  unfold declarationOf?
  rw [h.varies.kind]
  split
  case h_1 =>
    obtain ⟨hbody, hnext⟩ := convertBody_varies path hρ h.varies
      (signatureNames ["parameters", "result"] t) next
    rw [signatureNames_varies h.varies]
    simp [Declaration.vary, hbody, hnext, hposition, hname]
  case h_2 =>
    obtain ⟨hbody, hnext⟩ := convertBody_varies path hρ h.varies
      (signatureNames ["receiver", "parameters", "result"] t) next
    rw [signatureNames_varies h.varies]
    simp [Declaration.vary, hbody, hnext, hposition, hname, hreceiver]
  case h_3 =>
    obtain ⟨hspecs, hnext⟩ := convertSpecs_varies path hρ
      (specsOf_varies h.varies (by decide : "var_spec" ≠ "comment")) next
    simp [Declaration.vary, hspecs, hnext, hposition, hρ.empty]
  case h_4 =>
    obtain ⟨hspecs, hnext⟩ := convertSpecs_varies path hρ
      (specsOf_varies h.varies (by decide : "const_spec" ≠ "comment")) next
    simp [Declaration.vary, hspecs, hnext, hposition, hρ.empty]
  case h_5 => rfl

end

/-! ### Doc comments -/

/-- What is read of a comment. -/
def Tree.mark (t : Tree) : Point × Point × String := (t.start, t.stop, t.text)

/-- Trackers that wait with the same comments. -/
structure DocTracker.Alike (d e : DocTracker) : Prop where
  group : e.group.map Tree.mark = d.group.map Tree.mark
  lastCodeRow : e.lastCodeRow = d.lastCodeRow

namespace DocTracker.Alike

variable {d e : DocTracker}

theorem last (h : d.Alike e) :
    d.group.getLast? = none ∧ e.group.getLast? = none ∨
      ∃ a b, d.group.getLast? = some a ∧ e.group.getLast? = some b ∧ b.mark = a.mark := by
  have hlast := congrArg List.getLast? h.group
  rw [List.getLast?_map, List.getLast?_map] at hlast
  cases hd : d.group.getLast? with
  | none =>
    rw [hd] at hlast
    exact Or.inl ⟨rfl, Option.map_eq_none_iff.mp hlast⟩
  | some a =>
    rw [hd] at hlast
    obtain ⟨b, hb, hab⟩ := Option.map_eq_some_iff.mp hlast
    exact Or.inr ⟨a, b, rfl, hb, hab⟩

theorem comment (h : d.Alike e) {t u : Tree} (hm : u.mark = t.mark) :
    (d.comment t).Alike (e.comment u) := by
  have hstart : u.start = t.start := congrArg Prod.fst hm
  have hgroup : (e.group ++ [u]).map Tree.mark = (d.group ++ [t]).map Tree.mark := by
    rw [List.map_append, List.map_append, h.group, List.map_singleton, List.map_singleton, hm]
  have hsingle : [u].map Tree.mark = [t].map Tree.mark := congrArg (fun m => [m]) hm
  unfold DocTracker.comment
  rw [h.lastCodeRow, hstart]
  split
  · exact ⟨rfl, rfl⟩
  · rcases h.last with ⟨hd, he⟩ | ⟨a, b, hd, he, hab⟩
    · rw [hd, he]
      exact ⟨hsingle, rfl⟩
    · have hstop : b.stop = a.stop := congrArg (fun m => m.2.1) hab
      simp only [hd, he, hstop]
      split
      · exact ⟨hsingle, rfl⟩
      · exact ⟨hgroup, rfl⟩

theorem docFor (h : d.Alike e) {t u : Tree} (hs : u.start = t.start) :
    e.docFor u = d.docFor t := by
  unfold DocTracker.docFor
  rcases h.last with ⟨hd, he⟩ | ⟨a, b, hd, he, hab⟩
  · rw [hd, he]
  · have hstop : b.stop = a.stop := congrArg (fun m => m.2.1) hab
    have htexts := congrArg (List.map fun m => m.2.2) h.group
    rw [List.map_map, List.map_map] at htexts
    simp only [hd, he, hstop, hs]
    exact if_congr Iff.rfl htexts rfl

end DocTracker.Alike

/-! ### The outline -/

/-- How what is read of a file may vary. -/
structure Reading.Varies (ρ : String → String) (g : Position → Position)
    (r s : Reading) : Prop where
  tracker : r.tracker.Alike s.tracker
  next : s.next = r.next
  package : s.package = ρ r.package
  declarations : s.declarations.map (Declaration.vary id g) =
    r.declarations.map (Declaration.vary ρ g)

section

variable (path : String) (hρ : Renames ρ)

include hρ

theorem Reading.Varies.step {r s : Reading} (h : r.Varies ρ g s) {t u : Tree}
    (ht : t.TopVaries ρ g u) : (r.step path t).Varies ρ g (s.step path u) := by
  have hcode : (DocTracker.code t).Alike (DocTracker.code u) :=
    ⟨rfl, congrArg (fun p : Point => some p.row) ht.stop⟩
  have hdeclaration := declarationOf?_varies path hρ (r.tracker.docFor t) ht r.next
  unfold Reading.step
  rw [ht.varies.isComment, h.tracker.docFor ht.start, ht.varies.kind]
  by_cases hc : t.isComment = true
  · have hm : u.mark = t.mark := by
      rw [Tree.mark, Tree.mark, ht.start, ht.stop, ht.comment hc]
    rw [if_pos hc, if_pos hc]
    exact ⟨h.tracker.comment hm, h.next, h.package, h.declarations⟩
  · rw [if_neg hc, if_neg hc]
    dsimp only
    rw [h.next]
    split
    · exact ⟨hcode, rfl, packageNameOf_varies hρ ht.varies, h.declarations⟩
    · cases htd : declarationOf? path (r.tracker.docFor t) t r.next with
      | none =>
        rw [htd] at hdeclaration
        rw [Option.map_eq_none_iff.mp hdeclaration]
        exact ⟨hcode, rfl, h.package, h.declarations⟩
      | some p =>
        rw [htd] at hdeclaration
        obtain ⟨q, hud, hpq⟩ := Option.map_eq_some_iff.mp hdeclaration
        have hd : q.1.vary id g = p.1.vary ρ g := (Prod.ext_iff.mp hpq).1
        have hn : q.2 = p.2 := (Prod.ext_iff.mp hpq).2
        rw [hud]
        refine ⟨hcode, hn, h.package, ?_⟩
        dsimp only
        rw [List.map_append, List.map_append, h.declarations, List.map_singleton,
          List.map_singleton, hd]

/-- **The outline of a variation** is the outline of the file with its names
renamed. -/
theorem Outline.ofTree_varies {root root' : Tree}
    (h : List.Forall₂ (Tree.TopVaries ρ g) root.children root'.children) :
    (Outline.ofTree path root').vary id g = (Outline.ofTree path root).vary ρ g := by
  have hnamed := Tree.forall₂_namedChildren h
  have hempty : ({} : Reading).Varies ρ g {} := ⟨⟨rfl, rfl⟩, rfl, hρ.empty.symm, rfl⟩
  have hread := List.rel_foldl (P := Reading.Varies ρ g) (R := Tree.TopVaries ρ g)
    (fun _ _ hr _ _ ht => hr.step path hρ ht) hempty hnamed
  unfold Outline.ofTree Outline.vary
  dsimp only
  rw [hread.package, hread.declarations]
  rfl

end

/-! ### Nesting -/

theorem levels_eq (t : Tree) : t.levels = 1 + Tree.levelsAll t.children := by
  cases t with
  | node tag cs => rw [Tree.levels]; rfl

theorem levelsAll_varied {cs ds : List Tree} (h : Tree.Varied ρ g cs ds) :
    Tree.levelsAll ds = Tree.levelsAll cs := by
  induction h with
  | nil => rfl
  | @comment c cs ds hk _ _ _ ih =>
    have hkept : c.isKept = false := Tree.isKept_of_isComment hk
    rw [Tree.levelsAll, if_neg (Bool.eq_false_iff.mp hkept), Nat.zero_max, ih]
  | @node c d cs ds ht hs _ ihs ih =>
    have hv : c.Varies ρ g d := ⟨ht, hs⟩
    rw [Tree.levelsAll, Tree.levelsAll, hv.isKept, levels_eq, levels_eq c, ihs, ih]

theorem levels_varies {t u : Tree} (h : t.Varies ρ g u) : u.levels = t.levels := by
  rw [levels_eq, levels_eq, levelsAll_varied h.children]

theorem convertedTrees_varies {t u : Tree} (h : t.Varies ρ g u) :
    List.Forall₂ (Tree.Varies ρ g) (convertedTrees t) (convertedTrees u) := by
  have hbody : List.Forall₂ (Tree.Varies ρ g) (t.childByField? "body").toList
      (u.childByField? "body").toList := by
    rcases h.childByField? "body" with ⟨ht, hu⟩ | ⟨b, c, ht, hu, hbc, -⟩
    · rw [ht, hu]
      exact List.Forall₂.nil
    · rw [ht, hu]
      exact List.Forall₂.cons hbc List.Forall₂.nil
  have hvalues : ∀ {specKind : String}, specKind ≠ "comment" →
      List.Forall₂ (Tree.Varies ρ g) ((specsOf specKind t).flatMap valuesOf)
        ((specsOf specKind u).flatMap valuesOf) :=
    fun hne => List.rel_flatMap (specsOf_varies h hne) fun _ _ hs => valuesOf_varies hs
  unfold convertedTrees
  rw [h.kind]
  split
  case h_1 | h_2 => exact hbody
  case h_3 | h_4 => exact hvalues (by decide)
  case h_5 => exact List.Forall₂.nil

@[simp] theorem Receiver.pointers_rename (r : Receiver) : (r.rename ρ).pointers = r.pointers := by
  induction r with
  | ident name => rfl
  | pointer elem ih => exact congrArg (· + 1) ih
  | other => rfl

theorem readReceiver?_varies {t u : Tree} (h : t.Varies ρ g u) :
    readReceiver? u = (readReceiver? t).map (Receiver.rename ρ) := by
  unfold readReceiver?
  rw [h.kind]
  split
  · exact receiverOf?_varies h "receiver"
  · rfl

/-- A variation is nested too deeply if the file is. -/
theorem isTooDeep_varies (limits : DepthLimits) {root root' : Tree}
    (h : List.Forall₂ (Tree.TopVaries ρ g) root.children root'.children) :
    root'.isTooDeep limits = root.isTooDeep limits := by
  refine any_eq_of_forall₂ (fun t u ht => ?_) (Tree.forall₂_namedChildren h)
  have hconverted : ((convertedTrees u).any fun b => limits.levels < b.levels) =
      (convertedTrees t).any fun b => limits.levels < b.levels :=
    any_eq_of_forall₂ (fun b c hbc => by rw [levels_varies hbc]) (convertedTrees_varies ht.varies)
  have hreceiver : ((readReceiver? u).any fun r => limits.pointers < r.pointers) =
      (readReceiver? t).any fun r => limits.pointers < r.pointers := by
    rw [readReceiver?_varies ht.varies]
    cases readReceiver? t <;> simp
  rw [Tree.exceeds, Tree.exceeds, hconverted, hreceiver]

end GoComplexity
