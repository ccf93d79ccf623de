/-
# What is reported of a file

Reported are, in source order, every function and method, and every function
literal that stands directly among the initial values of a line of values that has
a name, but for those whose declaration is documented by an ignore directive.  A
directive is a comment line that holds the keyword between blanks after the
marker; it leaves out the functions of its own declaration and no others.

Key definitions: `IsIgnoreLine`, `Tree.lines`, `Tree.reported`.
Key theorems: `trimChars_append`, `hasIgnore_iff`, `Documented.stats_eq_reported`,
`measure_eq_reported`.
-/
import GoComplexity.Proofs.Independence
import Mathlib.Data.List.DropRight

namespace GoComplexity

/-! ### The ignore directive -/

/-- Whether a text is made of blanks alone. -/
def Text.IsBlankText (s : String) : Prop := ∀ c ∈ s.toList, Text.isBlank c = true

/-- Whether a comment line is the ignore directive: the keyword after the marker,
with any blanks around it. -/
def IsIgnoreLine (line : String) : Prop :=
  ∃ before after, Text.IsBlankText before ∧ Text.IsBlankText after ∧
    line = "//go-sca:" ++ before ++ "ignore" ++ after

namespace Text

/-- Trimming takes blanks from both ends. -/
theorem exists_append_trimChars (cs : List Char) :
    ∃ before after, (∀ c ∈ before, isBlank c = true) ∧ (∀ c ∈ after, isBlank c = true) ∧
      cs = before ++ trimChars cs ++ after := by
  refine ⟨cs.takeWhile isBlank, (cs.dropWhile isBlank).rtakeWhile isBlank,
    fun c hc => List.mem_takeWhile_imp hc, fun c hc => List.mem_rtakeWhile_imp hc, ?_⟩
  have htrim : trimChars cs = (cs.dropWhile isBlank).rdropWhile isBlank := rfl
  rw [htrim, List.append_assoc, List.rdropWhile_append_rtakeWhile, List.takeWhile_append_dropWhile]

/-- Trimming stops on both sides at what is not blank. -/
theorem trimChars_append {before word after : List Char} (hbefore : ∀ c ∈ before, isBlank c = true)
    (hafter : ∀ c ∈ after, isBlank c = true) (hne : word ≠ [])
    (hfirst : word.dropWhile isBlank = word) (hlast : word.rdropWhile isBlank = word) :
    trimChars (before ++ word ++ after) = word := by
  have hdrop : (before ++ word ++ after).dropWhile isBlank = word ++ after := by
    rw [List.append_assoc, List.dropWhile_append_of_pos hbefore, List.dropWhile_append, hfirst,
      if_neg (by rwa [List.isEmpty_iff])]
  have hreverse : ∀ c ∈ after.reverse, isBlank c = true :=
    fun c hc => hafter c (List.mem_reverse.mp hc)
  calc trimChars (before ++ word ++ after)
      = (word ++ after).rdropWhile isBlank := by rw [← hdrop]; rfl
    _ = word.rdropWhile isBlank := by
        rw [List.rdropWhile, List.reverse_append, List.dropWhile_append_of_pos hreverse]
        rfl
    _ = word := hlast

end Text

/-- **A directive says to ignore** if it is the ignore directive. -/
theorem directive?_eq_ignore_iff (line : String) :
    directive? line = some "ignore" ↔ IsIgnoreLine line := by
  have hmarker : directiveMarker.toList.isPrefixOf line.toList = true ↔
      ∃ rest, line.toList = directiveMarker.toList ++ rest := by
    rw [List.isPrefixOf_iff_prefix]
    exact exists_congr fun rest => eq_comm
  unfold directive? IsIgnoreLine
  dsimp only
  constructor
  · intro h
    split at h
    · rename_i hprefix
      obtain ⟨rest, hrest⟩ := hmarker.mp hprefix
      obtain ⟨before, after, hbefore, hafter, hsplit⟩ := Text.exists_append_trimChars rest
      have hword : Text.trimChars rest = "ignore".toList := by
        rw [hrest, List.drop_left] at h
        rw [← Option.some.inj h, String.toList_ofList]
      refine ⟨String.ofList before, String.ofList after, ?_, ?_, ?_⟩
      · rwa [Text.IsBlankText, String.toList_ofList]
      · rwa [Text.IsBlankText, String.toList_ofList]
      · rw [← String.toList_inj, hrest, hsplit, hword]
        simp [directiveMarker]
    · exact absurd h (by simp)
  · rintro ⟨before, after, hbefore, hafter, rfl⟩
    have hline : ("//go-sca:" ++ before ++ "ignore" ++ after).toList =
        directiveMarker.toList ++ (before.toList ++ "ignore".toList ++ after.toList) := by
      simp [directiveMarker]
    have htrim : Text.trimChars (before.toList ++ "ignore".toList ++ after.toList) =
        "ignore".toList :=
      Text.trimChars_append hbefore hafter (by decide) (by rfl) (by rfl)
    rw [if_pos (hmarker.mpr ⟨_, hline⟩), hline, List.drop_left, htrim, String.ofList_toList]

instance (line : String) : Decidable (IsIgnoreLine line) :=
  decidable_of_iff _ (directive?_eq_ignore_iff line)

/-- A doc comment says to ignore if one of its lines is the ignore directive. -/
theorem hasIgnore_iff (doc : List String) :
    hasIgnore doc = true ↔ ∃ line ∈ doc, IsIgnoreLine line := by
  unfold hasIgnore directives
  rw [List.contains_iff_mem, List.mem_filterMap]
  exact exists_congr fun line => and_congr_right fun _ => directive?_eq_ignore_iff line

/-! ### The reported functions of a declaration -/

namespace Tree

/-- The lines of a group of values: its named children of the kind, and those that
stand in a list of lines among them. -/
def lines (kind : String) (t : Tree) : List Tree :=
  (t.namedChildren.flatMap fun c =>
    c :: if c.kind.endsWith "_spec_list" then c.namedChildren else []).filter fun s =>
      s.kind == kind

/-- The function literals that stand directly among the values of a line. -/
def literals (line : Tree) : List Tree :=
  match line.childByField? "value" with
  | some values => values.namedChildren.filter fun l => l.kind == "func_literal"
  | none => []

variable (path package : String)

/-- The score of a function by itself. -/
def functionStat (t : Tree) : Stat :=
  let body := (convertBody path (signatureNames ["parameters", "result"] t) t 0).1
  ⟨package, nameOf t, cyclomatic body, cognitive (some (nameOf t)) body, t.position path⟩

/-- The score of a method by itself; its name follows its receiver type. -/
def methodStat (t : Tree) : Stat :=
  let body := (convertBody path (signatureNames ["receiver", "parameters", "result"] t) t 0).1
  let name := match receiverOf? (t.childByField? "receiver") with
    | some r => s!"({r.render}).{nameOf t}"
    | none => nameOf t
  ⟨package, name, cyclomatic body, cognitive none body, t.position path⟩

/-- The score of a function literal by itself, that initialises the line of a name. -/
def literalStat (parent : Form) (name : String) (l : Tree) : Stat :=
  let body := (convert path parent l ⟨0, [[]]⟩).1.body.head?
  ⟨package, name, cyclomatic body, cognitive (some name) body, l.position path⟩

/-- The scores of the function literals of a line, under the first of its names. -/
def lineStats (line : Tree) : List Stat :=
  match line.childrenByField "name" with
  | [] => []
  | name :: _ => line.literals.map (literalStat path package line.form name.text)

/-- The scores of the functions of a declaration. -/
def reported (t : Tree) : List Stat :=
  match t.kind with
  | "function_declaration" => [t.functionStat path package]
  | "method_declaration" => [t.methodStat path package]
  | "var_declaration" => (t.lines "var_spec").flatMap (lineStats path package)
  | "const_declaration" => (t.lines "const_spec").flatMap (lineStats path package)
  | _ => []

theorem lines_eq_specsOf {kind : String} (h : kind.endsWith "_spec_list" = false) (t : Tree) :
    t.lines kind = specsOf kind t := by
  unfold lines specsOf
  rw [List.filter_flatMap]
  refine List.flatMap_congr fun c _ => ?_
  rw [List.filter_cons]
  by_cases hk : c.kind = kind
  · rw [if_pos (beq_iff_eq.mpr hk), if_pos hk, hk, h]
    rfl
  · rw [if_neg (by rwa [beq_iff_eq]), if_neg hk]
    cases c.kind.endsWith "_spec_list" <;> rfl

/-- The literals of a line are those of its values. -/
theorem literals_eq (line : Tree) :
    line.literals = (valuesOf line).filter fun l => l.kind == "func_literal" := by
  unfold literals valuesOf
  cases line.childByField? "value" with
  | none => rfl
  | some values =>
    rw [Option.map_some, Option.getD_some, List.filter_filter]
    refine List.filter_congr fun l _ => ?_
    by_cases hk : l.kind = "func_literal"
    · have hcomment : l.isComment = false := by rw [Tree.isComment, hk]; rfl
      rw [hcomment]
      simp
    · simp [hk]

end Tree

/-! ### From the outline -/

theorem isFunctionLiteral_convert (path : String) (parent : Form) (t : Tree) (s : Conversion) :
    ((convert path parent t s).1.kind == .functionLiteral) = (t.kind == "func_literal") := by
  have hkind : (convert path parent t s).1.kind = .functionLiteral ↔ t.form = .funcLiteral := by
    rw [convert_eq]
    show (facts path parent s.next _ t).kind = _ ↔ _
    unfold facts
    cases t.form <;> try simp
    all_goals split <;> simp
  have hform : t.form = .funcLiteral ↔ t.kind = "func_literal" := by
    constructor
    · intro h
      have hmem : t.kind ∈ (Form.ofKind t.kind).kinds := Form.mem_kinds_ofKind (by
        rw [show Form.ofKind t.kind = .funcLiteral from h]; decide)
      rw [show Form.ofKind t.kind = .funcLiteral from h] at hmem
      exact List.mem_singleton.mp hmem
    · exact fun h => congrArg Form.ofKind h
  rw [Bool.eq_iff_iff, beq_iff_eq, beq_iff_eq, hkind, hform]

theorem facts_position (path : String) (parent : Form) (i : Nat) (callee : Option String)
    (t : Tree) : (facts path parent i callee t).position = t.position path := by
  unfold facts
  cases t.form <;> try rfl
  cases logicalOperator? t <;> rfl

section

variable (path package : String) (doc : List String)

/-- A literal has its score from whatever index it is numbered. -/
theorem measure_unitOf_convert (parent : Form) (name : String) (l : Tree) (next : Nat) :
    (ValueSpec.unitOf package doc name (convert path parent l ⟨next, [[]]⟩).1).measure =
      l.literalStat path package parent name := by
  have hagrees := (convert_agrees path parent l
    (agrees_start (a := 0) (b := next) (show next + 0 = 0 + next by omega) [])).1
  have hshift : ∀ (a : Nat) (n : Node), (ValueSpec.unitOf package doc name n).measure =
      (ValueSpec.unitOf package doc name (n.relabel (Facts.shift a))).measure := by
    intro a n
    rw [ValueSpec.unitOf_shift, MeasuredUnit.measure_shift]
  have hposition : (convert path parent l ⟨0, [[]]⟩).1.position = l.position path := by
    rw [convert_eq]
    exact facts_position path parent _ _ l
  calc (ValueSpec.unitOf package doc name (convert path parent l ⟨next, [[]]⟩).1).measure
      = (ValueSpec.unitOf package doc name (convert path parent l ⟨0, [[]]⟩).1).measure := by
        rw [hshift 0, hshift next (convert path parent l ⟨0, [[]]⟩).1]
        exact congrArg (fun n => (ValueSpec.unitOf package doc name n).measure) hagrees
    _ = l.literalStat path package parent name := by
        rw [MeasuredUnit.measure, ValueSpec.unitOf, Tree.literalStat, hposition]

theorem convertValues_stats (parent : Form) (name : String) : ∀ (ts : List Tree) (next : Nat),
    (((convertValues path parent ts next).1.filter fun v => v.kind == .functionLiteral).map
        (ValueSpec.unitOf package doc name)).map MeasuredUnit.measure =
      (ts.filter fun l => l.kind == "func_literal").map
        (Tree.literalStat path package parent name)
  | [], _ => rfl
  | t :: ts, next => by
    have ih := convertValues_stats parent name ts (convert path parent t ⟨next, [[]]⟩).2.next
    rw [convertValues_cons, List.filter_cons, List.filter_cons, isFunctionLiteral_convert]
    by_cases hk : (t.kind == "func_literal") = true
    · rw [if_pos hk, if_pos hk, List.map_cons, List.map_cons, List.map_cons, ih,
        measure_unitOf_convert]
    · rw [if_neg hk, if_neg hk, ih]

theorem convertSpecs_stats : ∀ (ts : List Tree) (next : Nat),
    ((convertSpecs path ts next).1.flatMap (ValueSpec.units package doc)).map
        MeasuredUnit.measure = ts.flatMap (Tree.lineStats path package)
  | [], _ => rfl
  | t :: ts, next => by
    have ih := convertSpecs_stats ts (convertValues path t.form (valuesOf t) next).2
    rw [convertSpecs_cons, List.flatMap_cons, List.map_append, ih, List.flatMap_cons,
      Tree.lineStats, Tree.literals_eq]
    refine congrArg (· ++ _) ?_
    unfold ValueSpec.units
    cases t.childrenByField "name" with
    | nil => rfl
    | cons name names =>
      exact convertValues_stats path package doc t.form name.text (valuesOf t) next

/-- The literals of a group of values are those of its lines. -/
theorem group_stats {kind : String} (hkind : kind.endsWith "_spec_list" = false) (t : Tree) :
    ((convertSpecs path (specsOf kind t) 0).1.flatMap (ValueSpec.units package doc)).map
        MeasuredUnit.measure = (t.lines kind).flatMap (Tree.lineStats path package) := by
  rw [convertSpecs_stats, Tree.lines_eq_specsOf hkind]

end

/-- All units of a declaration have its doc comment. -/
theorem Declaration.doc_of_mem_units {package : String} {d : Declaration} {u : MeasuredUnit}
    (h : u ∈ d.units package) : u.doc = d.doc := by
  unfold Declaration.units at h
  split at h
  · obtain ⟨s, -, hu⟩ := List.mem_flatMap.mp h
    unfold ValueSpec.units at hu
    split at hu
    · exact absurd hu List.not_mem_nil
    · obtain ⟨v, -, rfl⟩ := List.mem_map.mp hu
      rfl
  · rw [List.mem_singleton.mp h]

/-- A directive leaves out all functions of its declaration or none. -/
theorem Declaration.stats_eq (package : String) (d : Declaration) :
    d.stats package =
      if ∃ line ∈ d.doc, IsIgnoreLine line then []
      else (d.units package).map MeasuredUnit.measure := by
  have hignore : ((d.units package).filter fun u => !hasIgnore u.doc) =
      (d.units package).filter fun _ => !hasIgnore d.doc :=
    List.filter_congr fun u hu => by rw [Declaration.doc_of_mem_units hu]
  unfold Declaration.stats
  rw [hignore]
  by_cases h : hasIgnore d.doc = true
  · rw [if_pos ((hasIgnore_iff d.doc).mp h), h]
    simp
  · rw [if_neg fun hex => h ((hasIgnore_iff d.doc).mpr hex), Bool.eq_false_iff.mpr h]
    simp

/-- The units of a declaration are the functions that are reported of its tree. -/
theorem measure_units_eq_reported (path package : String) {doc : List String} {t : Tree}
    {d : Declaration} {next : Nat} (h : declarationOf? path doc t 0 = some (d, next)) :
    d.doc = doc ∧ (d.units package).map MeasuredUnit.measure = t.reported path package := by
  unfold declarationOf? at h
  split at h
  case h_1 hk =>
    obtain rfl := congrArg Prod.fst (Option.some.inj h)
    rw [Tree.reported, hk]
    exact ⟨rfl, rfl⟩
  case h_2 hk =>
    obtain rfl := congrArg Prod.fst (Option.some.inj h)
    rw [Tree.reported, hk]
    refine ⟨rfl, congrArg (fun name => [Stat.mk _ name _ _ _]) ?_⟩
    unfold Declaration.displayName
    cases receiverOf? (t.childByField? "receiver") <;> rfl
  case h_3 hk =>
    obtain rfl := congrArg Prod.fst (Option.some.inj h)
    rw [Tree.reported, hk]
    exact ⟨rfl, group_stats path package doc (by decide +kernel) t⟩
  case h_4 hk =>
    obtain rfl := congrArg Prod.fst (Option.some.inj h)
    rw [Tree.reported, hk]
    exact ⟨rfl, group_stats path package doc (by decide +kernel) t⟩
  case h_5 => exact absurd h (by simp)

/-- Nothing is reported of what is no declaration. -/
theorem reported_eq_nil (path package : String) {t : Tree} (h : ¬ t.isDeclaration = true) :
    t.reported path package = [] := by
  unfold Tree.reported
  split
  case h_1 hk | h_2 hk | h_3 hk | h_4 hk =>
    exact absurd (by rw [Tree.isDeclaration, hk]; rfl) h
  case h_5 => rfl

/-- **What is reported of a declaration** by itself. -/
theorem Documented.stats_eq_reported (path package : String) (p : Documented) :
    p.stats path package =
      if ∃ line ∈ p.doc, IsIgnoreLine line then [] else p.tree.reported path package := by
  unfold Documented.stats Documented.statsFrom
  have hsome := isSome_declarationOf? path p.doc p.tree 0
  cases hd : declarationOf? path p.doc p.tree 0 with
  | none =>
    rw [hd] at hsome
    rw [reported_eq_nil path package (by rw [← hsome]; decide), ite_self]
    rfl
  | some d =>
    obtain ⟨hdoc, hunits⟩ := measure_units_eq_reported path package hd
    rw [Option.map_some, Option.getD_some, Declaration.stats_eq, hdoc, hunits]

/-- **What is reported of a file**: the functions of its declarations in source
order, but for those of a declaration whose doc comment holds the ignore
directive. -/
theorem measure_eq_reported (path : String) (root : Tree) :
    (Outline.ofTree path root).measure =
      root.documented.flatMap fun p =>
        if ∃ line ∈ p.doc, IsIgnoreLine line then []
        else p.tree.reported path root.packageName := by
  rw [measure_eq_flatMap_documented]
  exact List.flatMap_congr fun p _ => p.stats_eq_reported path root.packageName

end GoComplexity
