/-
# Trailing comments

A comment that starts on the row on which code ends trails the code, and so does
every comment after it that starts on the very row on which the one before it ends:
Go takes such a run as one trailing comment.  Only the comments after the run can
document the next declaration.

The tracker leaves out the comments of the run that start on the row of the code
itself.  So it agrees with Go unless a comment of the run goes on over several rows
and another one follows on its last row.  Such a one strays: if everything from it on
stands close together and ends right above the next declaration, the tracker takes
it for a part of the doc comment, and a directive in it leaves the declaration out.

Key definitions: `trailingRun`, `leadComments`, `leadDoc`, `strays`,
`ReachesStrays`.
Key theorems: `lastGroup_append`, `freeComments_eq`, `attachedDoc_of_reaches`,
`docFor_eq_leadDoc_iff`.
-/
import GoComplexity.Proofs.Reported

namespace GoComplexity

/-- Whether nodes are in source order: each one ends on a row before or on which the
later ones start. -/
structure InSourceOrder (ts : List Tree) : Prop where
  rows : ∀ t ∈ ts, t.start.row ≤ t.stop.row
  pairwise : ts.Pairwise fun a b => a.stop.row ≤ b.start.row

/-! ### The run of comments that trails code -/

/-- The comments at the start of a list that form a run from a row on: the first one
starts on the row, each other one on the row on which the one before it ends. -/
def runFrom : Nat → List Tree → List Tree
  | _, [] => []
  | row, c :: cs => if c.start.row = row then c :: runFrom c.stop.row cs else []

/-- The comments after that run. -/
def afterRun : Nat → List Tree → List Tree
  | _, [] => []
  | row, c :: cs => if c.start.row = row then afterRun c.stop.row cs else c :: cs

/-- The comments that trail the last code before a place. -/
def trailingRun (before : List Tree) : List Tree :=
  ((codeRowBefore? before).map fun row => runFrom row (commentsBefore before)).getD []

/-- The comments since the last code that do not trail it. -/
def leadComments (before : List Tree) : List Tree :=
  ((codeRowBefore? before).map fun row => afterRun row (commentsBefore before)).getD
    (commentsBefore before)

/-- Whether a node starts on the row right below the last comment of a list. -/
def IsRightBelow (t : Tree) (cs : List Tree) : Prop :=
  ∃ last ∈ cs.getLast?, last.stop.row + 1 = t.start.row

instance (t : Tree) (cs : List Tree) : Decidable (IsRightBelow t cs) :=
  inferInstanceAs (Decidable (∃ last ∈ cs.getLast?, last.stop.row + 1 = t.start.row))

/-- The last group of comments, if a node starts on the row right below it. -/
def groupAbove (cs : List Tree) (t : Tree) : List Tree :=
  if IsRightBelow t cs then lastGroup cs else []

/-- The texts of the comments that document a node as Go has it: of those that do not
trail the code before. -/
def leadDoc (before : List Tree) (t : Tree) : List String :=
  (groupAbove (leadComments before) t).map Tree.text

/-- The comments that trail the last code but start below the row on which it ends. -/
def strays (before : List Tree) : List Tree :=
  (trailingRun before).filter fun c => codeRowBefore? before ≠ some c.start.row

/-- Whether the last stray and the comments after it stand close together right above
a node. -/
def ReachesStrays (before : List Tree) (t : Tree) : Prop :=
  ∃ stray ∈ (strays before).getLast?,
    (stray :: leadComments before).IsChain Tree.IsNear ∧
      IsRightBelow t (stray :: leadComments before)

theorem runFrom_append_afterRun (row : Nat) (cs : List Tree) :
    runFrom row cs ++ afterRun row cs = cs := by
  induction cs generalizing row with
  | nil => rfl
  | cons c cs ih =>
    unfold runFrom afterRun
    by_cases h : c.start.row = row
    · rw [if_pos h, if_pos h, List.cons_append, ih]
    · rw [if_neg h, if_neg h, List.nil_append]

/-- The run and the comments after it are all comments since the last code. -/
theorem trailingRun_append_leadComments (before : List Tree) :
    trailingRun before ++ leadComments before = commentsBefore before := by
  unfold trailingRun leadComments
  cases codeRowBefore? before with
  | none => rfl
  | some row => exact runFrom_append_afterRun row _

/-- In source order the comments after a run start below the row of the run. -/
theorem lt_of_mem_afterRun {row : Nat} {cs : List Tree} (hsource : InSourceOrder cs)
    (hrow : ∀ c ∈ cs, row ≤ c.start.row) : ∀ c ∈ afterRun row cs, row < c.start.row := by
  induction cs generalizing row with
  | nil => exact fun c hc => absurd hc List.not_mem_nil
  | cons d ds ih =>
    obtain ⟨hd, hpairwise⟩ := List.pairwise_cons.mp hsource.pairwise
    have hds : InSourceOrder ds :=
      ⟨fun t ht => hsource.rows t (List.mem_cons_of_mem _ ht), hpairwise⟩
    have hdrow : d.start.row ≤ d.stop.row := hsource.rows d List.mem_cons_self
    have hrowd : row ≤ d.start.row := hrow d List.mem_cons_self
    intro c hc
    unfold afterRun at hc
    split at hc
    · have hlt := ih hds hd c hc
      omega
    · rename_i hne
      rcases List.mem_cons.mp hc with rfl | hc
      · omega
      · have hle := hd c hc
        omega

/-! ### The free comments -/

/-- What holds of all later elements once it holds of one is held by the last ones. -/
theorem rtakeWhile_eq_filter {α : Type} {p : α → Bool} {xs : List α}
    (h : xs.Pairwise fun a b => p a = true → p b = true) : xs.rtakeWhile p = xs.filter p := by
  induction xs using List.reverseRecOn with
  | nil => rfl
  | append_singleton xs x ih =>
    obtain ⟨hxs, -, hlast⟩ := List.pairwise_append.mp h
    by_cases hx : p x = true
    · rw [List.rtakeWhile_concat_pos _ _ _ hx, ih hxs, List.filter_append,
        List.filter_singleton, hx]
      rfl
    · have hnone : xs.filter p = [] :=
        List.filter_eq_nil_iff.mpr fun y hy hpy => hx (hlast y hy x (List.mem_singleton_self x) hpy)
      rw [List.rtakeWhile_concat_neg _ _ _ hx, List.filter_append, hnone, List.filter_singleton,
        Bool.eq_false_iff.mpr hx]
      rfl

theorem commentsBefore_suffix (before : List Tree) : commentsBefore before <:+ before :=
  List.rtakeWhile_suffix _ _

/-- In source order the comments since the last code start on or below the row on
which it ends. -/
theorem codeRow_le {before : List Tree} (hsource : InSourceOrder before) {row : Nat}
    (hrow : codeRowBefore? before = some row) : ∀ c ∈ commentsBefore before, row ≤ c.start.row := by
  obtain ⟨code, hcode, rfl⟩ := Option.map_eq_some_iff.mp hrow
  have hsplit : before.rdropWhile Tree.isComment ++ commentsBefore before = before :=
    List.rdropWhile_append_rtakeWhile
  have hpairwise := hsource.pairwise
  rw [← hsplit, List.pairwise_append] at hpairwise
  exact fun c hc => hpairwise.2.2 code (List.mem_of_getLast? hcode) c hc

/-- **The free comments** are the strays and those that do not trail the code. -/
theorem freeComments_eq {before : List Tree} (hsource : InSourceOrder before) :
    freeComments before = strays before ++ leadComments before := by
  have hcomments : InSourceOrder (commentsBefore before) :=
    ⟨fun t ht => hsource.rows t ((commentsBefore_suffix before).subset ht),
      hsource.pairwise.sublist (commentsBefore_suffix before).sublist⟩
  have hlead : (leadComments before).filter
      (fun c => codeRowBefore? before ≠ some c.start.row) = leadComments before := by
    refine List.filter_eq_self.mpr fun c hc => decide_eq_true ?_
    unfold leadComments at hc
    cases hrow : codeRowBefore? before with
    | none => simp
    | some row =>
      rw [hrow] at hc
      have hlt := lt_of_mem_afterRun hcomments (codeRow_le hsource hrow) c hc
      simp [hlt.ne]
  have hfilter : freeComments before =
      (commentsBefore before).filter fun c => codeRowBefore? before ≠ some c.start.row := by
    refine rtakeWhile_eq_filter (hcomments.pairwise.imp_of_mem fun {a b} ha hb hab hne => ?_)
    have harow := hcomments.rows a ha
    cases hrow : codeRowBefore? before with
    | none => simp
    | some row =>
      have hle := codeRow_le hsource hrow a ha
      simp only [hrow, decide_eq_true_eq, ne_eq, Option.some.injEq] at hne ⊢
      omega
  rw [hfilter, ← trailingRun_append_leadComments, List.filter_append, hlead]
  rfl

/-! ### The doc comment -/

/-- The last group goes on before a comment if all after it stands close together. -/
theorem lastGroup_append (cs : List Tree) (c : Tree) (ds : List Tree) :
    lastGroup (cs ++ c :: ds) =
      if (c :: ds).IsChain Tree.IsNear then lastGroup (cs ++ [c]) ++ ds else lastGroup ds := by
  induction cs with
  | nil =>
    rw [List.nil_append, List.nil_append, lastGroup_cons, lastGroup_cons,
      if_pos (List.isChain_singleton c)]
    rfl
  | cons b bs ih =>
    have hchain : (b :: (bs ++ c :: ds)).IsChain Tree.IsNear ↔
        (b :: (bs ++ [c])).IsChain Tree.IsNear ∧ (c :: ds).IsChain Tree.IsNear := by
      rw [← List.cons_append, List.isChain_split, List.cons_append]
    rw [List.cons_append, List.cons_append, lastGroup_cons, lastGroup_cons, ih]
    by_cases hds : (c :: ds).IsChain Tree.IsNear
    · by_cases hbs : (b :: (bs ++ [c])).IsChain Tree.IsNear
      · rw [if_pos (hchain.mpr ⟨hbs, hds⟩), if_pos hds, if_pos hbs]
        simp
      · rw [if_neg fun h => hbs (hchain.mp h).1, if_pos hds, if_pos hds, if_neg hbs]
    · rw [if_neg fun h => hds (hchain.mp h).2, if_neg hds, if_neg hds]

theorem lastGroup_suffix (cs : List Tree) : lastGroup cs <:+ cs := by
  induction cs with
  | nil => exact List.suffix_refl _
  | cons c cs ih =>
    rw [lastGroup_cons]
    split
    · exact List.suffix_refl _
    · exact ih.trans (List.suffix_cons c cs)

theorem groupAbove_suffix (cs : List Tree) (t : Tree) : groupAbove cs t <:+ cs := by
  unfold groupAbove
  split
  · exact lastGroup_suffix cs
  · exact List.nil_suffix

theorem isRightBelow_append_cons (t : Tree) (cs : List Tree) (c : Tree) (ds : List Tree) :
    IsRightBelow t (cs ++ c :: ds) ↔ IsRightBelow t (c :: ds) := by
  unfold IsRightBelow
  rw [List.getLast?_append_cons]

theorem not_isRightBelow_nil (t : Tree) : ¬ IsRightBelow t [] := fun ⟨_, h, _⟩ => nomatch h

/-- The group above a node goes on before a comment if all after it stands close
together and right above the node. -/
theorem groupAbove_append (cs : List Tree) (c : Tree) (ds : List Tree) (t : Tree) :
    groupAbove (cs ++ c :: ds) t =
      if (c :: ds).IsChain Tree.IsNear ∧ IsRightBelow t (c :: ds) then
        lastGroup (cs ++ [c]) ++ ds
      else groupAbove ds t := by
  have hbelow : ds ≠ [] → (IsRightBelow t (c :: ds) ↔ IsRightBelow t ds) := fun hds => by
    obtain ⟨d, ds', rfl⟩ := List.exists_cons_of_ne_nil hds
    exact isRightBelow_append_cons t [c] d ds'
  unfold groupAbove
  rw [if_congr (isRightBelow_append_cons t cs c ds) rfl rfl, lastGroup_append]
  by_cases hds : ds = []
  · subst hds
    by_cases h : IsRightBelow t [c] <;> simp [h, not_isRightBelow_nil]
  · by_cases h : IsRightBelow t ds <;> simp [h, hbelow hds]

theorem attachedDoc_eq (before : List Tree) (t : Tree) :
    attachedDoc before t = (groupAbove (freeComments before) t).map Tree.text := by
  have hbelow : (∃ last ∈ (lastGroup (freeComments before)).getLast?,
      last.stop.row + 1 = t.start.row) ↔ IsRightBelow t (freeComments before) := by
    rw [getLast?_lastGroup]
    rfl
  unfold attachedDoc groupAbove
  dsimp only
  rw [if_congr hbelow rfl rfl]
  split <;> rfl

/-- The tracker of a file that has been read up to a place. -/
theorem tracker_foldl (path : String) (before : List Tree) :
    (before.foldl (Reading.step path) {}).tracker = before.foldl DocTracker.read {} := by
  induction before using List.reverseRecOn with
  | nil => rfl
  | append_singleton before t ih =>
    rw [List.foldl_concat, List.foldl_concat, Reading.tracker_step, ih]

section

variable {before : List Tree} (hsource : InSourceOrder before) (t : Tree)

include hsource

/-- A doc comment that goes up to a stray holds all comments after it. -/
theorem attachedDoc_of_reaches (h : ReachesStrays before t) :
    attachedDoc before t =
      (lastGroup (strays before) ++ leadComments before).map Tree.text := by
  obtain ⟨stray, hstray, hchain, hbelow⟩ := h
  obtain ⟨init, hinit⟩ := List.getLast?_eq_some_iff.mp hstray
  rw [attachedDoc_eq, freeComments_eq hsource, hinit, List.append_assoc,
    List.singleton_append, groupAbove_append, if_pos ⟨hchain, hbelow⟩]

/-- Any other doc comment is the one of Go. -/
theorem attachedDoc_of_not_reaches (h : ¬ ReachesStrays before t) :
    attachedDoc before t = leadDoc before t := by
  rw [attachedDoc_eq, freeComments_eq hsource, leadDoc]
  cases hlast : (strays before).getLast? with
  | none => rw [List.getLast?_eq_none_iff.mp hlast, List.nil_append]
  | some stray =>
    obtain ⟨init, hinit⟩ := List.getLast?_eq_some_iff.mp hlast
    rw [hinit, List.append_assoc, List.singleton_append, groupAbove_append,
      if_neg fun hreaches => h ⟨stray, hlast, hreaches⟩]

/-- **The tracker agrees with Go** on the doc comment of a node, unless it goes up to
a stray.  So it does wherever every comment that trails the code starts on the row on
which the code ends, and then no comment that trails the code is part of a doc
comment. -/
theorem docFor_eq_leadDoc_iff (path : String) :
    ((before.foldl (Reading.step path) {}).tracker.docFor t = leadDoc before t ↔
        ¬ ReachesStrays before t) ∧
      ((∀ c ∈ trailingRun before, codeRowBefore? before = some c.start.row) →
        ∃ group, group <:+ leadComments before ∧
          (before.foldl (Reading.step path) {}).tracker.docFor t = group.map Tree.text) := by
  rw [tracker_foldl, docFor_foldl_read]
  refine ⟨⟨fun hdoc hreaches => ?_, attachedDoc_of_not_reaches hsource t⟩, fun hrun => ?_⟩
  · -- the doc comment holds a stray besides all that Go takes
    rw [attachedDoc_of_reaches hsource t hreaches] at hdoc
    obtain ⟨stray, hstray, -⟩ := hreaches
    have hgroup : lastGroup (strays before) ≠ [] := fun hnil => by
      rw [← getLast?_lastGroup, hnil] at hstray
      exact nomatch hstray
    have hlength := congrArg List.length hdoc
    have hle := (groupAbove_suffix (leadComments before) t).length_le
    rw [leadDoc, List.length_map, List.length_map, List.length_append] at hlength
    have hpos := List.length_pos_iff.mpr hgroup
    omega
  · have hstrays : strays before = [] :=
      List.filter_eq_nil_iff.mpr fun c hc => by simp [hrun c hc]
    have hreaches : ¬ ReachesStrays before t := by
      rintro ⟨stray, hstray, -⟩
      rw [hstrays] at hstray
      exact nomatch hstray
    exact ⟨groupAbove (leadComments before) t, groupAbove_suffix _ _,
      attachedDoc_of_not_reaches hsource t hreaches⟩

end

/-- A comment between two points. -/
def commentAt (start stop : Point) (text : String) : Tree :=
  .node { kind := "comment", start := start, stop := stop, text := some text } []

/-- The package clause and the variable `var x = 1` on a row, with comments after it. -/
def trailedVariable (row : Nat) (comments : List Tree) : List Tree :=
  .node { kind := "package_clause" }
      [.node { kind := "package_identifier", text := some "p" } []] ::
    .node { kind := "var_declaration", start := ⟨row, 0⟩, stop := ⟨row, 9⟩ }
      [.node { kind := "var_spec" }
        [.node { kind := "identifier", field := some "name", text := some "x" } [],
          Tree.inField "expression_list" "value" [.node { kind := "int_literal" } []]]] ::
    comments

/-- The comments of `var x = 1 /* a */ //go-sca:ignore`. -/
def trailingDirective : List Tree :=
  [commentAt ⟨2, 10⟩ ⟨2, 17⟩ "/* a */", commentAt ⟨2, 18⟩ ⟨2, 33⟩ "//go-sca:ignore"]

/-- A directive that trails a variable on its row is no part of the next doc comment. -/
theorem docFor_trailingDirective :
    InSourceOrder (trailedVariable 2 trailingDirective) ∧
      (∀ c ∈ trailingRun (trailedVariable 2 trailingDirective),
        codeRowBefore? (trailedVariable 2 trailingDirective) = some c.start.row) ∧
      ((trailedVariable 2 trailingDirective).foldl (Reading.step "a.go") {}).tracker.docFor
        (callingItself "f" 3) = [] := by
  have hsource : InSourceOrder (trailedVariable 2 trailingDirective) :=
    ⟨by decide, by decide⟩
  have hrun : ∀ c ∈ trailingRun (trailedVariable 2 trailingDirective),
      codeRowBefore? (trailedVariable 2 trailingDirective) = some c.start.row := by decide
  obtain ⟨group, hgroup, hdoc⟩ :=
    (docFor_eq_leadDoc_iff hsource (callingItself "f" 3) "a.go").2 hrun
  have hlead : leadComments (trailedVariable 2 trailingDirective) = [] := by rfl
  rw [hlead, List.suffix_nil] at hgroup
  exact ⟨hsource, hrun, by rw [hdoc, hgroup]; rfl⟩

/-- The comments of `var x = 1 /* a`, a new line and `b */ //go-sca:ignore`. -/
def strayDirective : List Tree :=
  [commentAt ⟨2, 10⟩ ⟨3, 4⟩ "/* a\nb */", commentAt ⟨3, 5⟩ ⟨3, 20⟩ "//go-sca:ignore"]

/-- A directive that trails a variable from the last row of another comment leaves the
function below out. -/
theorem measure_strayDirective :
    InSourceOrder (trailedVariable 2 strayDirective) ∧
      trailingRun (trailedVariable 2 strayDirective) = strayDirective ∧
      leadDoc (trailedVariable 2 strayDirective) (callingItself "f" 4) = [] ∧
      ((trailedVariable 2 strayDirective).foldl (Reading.step "a.go") {}).tracker.docFor
        (callingItself "f" 4) = ["//go-sca:ignore"] ∧
      (callingItself "f" 4).reported "a.go" "p" = [⟨"p", "f", 1, 1, ⟨"a.go", 5, 1⟩⟩] ∧
      (Outline.ofTree "a.go" (.node { kind := "source_file" }
        (trailedVariable 2 strayDirective ++ [callingItself "f" 4]))).measure = [] := by
  refine ⟨⟨by decide, by decide⟩, by rfl, by rfl, by rfl, by decide +kernel, by decide +kernel⟩

end GoComplexity
