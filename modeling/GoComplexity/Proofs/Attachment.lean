/-
# The doc comment of a node

Which comments document a top-level node can be told from the nodes before it.
They are comments that stand after the last code.  Those down to the last one
that begins on the row on which that code ends are left out.  Of the rest the
last group counts: the longest run at the end in which each comment starts at
most one row below the end of the one before it.  It documents the node if it
ends on the row right above.  The tracker that goes through the comments one by
one comes to the same.

Key definitions: `commentsBefore`, `codeRowBefore?`, `freeComments`, `lastGroup`,
`attachedDoc`.
Key theorems: `lastGroup_concat`, `foldl_read`, `docFor_foldl_read`.
-/
import GoComplexity.Outline.Comment
import Mathlib.Data.List.Chain
import Mathlib.Data.List.DropRight

namespace GoComplexity

/-- Whether a comment starts at most one row below the end of another one. -/
def Tree.IsNear (a b : Tree) : Prop := b.start.row ≤ a.stop.row + 1

instance (a b : Tree) : Decidable (a.IsNear b) := Nat.decLe _ _

/-! ### The comments that may document a node -/

/-- The comments since the last code before a place. -/
def commentsBefore (before : List Tree) : List Tree := before.rtakeWhile Tree.isComment

/-- The row on which the last code before a place ends. -/
def codeRowBefore? (before : List Tree) : Option Nat :=
  (before.rdropWhile Tree.isComment).getLast?.map fun t => t.stop.row

/-- The comments since the last code and since the last of them that begins on the
row on which that code ends. -/
def freeComments (before : List Tree) : List Tree :=
  (commentsBefore before).rtakeWhile fun c => codeRowBefore? before ≠ some c.start.row

/-- The longest run of near comments at the end of a list. -/
def lastGroup (cs : List Tree) : List Tree :=
  (cs.tails.find? fun g => decide (g.IsChain Tree.IsNear)).getD []

/-- The texts of the comments that document a node with the given nodes before it. -/
def attachedDoc (before : List Tree) (t : Tree) : List String :=
  let group := lastGroup (freeComments before)
  if ∃ last ∈ group.getLast?, last.stop.row + 1 = t.start.row then group.map Tree.text else []

/-! ### One more node -/

section

variable {before : List Tree} {t : Tree}

theorem commentsBefore_concat_comment (ht : t.isComment = true) :
    commentsBefore (before ++ [t]) = commentsBefore before ++ [t] :=
  List.rtakeWhile_concat_pos _ _ _ ht

theorem commentsBefore_concat_code (ht : ¬ t.isComment = true) :
    commentsBefore (before ++ [t]) = [] :=
  List.rtakeWhile_concat_neg _ _ _ ht

theorem codeRowBefore?_concat_comment (ht : t.isComment = true) :
    codeRowBefore? (before ++ [t]) = codeRowBefore? before := by
  rw [codeRowBefore?, codeRowBefore?, List.rdropWhile_concat_pos _ _ _ ht]

theorem codeRowBefore?_concat_code (ht : ¬ t.isComment = true) :
    codeRowBefore? (before ++ [t]) = some t.stop.row := by
  rw [codeRowBefore?, List.rdropWhile_concat_neg _ _ _ ht, List.getLast?_concat, Option.map_some]

/-- A comment on the row on which code ends leaves no comment free. -/
theorem freeComments_concat_trailing (ht : t.isComment = true)
    (hrow : codeRowBefore? before = some t.start.row) : freeComments (before ++ [t]) = [] := by
  unfold freeComments
  rw [commentsBefore_concat_comment ht, codeRowBefore?_concat_comment ht]
  exact List.rtakeWhile_concat_neg _ _ _ (by simp [hrow])

theorem freeComments_concat_comment (ht : t.isComment = true)
    (hrow : codeRowBefore? before ≠ some t.start.row) :
    freeComments (before ++ [t]) = freeComments before ++ [t] := by
  unfold freeComments
  rw [commentsBefore_concat_comment ht, codeRowBefore?_concat_comment ht]
  exact List.rtakeWhile_concat_pos _ _ _ (by simp [hrow])

theorem freeComments_concat_code (ht : ¬ t.isComment = true) :
    freeComments (before ++ [t]) = [] := by
  rw [freeComments, commentsBefore_concat_code ht, List.rtakeWhile_nil]

end

/-! ### The last group -/

theorem lastGroup_cons (c : Tree) (cs : List Tree) :
    lastGroup (c :: cs) =
      if (c :: cs).IsChain Tree.IsNear then c :: cs else lastGroup cs := by
  unfold lastGroup
  rw [List.tails, List.find?_cons]
  by_cases h : (c :: cs).IsChain Tree.IsNear
  · rw [if_pos h, decide_eq_true h]
    rfl
  · rw [if_neg h, decide_eq_false h]

/-- The last group of comments ends where the comments end. -/
theorem getLast?_lastGroup (cs : List Tree) : (lastGroup cs).getLast? = cs.getLast? := by
  induction cs with
  | nil => rfl
  | cons c cs ih =>
    rw [lastGroup_cons]
    by_cases h : (c :: cs).IsChain Tree.IsNear
    · rw [if_pos h]
    · cases cs with
      | nil => exact absurd (List.isChain_singleton c) h
      | cons d ds => rw [if_neg h, ih, List.getLast?_cons_cons]

/-- A comment joins the last group if it is near the end of the group, and begins
another one otherwise. -/
theorem lastGroup_concat (cs : List Tree) (c : Tree) :
    lastGroup (cs ++ [c]) =
      if ∀ last ∈ cs.getLast?, last.IsNear c then lastGroup cs ++ [c] else [c] := by
  induction cs with
  | nil => rfl
  | cons d ds ih =>
    have hchain : ((d :: ds) ++ [c]).IsChain Tree.IsNear ↔
        (d :: ds).IsChain Tree.IsNear ∧ ∀ last ∈ (d :: ds).getLast?, last.IsNear c := by
      rw [List.isChain_append]
      simp
    rw [List.cons_append, lastGroup_cons, ← List.cons_append, ih, lastGroup_cons]
    cases ds with
    | nil =>
      by_cases hlast : ∀ last ∈ [d].getLast?, last.IsNear c
      · rw [if_pos (hchain.mpr ⟨List.isChain_singleton d, hlast⟩), if_pos hlast,
          if_pos (List.isChain_singleton d)]
      · rw [if_neg fun h => hlast (hchain.mp h).2, if_neg hlast]
        rfl
    | cons e es =>
      rw [List.getLast?_cons_cons]
      by_cases hlast : ∀ last ∈ (e :: es).getLast?, last.IsNear c
      · rw [if_pos hlast, if_pos hlast]
        by_cases hd : (d :: e :: es).IsChain Tree.IsNear
        · rw [if_pos hd, if_pos (hchain.mpr ⟨hd, hlast⟩)]
        · rw [if_neg hd, if_neg fun h => hd (hchain.mp h).1]
      · rw [if_neg hlast, if_neg hlast, if_neg fun h => hlast (hchain.mp h).2]

/-! ### The tracker -/

/-- The tracker after a top-level node. -/
def DocTracker.read (d : DocTracker) (t : Tree) : DocTracker :=
  if t.isComment then d.comment t else DocTracker.code t

/-- **What the tracker holds.** After some nodes it holds the last group of the
free comments and the row on which code last ended. -/
theorem foldl_read (before : List Tree) :
    before.foldl DocTracker.read {} =
      ⟨lastGroup (freeComments before), codeRowBefore? before⟩ := by
  induction before using List.reverseRecOn with
  | nil => rfl
  | append_singleton before t ih =>
    rw [List.foldl_concat, ih, DocTracker.read]
    by_cases ht : t.isComment = true
    · rw [if_pos ht, codeRowBefore?_concat_comment ht, DocTracker.comment, getLast?_lastGroup]
      by_cases hrow : codeRowBefore? before = some t.start.row
      · rw [if_pos hrow, freeComments_concat_trailing ht hrow]
        rfl
      · rw [if_neg hrow, freeComments_concat_comment ht hrow, lastGroup_concat]
        cases hlast : (freeComments before).getLast? with
        | none =>
          have hnil : freeComments before = [] := List.getLast?_eq_none_iff.mp hlast
          rw [hnil]
          rfl
        | some last =>
          by_cases hnear : last.IsNear t
          · have hgap : ¬ last.stop.row + 1 < t.start.row := Nat.not_lt.mpr hnear
            simp [hgap, hnear]
          · have hgap : last.stop.row + 1 < t.start.row := Nat.not_le.mp hnear
            simp [hgap, hnear]
    · rw [if_neg ht, freeComments_concat_code ht, codeRowBefore?_concat_code ht]
      rfl

/-- **The tracker finds the attached comments.** -/
theorem docFor_foldl_read (before : List Tree) (t : Tree) :
    (before.foldl DocTracker.read {}).docFor t = attachedDoc before t := by
  rw [foldl_read, DocTracker.docFor, attachedDoc]
  cases (lastGroup (freeComments before)).getLast? with
  | none => simp
  | some last => simp

end GoComplexity
