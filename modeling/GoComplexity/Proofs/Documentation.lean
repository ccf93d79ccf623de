/-
# The doc comments of a file

The tracker goes through the top-level nodes of a file one by one, whatever the rows on
which they stand.  What it gives a node that is no comment can be told at once: the
longest run of near comments at the end of the free comments before the node, if that run
ends on the row right above, and nothing otherwise.  All that stands from the first of
these comments up to the node are comments, so no comment documents two nodes.

Key definitions: `IsLastGroup`, `docStart`, `Documents`.
Key theorems: `isLastGroup_lastGroup`, `docGroup_eq_drop`, `isComment_of_documents`,
`docFor_eq_lastGroup`.
-/
import GoComplexity.Proofs.Trailing

namespace GoComplexity

/-! ### The last group -/

/-- Whether some comments are the longest run of near comments at the end of a list. -/
structure IsLastGroup (group cs : List Tree) : Prop where
  suffix : group <:+ cs
  near : group.IsChain Tree.IsNear
  longest : ∀ run, run <:+ cs → run.IsChain Tree.IsNear → run <:+ group

/-- **The last group** is the longest run of near comments at the end. -/
theorem isLastGroup_lastGroup (cs : List Tree) : IsLastGroup (lastGroup cs) cs where
  suffix := lastGroup_suffix cs
  near := by
    induction cs with
    | nil => exact List.isChain_nil
    | cons c cs ih =>
      rw [lastGroup_cons]
      split
      · assumption
      · exact ih
  longest := by
    induction cs with
    | nil => exact fun run hrun _ => hrun
    | cons c cs ih =>
      intro run hrun hnear
      rw [lastGroup_cons]
      split
      · exact hrun
      · rename_i hchain
        rcases List.suffix_cons_iff.mp hrun with rfl | hrun
        · exact absurd hnear hchain
        · exact ih run hrun hnear

/-! ### The places of the comments -/

/-- The comments that document the node at a place. -/
def docGroup (ts : List Tree) (i : Nat) : List Tree :=
  (ts[i]?.map (groupAbove (freeComments (ts.take i)))).getD []

/-- The place at which the doc comment of the node at a place begins. -/
def docStart (ts : List Tree) (i : Nat) : Nat := i - (docGroup ts i).length

/-- Whether the comment at a place belongs to the doc comment of the node at another. -/
def Documents (ts : List Tree) (p i : Nat) : Prop := docStart ts i ≤ p ∧ p < i

instance (ts : List Tree) (p i : Nat) : Decidable (Documents ts p i) :=
  inferInstanceAs (Decidable (_ ∧ _))

section

variable {ts : List Tree} {i : Nat} {t : Tree}

theorem docGroup_eq (ht : ts[i]? = some t) :
    docGroup ts i = groupAbove (freeComments (ts.take i)) t := by
  rw [docGroup, ht]
  rfl

theorem docGroup_suffix (ht : ts[i]? = some t) : docGroup ts i <:+ commentsBefore (ts.take i) := by
  rw [docGroup_eq ht]
  exact (groupAbove_suffix _ t).trans (List.rtakeWhile_suffix _ _)

/-- **The doc comment of a node** stands from its first comment up to the node. -/
theorem docGroup_eq_drop (ht : ts[i]? = some t) :
    docGroup ts i = (ts.take i).drop (docStart ts i) := by
  have hsuffix := (docGroup_suffix ht).trans (commentsBefore_suffix (ts.take i))
  have hi : i < ts.length := (List.getElem?_eq_some_iff.mp ht).1
  have hlength : (ts.take i).length = i := List.length_take_of_le hi.le
  have hdrop := List.suffix_iff_eq_drop.mp hsuffix
  rwa [hlength] at hdrop

/-- From a comment that documents a node up to the node there are comments alone. -/
theorem isComment_of_documents (ht : ts[i]? = some t) {p q : Nat} (hp : Documents ts p i)
    (hpq : p ≤ q) (hqi : q < i) : ∃ c, ts[q]? = some c ∧ c.isComment = true := by
  have hi : i < ts.length := (List.getElem?_eq_some_iff.mp ht).1
  have hq : ts[q]? = some ts[q] := List.getElem?_eq_getElem (hqi.trans hi)
  have hmem : ts[q] ∈ docGroup ts i := by
    rw [docGroup_eq_drop ht]
    refine List.mem_of_getElem? (i := q - docStart ts i) ?_
    rw [List.getElem?_drop, Nat.add_sub_cancel' (hp.1.trans hpq), List.getElem?_take_of_lt hqi, hq]
  exact ⟨ts[q], hq, List.mem_rtakeWhile_imp ((docGroup_suffix ht).subset hmem)⟩

/-- A comment documents no node after another one that is no comment. -/
theorem not_documents_of_lt {j p : Nat} (ht : ts[i]? = some t) (hcode : t.isComment = false)
    (hij : i < j) {u : Tree} (hu : ts[j]? = some u) (hp : Documents ts p i) :
    ¬ Documents ts p j := by
  intro hpj
  obtain ⟨c, hc, hcomment⟩ := isComment_of_documents hu hpj hp.2.le hij
  rw [Option.some.inj (ht.symm.trans hc), hcomment] at hcode
  exact Bool.noConfusion hcode

end

/-- **What documents a node.** In any row of top-level nodes the tracker gives a node that
is no comment the last group of the free comments before it if the group ends on the row
right above, and nothing otherwise.  These are the nodes from a place before up to it,
comments all of them, and no comment belongs to the doc comments of two nodes. -/
theorem docFor_eq_lastGroup (path : String) (ts : List Tree) :
    (∀ i t, ts[i]? = some t → t.isComment = false →
      (∃ group, IsLastGroup group (freeComments (ts.take i)) ∧
        ((ts.take i).foldl (Reading.step path) {}).tracker.docFor t =
          if IsRightBelow t group then group.map Tree.text else []) ∧
      ((ts.take i).foldl (Reading.step path) {}).tracker.docFor t =
        ((ts.take i).drop (docStart ts i)).map Tree.text ∧
      ∀ p, Documents ts p i → ∃ c, ts[p]? = some c ∧ c.isComment = true) ∧
    ∀ i j t u, ts[i]? = some t → t.isComment = false → ts[j]? = some u → u.isComment = false →
      ∀ p, Documents ts p i → Documents ts p j → i = j := by
  refine ⟨fun i t ht _ => ⟨⟨lastGroup (freeComments (ts.take i)), isLastGroup_lastGroup _, ?_⟩,
    ?_, fun p hp => isComment_of_documents ht hp (Nat.le_refl p) hp.2⟩,
    fun i j t u ht hcode hu hucode p hp hpj => ?_⟩
  · have hbelow : IsRightBelow t (lastGroup (freeComments (ts.take i))) ↔
        IsRightBelow t (freeComments (ts.take i)) := by
      unfold IsRightBelow
      rw [getLast?_lastGroup]
    rw [tracker_foldl, docFor_foldl_read, attachedDoc_eq, groupAbove, if_congr hbelow rfl rfl]
    split <;> rfl
  · rw [tracker_foldl, docFor_foldl_read, attachedDoc_eq, ← docGroup_eq ht, docGroup_eq_drop ht]
  · rcases Nat.lt_trichotomy i j with hij | hij | hij
    · exact absurd hpj (not_documents_of_lt ht hcode hij hu hp)
    · exact hij
    · exact absurd hp (not_documents_of_lt hu hucode hij ht hpj)

/-- A file with a comment that stands by itself, two that document the function `f`, one
that trails it, and one that documents the function `g`. -/
def documentedFunctions : List Tree :=
  [.node { kind := "package_clause" } [], commentAt ⟨2, 0⟩ ⟨2, 4⟩ "// a",
    commentAt ⟨4, 0⟩ ⟨4, 4⟩ "// b", commentAt ⟨5, 0⟩ ⟨5, 4⟩ "// c", callingItself "f" 6,
    commentAt ⟨6, 17⟩ ⟨6, 21⟩ "// d", commentAt ⟨7, 0⟩ ⟨7, 4⟩ "// e", callingItself "g" 8]

/-- The comments right above a function document it, and no other function. -/
theorem docFor_documentedFunctions :
    documentedFunctions[4]? = some (callingItself "f" 6) ∧
    documentedFunctions[7]? = some (callingItself "g" 8) ∧
    (callingItself "f" 6).isComment = false ∧ (callingItself "g" 8).isComment = false ∧
    ((documentedFunctions.take 4).foldl (Reading.step "a.go") {}).tracker.docFor
      (callingItself "f" 6) = ["// b", "// c"] ∧
    ((documentedFunctions.take 7).foldl (Reading.step "a.go") {}).tracker.docFor
      (callingItself "g" 8) = ["// e"] ∧
    Documents documentedFunctions 3 4 ∧ ¬ Documents documentedFunctions 3 7 := by
  have hf : documentedFunctions[4]? = some (callingItself "f" 6) := rfl
  have hg : documentedFunctions[7]? = some (callingItself "g" 8) := rfl
  have hfcode : (callingItself "f" 6).isComment = false := by decide
  have hgcode : (callingItself "g" 8).isComment = false := by decide
  have hdocuments : Documents documentedFunctions 3 4 := by decide
  obtain ⟨hdoc, hunique⟩ := docFor_eq_lastGroup "a.go" documentedFunctions
  refine ⟨hf, hg, hfcode, hgcode, ?_, ?_, hdocuments, fun hother => ?_⟩
  · exact (hdoc 4 _ hf hfcode).2.1.trans rfl
  · exact (hdoc 7 _ hg hgcode).2.1.trans rfl
  · exact absurd (hunique 4 7 _ _ hf hfcode hg hgcode 3 hdocuments hother) (by decide)

end GoComplexity
