/-
# Stable sorting

A sort by a total preorder that keeps the order of what it cannot tell apart is an order of
the places of a list.  Elements may be left out before or after it.

Key definitions: `sortedPlaces`.
Key theorems: `takeWhile_eq_filter`, `filter_mergeSort`, `map_get_sortedPlaces`,
`sortedPlaces_pairwise`.
-/
import Mathlib.Data.List.FinRange

namespace GoComplexity

section

variable {α : Type}

/-- A list is cut in one way only into elements of one kind and elements of the other. -/
theorem append_cut_inj {p : α → Bool} {xs ys xs' ys' : List α} (h : xs ++ ys = xs' ++ ys')
    (hxs : ∀ x ∈ xs, p x = true) (hys : ∀ y ∈ ys, p y = false)
    (hxs' : ∀ x ∈ xs', p x = true) (hys' : ∀ y ∈ ys', p y = false) : xs = xs' ∧ ys = ys' := by
  have hfront : ∀ {zs ws : List α}, (∀ z ∈ zs, p z = true) → (∀ w ∈ ws, p w = false) →
      (zs ++ ws).filter p = zs := by
    intro zs ws hzs hws
    rw [List.filter_append, List.filter_eq_self.mpr hzs,
      List.filter_eq_nil_iff.mpr fun w hw => Bool.eq_false_iff.mp (hws w hw), List.append_nil]
  have hxx : xs = xs' := by rw [← hfront hxs hys, h, hfront hxs' hys']
  subst hxx
  exact ⟨rfl, List.append_cancel_left h⟩

/-- The elements up to the first one of another kind are all elements of the kind, if none of
them stands after one of the other. -/
theorem takeWhile_eq_filter {p : α → Bool} {xs : List α}
    (h : xs.Pairwise fun a b => p b = true → p a = true) : xs.takeWhile p = xs.filter p := by
  induction xs with
  | nil => rfl
  | cons x xs ih =>
    obtain ⟨hx, hxs⟩ := List.pairwise_cons.mp h
    by_cases hp : p x = true
    · rw [List.takeWhile_cons_of_pos hp, List.filter_cons_of_pos hp, ih hxs]
    · have hnone : ∀ y ∈ xs, ¬ p y = true := fun y hy hpy => hp (hx y hy hpy)
      rw [List.takeWhile_cons_of_neg hp, List.filter_cons_of_neg hp,
        List.filter_eq_nil_iff.mpr hnone]

variable {le : α → α → Bool} (trans : ∀ a b c, le a b = true → le b c = true → le a c = true)
  (total : ∀ a b, (le a b || le b a) = true)

include trans total

/-- **Leaving elements out and sorting** may be done in either order. -/
theorem filter_mergeSort (p : α → Bool) (xs : List α) :
    (xs.mergeSort le).filter p = (xs.filter p).mergeSort le := by
  induction xs with
  | nil => simp
  | cons a xs ih =>
    -- the new element stands before the first one that it may precede, with and without the rest
    obtain ⟨before, after, hsort, hrest, hbefore⟩ := List.mergeSort_cons trans total a xs
    rw [hrest, List.filter_append] at ih
    rw [hsort, List.filter_append]
    by_cases ha : p a = true
    · obtain ⟨before', after', hsort', hrest', hbefore'⟩ :=
        List.mergeSort_cons trans total a (xs.filter p)
      rw [List.filter_cons_of_pos ha, List.filter_cons_of_pos ha, hsort']
      have hafter : ∀ y ∈ after, le a y = true := by
        have hsorted := List.pairwise_mergeSort trans total (a :: xs)
        rw [hsort] at hsorted
        exact (List.pairwise_cons.mp (List.pairwise_append.mp hsorted).2.1).1
      have hafter' : ∀ y ∈ after', le a y = true := by
        have hsorted := List.pairwise_mergeSort trans total (a :: xs.filter p)
        rw [hsort'] at hsorted
        exact (List.pairwise_cons.mp (List.pairwise_append.mp hsorted).2.1).1
      obtain ⟨hb, ha⟩ := append_cut_inj (p := fun y => !le a y) (ih.trans hrest')
        (fun y hy => hbefore y (List.mem_of_mem_filter hy))
        (fun y hy => by rw [hafter y (List.mem_of_mem_filter hy)]; rfl)
        hbefore' (fun y hy => by rw [hafter' y hy]; rfl)
      rw [hb, ha]
    · rw [List.filter_cons_of_neg ha, List.filter_cons_of_neg ha, ← ih]

omit trans total

/-- The places of a list in the order in which a sort brings them. -/
def sortedPlaces (le : α → α → Bool) (xs : List α) : List (Fin xs.length) :=
  (List.finRange xs.length).mergeSort fun i j => List.zipIdxLE le (xs.get i, i) (xs.get j, j)

theorem map_get_sortedPlaces (le : α → α → Bool) (xs : List α) :
    (sortedPlaces le xs).map xs.get = xs.mergeSort le := by
  have hzip : xs.zipIdx = (List.finRange xs.length).map fun i => (xs.get i, i.val) :=
    List.ext_getElem (by simp) fun i _ _ => by simp
  calc (sortedPlaces le xs).map xs.get
      = ((sortedPlaces le xs).map fun i => (xs.get i, i.val)).map Prod.fst := by
        rw [List.map_map]; rfl
    _ = (xs.zipIdx.mergeSort (List.zipIdxLE le)).map Prod.fst := by
        rw [hzip]
        exact congrArg _ (List.map_mergeSort fun _ _ _ _ => rfl)
    _ = xs.mergeSort le := List.mergeSort_zipIdx

theorem mem_sortedPlaces (le : α → α → Bool) (xs : List α) (i : Fin xs.length) :
    i ∈ sortedPlaces le xs :=
  List.mem_mergeSort.mpr (List.mem_finRange i)

include trans total

/-- **Elements that a sort cannot tell apart keep their order.** -/
theorem sortedPlaces_pairwise (xs : List α) : (sortedPlaces le xs).Pairwise fun i j =>
    le (xs.get i) (xs.get j) = true ∧ (le (xs.get j) (xs.get i) = true → i < j) := by
  have hsorted : (sortedPlaces le xs).Pairwise fun i j =>
      List.zipIdxLE le (xs.get i, i.val) (xs.get j, j.val) = true :=
    List.pairwise_mergeSort
      (fun i j k => List.zipIdxLE_trans trans (xs.get i, i.val) (xs.get j, j.val)
        (xs.get k, k.val))
      (fun i j => List.zipIdxLE_total total (xs.get i, i.val) (xs.get j, j.val)) _
  have hdistinct : (sortedPlaces le xs).Nodup :=
    (List.mergeSort_perm _ _).nodup_iff.mpr (List.nodup_finRange _)
  refine (hsorted.and hdistinct).imp fun {i j} ⟨hle, hne⟩ => ?_
  unfold List.zipIdxLE at hle
  split at hle
  · rename_i hij
    refine ⟨hij, fun hji => ?_⟩
    rw [if_pos hji] at hle
    exact lt_of_le_of_ne (of_decide_eq_true hle) hne
  · exact nomatch hle

end

end GoComplexity
