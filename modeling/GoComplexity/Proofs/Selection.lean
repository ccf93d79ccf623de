/-
# What a selection keeps

A report ranks the functions by a measure, stops at the first one that is not above a bar,
and cuts the list at a length.  Since the functions come by descending value, those behind
the first one at or below the bar are not above it either: a selection keeps all that are
above the bar, ranks them with equal values in their original order, and shows the first of
them.  A selection of a selection is one selection, by the tighter length and the higher bar.

Key definitions: `limit`, `tighter`, `Outranks`.
Key theorems: `limit_limit`, `ranked_filter`, `exists_places`, `cut_eq_limit`,
`select_eq_limit_filter`, `select_eq_limit_ranked`, `select_select`, `select_select_tighter`.
-/
import GoComplexity.Proofs.Sorting
import GoComplexity.Score.Ranking
import Mathlib.Data.Int.Order.Basic
import Mathlib.Order.Lattice

namespace GoComplexity

/-! ### Lengths -/

section

variable {α β : Type}

/-- The first elements of a list, as many as a length says; a negative length is no limit. -/
def limit (top : Int) (xs : List α) : List α := if top < 0 then xs else xs.take top.toNat

/-- The smaller of two lengths, of which a negative one is no limit. -/
def tighter (top₁ top₂ : Int) : Int :=
  if 0 ≤ top₁ ∧ 0 ≤ top₂ then min top₁ top₂ else max top₁ top₂

theorem limit_of_neg {top : Int} (h : top < 0) (xs : List α) : limit top xs = xs := if_pos h

theorem limit_nil (top : Int) : limit top ([] : List α) = [] := by
  unfold limit
  split <;> simp

theorem limit_zero (xs : List α) : limit 0 xs = [] := by simp [limit]

theorem limit_cons {top : Int} (h : top ≠ 0) (x : α) (xs : List α) :
    limit top (x :: xs) = x :: limit (top - 1) xs := by
  unfold limit
  by_cases hneg : top < 0
  · rw [if_pos hneg, if_pos (by omega)]
  · have hnat : top.toNat = (top - 1).toNat + 1 := by omega
    rw [if_neg hneg, if_neg (by omega), hnat, List.take_succ_cons]

theorem limit_ne_nil_iff {top : Int} {xs : List α} : limit top xs ≠ [] ↔ top ≠ 0 ∧ xs ≠ [] := by
  by_cases htop : top = 0
  · simp [htop, limit_zero]
  · cases xs with
    | nil => simp [limit_nil]
    | cons x xs => simp [limit_cons htop, htop]

theorem limit_prefix_self (top : Int) (xs : List α) : limit top xs <+: xs := by
  unfold limit
  split
  · exact List.prefix_rfl
  · exact List.take_prefix _ _

theorem map_limit (f : α → β) (top : Int) (xs : List α) :
    (limit top xs).map f = limit top (xs.map f) := by
  unfold limit
  split
  · rfl
  · exact List.map_take

/-- Lengths that are equal or both no limit cut a list alike. -/
theorem limit_congr {top₁ top₂ : Int} (h : top₁ = top₂ ∨ top₁ < 0 ∧ top₂ < 0) (xs : List α) :
    limit top₁ xs = limit top₂ xs := by
  rcases h with rfl | ⟨h₁, h₂⟩
  · rfl
  · rw [limit_of_neg h₁, limit_of_neg h₂]

/-- **Cutting a list at two lengths** is cutting it at the tighter one. -/
theorem limit_limit (top₁ top₂ : Int) (xs : List α) :
    limit top₂ (limit top₁ xs) = limit (tighter top₁ top₂) xs := by
  by_cases h₁ : top₁ < 0
  · rw [limit_of_neg h₁]
    exact limit_congr (by unfold tighter; omega) xs
  · by_cases h₂ : top₂ < 0
    · rw [limit_of_neg h₂]
      exact limit_congr (by unfold tighter; omega) xs
    · have htighter : tighter top₁ top₂ = min top₁ top₂ := if_pos (by omega)
      have hnat : (min top₁ top₂).toNat = min top₂.toNat top₁.toNat := by omega
      rw [htighter, limit, limit, limit, if_neg h₁, if_neg h₂, if_neg (by omega),
        List.take_take, hnat]

theorem takeWhile_limit (p : α → Bool) (top : Int) (xs : List α) :
    (limit top xs).takeWhile p = limit top (xs.takeWhile p) := by
  induction xs generalizing top with
  | nil => rw [limit_nil, List.takeWhile_nil, limit_nil]
  | cons x xs ih =>
    by_cases htop : top = 0
    · rw [htop, limit_zero, limit_zero, List.takeWhile_nil]
    · rw [limit_cons htop]
      by_cases hx : p x = true
      · rw [List.takeWhile_cons_of_pos hx, List.takeWhile_cons_of_pos hx, limit_cons htop, ih]
      · rw [List.takeWhile_cons_of_neg hx, List.takeWhile_cons_of_neg hx, limit_nil]

end

/-! ### Bars -/

namespace Bar

theorem passes_ofInt (floor score : Int) :
    (ofInt floor).passes score = decide (floor ≤ 0 ∨ floor < score) := by
  unfold ofInt
  split
  · exact decide_eq_decide.mpr (by omega)
  · exact (decide_eq_true (by omega)).symm

theorem passes_mono {a b : Int} (hab : a ≤ b) :
    ∀ {bar : Bar}, bar.passes a = true → bar.passes b = true
  | .open, _ => rfl
  | .above _, ha => decide_eq_true (lt_of_lt_of_le (of_decide_eq_true ha) hab)
  | .shut, ha => ha

/-- The higher of two bars is passed by what passes both. -/
theorem passes_ofInt_max (floor₁ floor₂ score : Int) :
    (ofInt (max floor₁ floor₂)).passes score =
      ((ofInt floor₁).passes score && (ofInt floor₂).passes score) := by
  rw [passes_ofInt, passes_ofInt, passes_ofInt, ← Bool.decide_and]
  exact decide_eq_decide.mpr (by omega)

end Bar

/-! ### The ranking -/

section

variable (m : Metric)

/-- Whether the function at one place comes before that at another one: it has the greater
value, or the same value and stands first. -/
def Outranks (stats : List Stat) (i j : Fin stats.length) : Prop :=
  (stats.get j).value m < (stats.get i).value m ∨
    (stats.get j).value m = (stats.get i).value m ∧ i < j

theorem value_trans (a b c : Stat) (hab : decide (b.value m ≤ a.value m) = true)
    (hbc : decide (c.value m ≤ b.value m) = true) : decide (c.value m ≤ a.value m) = true :=
  decide_eq_true (le_trans (of_decide_eq_true hbc) (of_decide_eq_true hab))

theorem value_total (a b : Stat) :
    (decide (b.value m ≤ a.value m) || decide (a.value m ≤ b.value m)) = true := by
  rw [Bool.or_eq_true, decide_eq_true_eq, decide_eq_true_eq]
  exact le_total _ _

theorem ranked_perm (stats : List Stat) : (ranked m stats).Perm stats := List.mergeSort_perm _ _

theorem ranked_pairwise (stats : List Stat) :
    (ranked m stats).Pairwise fun a b => b.value m ≤ a.value m :=
  (List.pairwise_mergeSort (value_trans m) (value_total m) stats).imp of_decide_eq_true

/-- A list by descending value stays as it is. -/
theorem ranked_of_pairwise {stats : List Stat}
    (h : stats.Pairwise fun a b => b.value m ≤ a.value m) : ranked m stats = stats :=
  List.mergeSort_of_pairwise (h.imp decide_eq_true)

/-- Functions may be left out before or after the ranking. -/
theorem ranked_filter (p : Stat → Bool) (stats : List Stat) :
    ranked m (stats.filter p) = (ranked m stats).filter p :=
  (filter_mergeSort (value_trans m) (value_total m) p stats).symm

/-- **The ranking as an order of places.** -/
theorem exists_places (stats : List Stat) : ∃ places : List (Fin stats.length),
    places.Pairwise (Outranks m stats) ∧ (∀ i, i ∈ places) ∧
      places.map stats.get = ranked m stats := by
  refine ⟨sortedPlaces (fun a b => b.value m ≤ a.value m) stats, ?_,
    mem_sortedPlaces _ stats, map_get_sortedPlaces _ stats⟩
  refine (sortedPlaces_pairwise (value_trans m) (value_total m) stats).imp fun {i j} h => ?_
  have hle : (stats.get j).value m ≤ (stats.get i).value m := of_decide_eq_true h.1
  rcases lt_or_eq_of_le hle with hlt | heq
  · exact Or.inl hlt
  · exact Or.inr ⟨heq, h.2 (decide_eq_true heq.ge)⟩

theorem Outranks.ne {stats : List Stat} {i j : Fin stats.length} (h : Outranks m stats i j) :
    i ≠ j := by
  rintro rfl
  rcases h with hlt | ⟨-, hlt⟩
  · exact lt_irrefl _ hlt
  · exact lt_irrefl _ hlt

/-! ### The cut -/

/-- The loop that cuts a list ends at the length or at the first function below the bar. -/
theorem cut_eq_limit (bar : Bar) (top : Int) (stats : List Stat) :
    cut m bar top stats = limit top (stats.takeWhile fun s => bar.passes (s.value m)) := by
  induction stats generalizing top with
  | nil => rw [cut, List.takeWhile_nil, limit_nil]
  | cons s rest ih =>
    rw [cut]
    by_cases htop : top = 0
    · rw [if_pos htop, htop, limit_zero]
    · rw [if_neg htop, List.takeWhile_cons]
      cases bar.passes (s.value m) with
      | true => rw [if_pos rfl, if_pos rfl, limit_cons htop, ih]
      | false => rw [if_neg Bool.false_ne_true, if_neg Bool.false_ne_true, limit_nil]

/-- In a list by descending value, nothing above the bar stands behind something that is not. -/
theorem takeWhile_passes (bar : Bar) {stats : List Stat}
    (h : stats.Pairwise fun a b => b.value m ≤ a.value m) :
    (stats.takeWhile fun s => bar.passes (s.value m)) =
      stats.filter fun s => bar.passes (s.value m) :=
  takeWhile_eq_filter (h.imp fun hab => Bar.passes_mono hab)

/-- A selection is a limit on the ranked functions above the bar: to stop at the first one
that is not above it loses nothing. -/
theorem select_eq_limit_filter (top : Int) (bar : Bar) (stats : List Stat) :
    select m top bar stats =
      limit top ((ranked m stats).filter fun s => bar.passes (s.value m)) := by
  rw [select, cut_eq_limit, takeWhile_passes m bar (ranked_pairwise m stats)]

theorem total_perm {stats stats' : List Stat} (h : stats.Perm stats') :
    total m stats = total m stats' :=
  h.foldr_eq' (fun a _ b _ sum => Int.add_left_comm (b.value m) (a.value m) sum) 0

/-- **What a selection keeps.** The functions above the bar, or all if the bar is zero or
less, are ranked by descending value with equal values in their original order, and the
first of them are kept, or all if the length is negative.  So a selection is a choice of
places, none of them twice.  Without a length and a bar all functions are kept, and the
sums of both measures with them. -/
theorem select_eq_limit_ranked (top floor : Int) (stats : List Stat) :
    select m top (Bar.ofInt floor) stats =
        limit top (ranked m (stats.filter fun s => floor ≤ 0 ∨ floor < s.value m)) ∧
      (∃ places : List (Fin stats.length),
        places.Pairwise (Outranks m stats) ∧
        (∀ i, i ∈ places ↔ floor ≤ 0 ∨ floor < (stats.get i).value m) ∧
        select m top (Bar.ofInt floor) stats = (limit top places).map stats.get ∧
        (limit top places).Nodup) ∧
      (top < 0 → floor ≤ 0 →
        (select m top (Bar.ofInt floor) stats).Perm stats ∧
        ∀ m', total m' (select m top (Bar.ofInt floor) stats) = total m' stats) := by
  have hselect : select m top (Bar.ofInt floor) stats =
      limit top ((ranked m stats).filter fun s => floor ≤ 0 ∨ floor < s.value m) := by
    simp only [select_eq_limit_filter, Bar.passes_ofInt]
  refine ⟨?_, ?_, fun htop hfloor => ?_⟩
  · rw [hselect, ranked_filter]
  · obtain ⟨places, hordered, hall, hranked⟩ := exists_places m stats
    have hkept : (places.filter fun i => floor ≤ 0 ∨ floor < (stats.get i).value m).Pairwise
        (Outranks m stats) := hordered.sublist List.filter_sublist
    refine ⟨_, hkept, fun i => ?_, ?_, ?_⟩
    · rw [List.mem_filter, decide_eq_true_eq]
      exact and_iff_right (hall i)
    · rw [hselect, ← hranked, List.filter_map, map_limit]
      rfl
    · exact (hkept.imp (Outranks.ne m)).sublist (limit_prefix_self top _).sublist
  · have hperm : (select m top (Bar.ofInt floor) stats).Perm stats := by
      rw [hselect, limit_of_neg htop, List.filter_eq_self.mpr fun s _ =>
        decide_eq_true (Or.inl hfloor)]
      exact ranked_perm m stats
    exact ⟨hperm, fun m' => total_perm m' hperm⟩

/-- Four functions of one file, two of them with the same cyclomatic complexity. -/
def fourStats : List Stat :=
  [⟨"p", "a", 3, 0, ⟨"a.go", 2, 1⟩⟩, ⟨"p", "b", 5, 1, ⟨"a.go", 7, 1⟩⟩,
    ⟨"p", "c", 1, 4, ⟨"a.go", 9, 1⟩⟩, ⟨"p", "d", 3, 2, ⟨"a.go", 13, 1⟩⟩]

/-- Without a length and a bar the four functions are all kept, and their sums with them. -/
theorem select_fourStats_perm :
    (select .cyclomatic (-1) (Bar.ofInt 0) fourStats).Perm fourStats ∧
      total .cognitive (select .cyclomatic (-1) (Bar.ofInt 0) fourStats) = 7 := by
  obtain ⟨-, -, hall⟩ := select_eq_limit_ranked .cyclomatic (-1) 0 fourStats
  obtain ⟨hperm, htotal⟩ := hall (by decide) (by decide)
  exact ⟨hperm, (htotal .cognitive).trans (by decide)⟩

/-! ### Selections of selections -/

/-- A selection is by descending value, so it is ranked as it stands. -/
theorem select_pairwise (top : Int) (bar : Bar) (stats : List Stat) :
    (select m top bar stats).Pairwise fun a b => b.value m ≤ a.value m := by
  rw [select_eq_limit_filter]
  exact ((ranked_pairwise m stats).sublist List.filter_sublist).sublist
    (limit_prefix_self top _).sublist

/-- A selection from a list by descending value is one from its front. -/
theorem select_of_pairwise (top : Int) (bar : Bar) {stats : List Stat}
    (h : stats.Pairwise fun a b => b.value m ≤ a.value m) :
    select m top bar stats = limit top (stats.takeWhile fun s => bar.passes (s.value m)) := by
  rw [select, ranked_of_pairwise m h, cut_eq_limit]

theorem select_prefix_of_pairwise (top : Int) (bar : Bar) {stats : List Stat}
    (h : stats.Pairwise fun a b => b.value m ≤ a.value m) : select m top bar stats <+: stats := by
  rw [select_of_pairwise m top bar h]
  have hfront := List.takeWhile_prefix (fun s : Stat => bar.passes (s.value m)) (l := stats)
  exact (limit_prefix_self top _).trans hfront

/-- **A selection of a selection** is one by the tighter length and the higher bar. -/
theorem select_select (top₁ floor₁ top₂ floor₂ : Int) (stats : List Stat) :
    select m top₂ (Bar.ofInt floor₂) (select m top₁ (Bar.ofInt floor₁) stats) =
      select m (tighter top₁ top₂) (Bar.ofInt (max floor₁ floor₂)) stats := by
  have hranked := ranked_pairwise m stats
  rw [select_of_pairwise m top₂ _ (select_pairwise m top₁ _ stats), select_eq_limit_filter,
    select_eq_limit_filter, takeWhile_limit, limit_limit,
    takeWhile_passes m _ (hranked.sublist List.filter_sublist), List.filter_filter]
  simp only [Bar.passes_ofInt_max, Bool.and_comm]

/-- Lengths that are no limit and bars of zero or less are all the same to a selection. -/
theorem select_congr {top₁ floor₁ top₂ floor₂ : Int} (htop : top₁ = top₂ ∨ top₁ < 0 ∧ top₂ < 0)
    (hfloor : floor₁ = floor₂ ∨ floor₁ ≤ 0 ∧ floor₂ ≤ 0) (stats : List Stat) :
    select m top₁ (Bar.ofInt floor₁) stats = select m top₂ (Bar.ofInt floor₂) stats := by
  have hpasses : ∀ score, (Bar.ofInt floor₁).passes score = (Bar.ofInt floor₂).passes score := by
    intro score
    rw [Bar.passes_ofInt, Bar.passes_ofInt]
    exact decide_eq_decide.mpr (by omega)
  simp only [select_eq_limit_filter, hpasses]
  exact limit_congr htop _

/-- **Selections compose.** A selection of a selection is one by the tighter length and the
higher bar.  So a selection made again changes nothing, the order of selections does not
matter, neither does that of the length and the bar, and what a stricter selection keeps is
the front of what a looser one keeps. -/
theorem select_select_tighter (top₁ floor₁ top₂ floor₂ : Int) (stats : List Stat) :
    select m top₂ (Bar.ofInt floor₂) (select m top₁ (Bar.ofInt floor₁) stats) =
        select m (tighter top₁ top₂) (Bar.ofInt (max floor₁ floor₂)) stats ∧
      select m top₁ (Bar.ofInt floor₁) (select m top₁ (Bar.ofInt floor₁) stats) =
        select m top₁ (Bar.ofInt floor₁) stats ∧
      select m top₁ (Bar.ofInt floor₁) (select m top₂ (Bar.ofInt floor₂) stats) =
        select m top₂ (Bar.ofInt floor₂) (select m top₁ (Bar.ofInt floor₁) stats) ∧
      select m top₁ (Bar.ofInt 0) (select m (-1) (Bar.ofInt floor₁) stats) =
        select m top₁ (Bar.ofInt floor₁) stats ∧
      select m (-1) (Bar.ofInt floor₁) (select m top₁ (Bar.ofInt 0) stats) =
        select m top₁ (Bar.ofInt floor₁) stats ∧
      ((top₂ < 0 ∨ 0 ≤ top₁ ∧ top₁ ≤ top₂) → (floor₂ ≤ 0 ∨ floor₂ ≤ floor₁) →
        select m top₁ (Bar.ofInt floor₁) stats <+: select m top₂ (Bar.ofInt floor₂) stats) := by
  refine ⟨select_select m .., ?_, ?_, ?_, ?_, fun htop hfloor => ?_⟩
  · rw [select_select]
    exact select_congr m (by unfold tighter; omega) (by omega) stats
  · rw [select_select, select_select]
    exact select_congr m (by unfold tighter; omega) (by omega) stats
  · rw [select_select]
    exact select_congr m (by unfold tighter; omega) (by omega) stats
  · rw [select_select]
    exact select_congr m (by unfold tighter; omega) (by omega) stats
  · -- the stricter selection is one from the looser one, which is ranked already
    have hstricter : select m top₁ (Bar.ofInt floor₁) (select m top₂ (Bar.ofInt floor₂) stats) =
        select m top₁ (Bar.ofInt floor₁) stats := by
      rw [select_select]
      exact select_congr m (by unfold tighter; omega) (by omega) stats
    rw [← hstricter]
    exact select_prefix_of_pairwise m _ _ (select_pairwise m _ _ _)

/-- A shorter list above a higher bar is the front of a longer one. -/
theorem select_fourStats_stricter :
    select .cyclomatic 1 (Bar.ofInt 2) fourStats <+: select .cyclomatic 3 (Bar.ofInt 1) fourStats :=
  (select_select_tighter .cyclomatic 1 2 3 1 fourStats).2.2.2.2.2 (by decide) (by decide)

/-- The length and the bar are those of two selections. -/
example : (select .cyclomatic 3 (Bar.ofInt 2)
    (select .cyclomatic (-1) (Bar.ofInt 0) fourStats)).map Stat.function = ["b", "a", "d"] := by
  cbv

end

end GoComplexity
