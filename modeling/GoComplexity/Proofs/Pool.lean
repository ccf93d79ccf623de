/-
# A pool of workers

Tasks wait in the order of their places.  A worker takes the first one that waits,
works on it and finishes it, and there are at most so many workers.  Meanwhile the
results are read in the order of the places.  The first problem that is read ends
the reading; then tasks that still wait may be dropped, and those that are worked
on are finished.

Whatever the workers do, a task is among the finished ones in the end if none
before it fails.  The pool is never stuck and comes to an end.

Key definitions: `Pool`, `Pool.Step`, `Pool.Invariant`, `Pool.IsDone`,
`FinishesIn`.
Key theorems: `Pool.Step.invariant`, `Pool.exists_step`, `Pool.Step.work_lt`,
`FinishesIn.mem`, `exists_finishesIn`, `finishesIn_of_perm`.
-/
import Mathlib.Data.List.Basic
import Mathlib.Logic.Relation

namespace GoComplexity

/-- A pool at work on the tasks of a list, each told by its place. -/
structure Pool where
  /-- The tasks that no worker has taken, in the order in which they will be. -/
  waiting : List Nat
  /-- The tasks that are worked on. -/
  working : List Nat := []
  /-- The finished tasks, in the order in which they were finished. -/
  finished : List Nat := []
  /-- The number of results that have been read. -/
  read : Nat := 0
  /-- Whether the result that was to be read next is a problem. -/
  failed : Bool := false

namespace Pool

variable {workers n : Nat} {Fails : Nat → Prop} {p q : Pool}

/-- The pool before any of its tasks is taken. -/
def start (n : Nat) : Pool := { waiting := List.range n }

/-- One step of a pool of so many workers. -/
inductive Step (workers : Nat) (Fails : Nat → Prop) : Pool → Pool → Prop
  | take {p : Pool} {i : Nat} {rest : List Nat} (hroom : p.working.length < workers)
      (hfirst : p.waiting = i :: rest) :
      Step workers Fails p { p with waiting := rest, working := i :: p.working }
  | finish {p : Pool} {i : Nat} (hi : i ∈ p.working) :
      Step workers Fails p
        { p with working := p.working.erase i, finished := p.finished ++ [i] }
  | read {p : Pool} (hgoes : p.failed = false) (hnext : p.read ∈ p.finished)
      (hok : ¬ Fails p.read) :
      Step workers Fails p { p with read := p.read + 1 }
  | fail {p : Pool} (hgoes : p.failed = false) (hnext : p.read ∈ p.finished)
      (hfails : Fails p.read) :
      Step workers Fails p { p with failed := true }
  | drop {p : Pool} {i : Nat} (hstops : p.failed = true) (hi : i ∈ p.waiting) :
      Step workers Fails p { p with waiting := p.waiting.erase i }

/-- Whether nothing is left to do for so many tasks. -/
structure IsDone (n : Nat) (p : Pool) : Prop where
  waiting : p.waiting = []
  working : p.working = []
  read : p.failed = true ∨ p.read = n

/-- What holds of a pool at any time: no task gets lost before a problem is read,
and what has been read was finished. -/
structure Invariant (Fails : Nat → Prop) (n : Nat) (p : Pool) : Prop where
  places : ∀ i, i ∈ p.waiting ∨ i ∈ p.working ∨ i ∈ p.finished → i < n
  kept : p.failed = false → ∀ i < n, i ∈ p.waiting ∨ i ∈ p.working ∨ i ∈ p.finished
  read : ∀ i < p.read, i ∈ p.finished ∧ ¬ Fails i
  failed : p.failed = true → p.read ∈ p.finished ∧ Fails p.read

/-! ### What a step keeps -/

theorem invariant_start (Fails : Nat → Prop) (n : Nat) : (start n).Invariant Fails n where
  places i hi := by simpa [start] using hi
  kept _ i hi := Or.inl (List.mem_range.mpr hi)
  read i hi := absurd hi (Nat.not_lt_zero i)
  failed h := absurd h Bool.false_ne_true

/-- **Every step keeps the invariant.** -/
theorem Step.invariant (h : p.Step workers Fails q) (hp : p.Invariant Fails n) :
    q.Invariant Fails n := by
  cases h with
  | @take i rest hroom hfirst =>
    have hmem : ∀ j, j ∈ p.waiting ↔ j = i ∨ j ∈ rest := fun j => by
      rw [hfirst, List.mem_cons]
    refine ⟨fun j hj => hp.places j ?_, fun hgoes j hj => ?_, hp.read, hp.failed⟩
    · rw [hmem]
      rw [List.mem_cons] at hj
      tauto
    · have hkept := hp.kept hgoes j hj
      rw [hmem] at hkept
      rw [List.mem_cons]
      tauto
  | @finish i hi =>
    have hmem : ∀ j, j ∈ p.finished ++ [i] ↔ j ∈ p.finished ∨ j = i := fun j => by
      rw [List.mem_append, List.mem_singleton]
    refine ⟨fun j hj => ?_, fun hgoes j hj => ?_, fun j hj => ?_, fun hfailed => ?_⟩
    · rw [hmem] at hj
      rcases hj with hj | hj | hj | rfl
      · exact hp.places j (Or.inl hj)
      · exact hp.places j (Or.inr (Or.inl (List.mem_of_mem_erase hj)))
      · exact hp.places j (Or.inr (Or.inr hj))
      · exact hp.places j (Or.inr (Or.inl hi))
    · rw [hmem]
      by_cases hji : j = i
      · exact Or.inr (Or.inr (Or.inr hji))
      · rw [List.mem_erase_of_ne hji]
        have hkept := hp.kept hgoes j hj
        tauto
    · exact ⟨List.mem_append_left _ (hp.read j hj).1, (hp.read j hj).2⟩
    · exact ⟨List.mem_append_left _ (hp.failed hfailed).1, (hp.failed hfailed).2⟩
  | read hgoes hnext hok =>
    refine ⟨hp.places, hp.kept, fun j hj => ?_, fun hfailed => ?_⟩
    · rcases Nat.lt_succ_iff_lt_or_eq.mp hj with hj | rfl
      · exact hp.read j hj
      · exact ⟨hnext, hok⟩
    · exact absurd (hgoes.symm.trans hfailed) Bool.false_ne_true
  | fail hgoes hnext hfails =>
    exact ⟨hp.places, fun hgoes => absurd hgoes.symm Bool.false_ne_true, hp.read,
      fun _ => ⟨hnext, hfails⟩⟩
  | @drop i hstops hi =>
    refine ⟨fun j hj => hp.places j ?_, fun hgoes => ?_, hp.read, hp.failed⟩
    · exact hj.imp_left List.mem_of_mem_erase
    · exact absurd (hgoes.symm.trans hstops) Bool.false_ne_true

theorem Invariant.reach (hp : p.Invariant Fails n)
    (h : Relation.ReflTransGen (Step workers Fails) p q) : q.Invariant Fails n := by
  induction h with
  | refl => exact hp
  | tail _ hstep ih => exact hstep.invariant ih

/-- When a pool is done, every task with no failing one before it is finished. -/
theorem Invariant.mem_finished (hp : p.Invariant Fails n) (hdone : p.IsDone n) {i : Nat}
    (hi : i < n) (hbefore : ∀ j < i, ¬ Fails j) : i ∈ p.finished := by
  cases hfailed : p.failed with
  | false =>
    have hread : p.read = n := hdone.read.resolve_left (by rw [hfailed]; decide)
    exact (hp.read i (hread ▸ hi)).1
  | true =>
    obtain ⟨hmem, hfails⟩ := hp.failed hfailed
    rcases Nat.lt_trichotomy i p.read with hlt | rfl | hgt
    · exact (hp.read i hlt).1
    · exact hmem
    · exact absurd hfails (hbefore p.read hgt)

/-! ### The end -/

/-- **The pool is never stuck**: it is done or has a step to take. -/
theorem exists_step (hworkers : 0 < workers) (hp : p.Invariant Fails n) :
    p.IsDone n ∨ ∃ q, p.Step workers Fails q := by
  cases hworking : p.working with
  | cons i is => exact Or.inr ⟨_, Step.finish (i := i) (by rw [hworking]; exact List.mem_cons_self)⟩
  | nil =>
    cases hwaiting : p.waiting with
    | cons i is => exact Or.inr ⟨_, Step.take (by rw [hworking]; exact hworkers) hwaiting⟩
    | nil =>
      cases hfailed : p.failed with
      | true => exact Or.inl ⟨hwaiting, hworking, Or.inl hfailed⟩
      | false =>
        -- every task is finished, so the next result can be read if there is one
        have hfinished : ∀ i < n, i ∈ p.finished := fun i hi => by
          have hkept := hp.kept hfailed i hi
          rw [hwaiting, hworking] at hkept
          simpa using hkept
        rcases Nat.lt_or_ge p.read n with hlt | hge
        · by_cases hfails : Fails p.read
          · exact Or.inr ⟨_, Step.fail hfailed (hfinished _ hlt) hfails⟩
          · exact Or.inr ⟨_, Step.read hfailed (hfinished _ hlt) hfails⟩
        · have hle : p.read ≤ n := by
            by_contra hlt
            exact absurd (hp.places n (Or.inr (Or.inr (hp.read n (by omega)).1))) (by omega)
          exact Or.inl ⟨hwaiting, hworking, Or.inr (by omega)⟩

/-- What is left to do for a pool. -/
def work (n : Nat) (p : Pool) : Nat :=
  2 * p.waiting.length + p.working.length + (n - p.read) + if p.failed then 0 else 1

/-- **Every step leaves less to do.** -/
theorem Step.work_lt (h : p.Step workers Fails q) (hp : p.Invariant Fails n) :
    q.work n < p.work n := by
  cases h with
  | take hroom hfirst =>
    simp only [work, hfirst, List.length_cons]
    omega
  | @finish i hi =>
    have hlength := List.length_erase_of_mem hi
    have hpos := List.length_pos_of_mem hi
    simp only [work, hlength]
    omega
  | read hgoes hnext hok =>
    have hlt := hp.places p.read (Or.inr (Or.inr hnext))
    simp only [work]
    omega
  | fail hgoes hnext hfails => simp [work, hgoes]
  | @drop i hstops hi =>
    have hlength := List.length_erase_of_mem hi
    have hpos := List.length_pos_of_mem hi
    simp only [work, hlength]
    omega

/-- Whatever the pool has done, it can come to its end. -/
theorem exists_reach_isDone (hworkers : 0 < workers) : ∀ (p : Pool), p.Invariant Fails n →
    ∃ q, Relation.ReflTransGen (Step workers Fails) p q ∧ q.IsDone n := by
  intro p
  induction hw : p.work n using Nat.strongRecOn generalizing p with
  | ind w ih =>
    intro hp
    rcases exists_step hworkers hp with hdone | ⟨q, hstep⟩
    · exact ⟨p, Relation.ReflTransGen.refl, hdone⟩
    · obtain ⟨r, hreach, hdone⟩ := ih (q.work n) (hw ▸ hstep.work_lt hp) q rfl (hstep.invariant hp)
      exact ⟨r, Relation.ReflTransGen.head hstep hreach, hdone⟩

end Pool

/-! ### The order of the finished tasks -/

/-- Whether a pool may have finished tasks in an order when it is done. -/
def FinishesIn (workers : Nat) (Fails : Nat → Prop) (n : Nat) (order : List Nat) : Prop :=
  ∃ p, Relation.ReflTransGen (Pool.Step workers Fails) (Pool.start n) p ∧ p.IsDone n ∧
    p.finished = order

variable {workers n : Nat} {Fails : Nat → Prop}

/-- **No task is left out** unless one before it fails. -/
theorem FinishesIn.mem {order : List Nat} (h : FinishesIn workers Fails n order) {i : Nat}
    (hi : i < n) (hbefore : ∀ j < i, ¬ Fails j) : i ∈ order := by
  obtain ⟨p, hreach, hdone, rfl⟩ := h
  exact ((Pool.invariant_start Fails n).reach hreach).mem_finished hdone hi hbefore

/-- **Some order comes about.** -/
theorem exists_finishesIn (hworkers : 0 < workers) (Fails : Nat → Prop) (n : Nat) :
    ∃ order, FinishesIn workers Fails n order := by
  obtain ⟨p, hreach, hdone⟩ := Pool.exists_reach_isDone hworkers _ (Pool.invariant_start Fails n)
  exact ⟨p.finished, p, hreach, hdone, rfl⟩

namespace Pool

/-- Workers that are not at work can take all tasks that wait. -/
theorem reach_takeAll : ∀ (waiting : List Nat) (p : Pool), p.waiting = waiting →
    p.working.length + waiting.length ≤ workers →
    Relation.ReflTransGen (Step workers Fails) p
      { p with waiting := [], working := waiting.reverse ++ p.working }
  | [], ⟨waiting, working, finished, read, failed⟩, hwaiting, _ => by
    obtain rfl : waiting = [] := hwaiting
    exact Relation.ReflTransGen.refl
  | i :: rest, p, hwaiting, hroom => by
    rw [List.length_cons] at hroom
    have htail := reach_takeAll rest { p with waiting := rest, working := i :: p.working } rfl
      (by rw [List.length_cons]; omega)
    rw [List.reverse_cons, List.append_assoc]
    exact Relation.ReflTransGen.head (Step.take (by omega) hwaiting) htail

/-- Tasks that are worked on can be finished in any order. -/
theorem reach_finishAll : ∀ (order : List Nat) (p : Pool), order.Perm p.working →
    Relation.ReflTransGen (Step workers Fails) p
      { p with working := [], finished := p.finished ++ order }
  | [], ⟨waiting, working, finished, read, failed⟩, hperm => by
    obtain rfl : [] = working := hperm.nil_eq
    rw [List.append_nil]
  | i :: order, p, hperm => by
    obtain ⟨hi, hperm⟩ := List.cons_perm_iff_perm_erase.mp hperm
    have htail := reach_finishAll order
      { p with working := p.working.erase i, finished := p.finished ++ [i] } hperm
    rw [List.append_assoc] at htail
    exact Relation.ReflTransGen.head (Step.finish hi) htail

/-- When all tasks are finished, their results can be read up to the first problem. -/
theorem reach_readAll (p : Pool) (hgoes : p.failed = false) (hread : p.read ≤ n)
    (hfinished : ∀ i < n, i ∈ p.finished) :
    ∃ k b, Relation.ReflTransGen (Step workers Fails) p { p with read := k, failed := b } ∧
      (b = true ∨ k = n) := by
  induction hk : n - p.read generalizing p with
  | zero =>
    refine ⟨p.read, p.failed, Relation.ReflTransGen.refl, Or.inr (by omega)⟩
  | succ k ih =>
    have hnext := hfinished p.read (by omega)
    by_cases hfails : Fails p.read
    · exact ⟨p.read, true, Relation.ReflTransGen.single (Step.fail hgoes hnext hfails), Or.inl rfl⟩
    · obtain ⟨k', b, hreach, hend⟩ :=
        ih { p with read := p.read + 1 } hgoes (by simp only; omega) hfinished (by simp only; omega)
      exact ⟨k', b, Relation.ReflTransGen.head (Step.read hgoes hnext hfails) hreach, hend⟩

end Pool

/-- **Any order may come about** if there are as many workers as tasks. -/
theorem finishesIn_of_perm (Fails : Nat → Prop) (hworkers : n ≤ workers) {order : List Nat}
    (horder : order.Perm (List.range n)) : FinishesIn workers Fails n order := by
  have htake : Relation.ReflTransGen (Pool.Step workers Fails) (Pool.start n) _ :=
    Pool.reach_takeAll (List.range n) (Pool.start n) rfl (by simpa [Pool.start] using hworkers)
  have hfinish : Relation.ReflTransGen (Pool.Step workers Fails)
      { Pool.start n with waiting := [], working := (List.range n).reverse ++ [] } _ :=
    Pool.reach_finishAll order _ (by
      rw [List.append_nil]
      exact horder.trans (List.reverse_perm _).symm)
  obtain ⟨k, b, hread, hend⟩ : ∃ k b, Relation.ReflTransGen (Pool.Step workers Fails)
      { Pool.start n with waiting := [], working := [], finished := [] ++ order }
      { Pool.start n with
        waiting := [], working := [], finished := [] ++ order, read := k, failed := b } ∧
      (b = true ∨ k = n) :=
    Pool.reach_readAll _ rfl (Nat.zero_le n) fun i hi => horder.mem_iff.mpr (List.mem_range.mpr hi)
  exact ⟨_, htake.trans (hfinish.trans hread), ⟨rfl, rfl, hend⟩, rfl⟩

end GoComplexity
