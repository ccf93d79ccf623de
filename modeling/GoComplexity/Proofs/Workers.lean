/-
# Any number of workers

Several workers come to what one comes to.  The results of a pool are kept by
place and read in the order of the places, and a task comes to the same whenever
it is run.  So the first problem in that order ends the run, and without a problem
the results are those of the tasks one after the other, in whatever order the pool
finishes them.  All this is so whatever the parser makes of the files.

Key definitions: `Fails`, `analysisOf`.
Key theorems: `finishAll_yields`, `runPool_yields`, `outcomes_yields`,
`analyze_workers`.
-/
import GoComplexity.Analysis.Go
import GoComplexity.Proofs.Outcome
import GoComplexity.Proofs.Pool

namespace GoComplexity

/-- Whether the task at a place comes to a problem. -/
def Fails {α : Type} (tasks : List (Run α)) (i : Nat) : Prop :=
  ∃ task ∈ tasks[i]?, ∃ problem, task.outcome [] = .error problem

/-! ### The results of a pool -/

section

variable {α β : Type} {f : α → Run β} {g : α → Except Problem β} {xs : List α}
  (hf : ∀ x ∈ xs, (f x).Yields (g x))

include hf

/-- Tasks that are finished in an order have their results, whatever is logged. -/
theorem finishAll_yields : ∀ order : List Nat,
    (finishAll (xs.map f) order).Yields
      (.ok (order.filterMap fun i => xs[i]?.map fun x => (i, g x)))
  | [] => fun _ => rfl
  | i :: order => by
    have ih := finishAll_yields order
    rw [finishAll, List.getElem?_map, List.filterMap_cons]
    cases hx : xs[i]? with
    | none => exact ih
    | some x =>
      have htask := (hf x (List.mem_of_getElem? hx)).capture
      exact htask.bind (g := fun e => .ok ((i, e) :: _)) fun e _ =>
        ih.bind (g := fun es => .ok ((i, e) :: es)) fun _ _ => Run.yields_pure _

omit hf in
/-- The result that is kept for a place. -/
theorem lookup_finished (order : List Nat) (i : Nat) :
    (order.filterMap fun j => xs[j]?.map fun x => (j, g x)).lookup i =
      if i ∈ order then xs[i]?.map g else none := by
  induction order with
  | nil => rfl
  | cons j order ih =>
    rw [List.filterMap_cons]
    cases hx : xs[j]? with
    | none =>
      rw [Option.map_none, ih]
      by_cases hij : i = j
      · rw [hij, hx]
        simp
      · simp [hij]
    | some x =>
      rw [Option.map_some, List.lookup_cons]
      by_cases hij : i = j
      · rw [hij, hx]
        simp
      · rw [beq_eq_false_iff_ne.mpr hij, ih]
        simp [hij]

/-- A task that comes to a result does not fail. -/
theorem not_fails {i : Nat} {x : α} (hx : xs[i]? = some x) {b : β} (hb : g x = .ok b) :
    ¬ Fails (xs.map f) i := by
  rintro ⟨task, htask, problem, hproblem⟩
  rw [List.getElem?_map, hx] at htask
  obtain rfl := Option.some.inj htask
  rw [hf x (List.mem_of_getElem? hx) [], hb] at hproblem
  exact nomatch hproblem

/-- The results that are read from a place on, if those before it are no problems. -/
theorem readAll_yields {order : List Nat}
    (horder : ∀ i < xs.length, (∀ j < i, ¬ Fails (xs.map f) j) → i ∈ order)
    {results : List (Nat × Except Problem β)}
    (hresults : ∀ i, results.lookup i = if i ∈ order then xs[i]?.map g else none) :
    ∀ rest before : List α, xs = before ++ rest → (∀ x ∈ before, ∃ b, g x = .ok b) →
      (((List.range' before.length rest.length).filterMapM fun i =>
        match results.lookup i with
        | some (.ok b) => return some b
        | some (.error problem) => throw problem
        | none => return none) : Run (List β)).Yields (rest.mapM g)
  | [], before, _, _ => fun _ => rfl
  | x :: rest, before, hsplit, hbefore => by
    have hx : xs[before.length]? = some x := by rw [hsplit]; simp
    have hplace : before.length ∈ order := by
      refine horder _ (by rw [hsplit]; simp) fun j hj => ?_
      have hjx : xs[j]? = some before[j] := by
        rw [hsplit, List.getElem?_append_left hj]
        exact List.getElem?_eq_getElem hj
      obtain ⟨b, hb⟩ := hbefore before[j] (List.getElem_mem hj)
      exact not_fails hf hjx hb
    have hlookup : results.lookup before.length = some (g x) := by
      rw [hresults, if_pos hplace, hx]
      rfl
    rw [List.length_cons, List.range'_succ, List.filterMapM_cons, List.mapM_cons, hlookup]
    cases hg : g x with
    | error problem =>
      exact (Run.yields_throw problem).bind (g := fun _ => .error problem) fun _ h => nomatch h
    | ok b =>
      have ih := readAll_yields horder hresults rest (before ++ [x])
        (by rw [hsplit, List.append_assoc]; rfl) fun y hy => by
          rcases List.mem_append.mp hy with hy | hy
          · exact hbefore y hy
          · exact ⟨b, List.mem_singleton.mp hy ▸ hg⟩
      rw [List.length_append] at ih
      refine (Run.yields_pure (some b)).bind
        (g := fun _ => rest.mapM g >>= fun bs => pure (b :: bs)) fun o ho => ?_
      obtain rfl := Except.ok.inj ho
      exact ih.bind fun _ _ => Run.yields_pure _

/-- **The results of a pool** are those of its tasks one after the other, if no
task is left out unless one before it fails. -/
theorem runPool_yields {order : List Nat}
    (horder : ∀ i < xs.length, (∀ j < i, ¬ Fails (xs.map f) j) → i ∈ order) :
    (runPool order (xs.map f)).Yields (xs.mapM g) := by
  refine (finishAll_yields hf order).bind (g := fun _ => xs.mapM g) fun results hresults => ?_
  obtain rfl := Except.ok.inj hresults
  have hread := readAll_yields hf horder (lookup_finished order) xs [] rfl fun _ hx =>
    absurd hx List.not_mem_nil
  rw [List.length_map, List.range_eq_range']
  exact hread

end

/-! ### The analysis -/

theorem Value.isAbove_int (w n : Int) : (Value.int w).isAbove n = .ok (decide (n < w)) := by
  show Except.ok (some (compare w n) == some .gt) = _
  rcases Int.lt_trichotomy w n with h | rfl | h
  · rw [Int.compare_eq_lt.mpr h, decide_eq_false (by omega)]
    rfl
  · rw [Int.compare_eq_eq.mpr rfl, decide_eq_false (by omega)]
    rfl
  · rw [Int.compare_eq_gt.mpr h, decide_eq_true h]
    rfl

/-- What a run has found out when it knows what became of the files. -/
def analysisOf (scanErrors : List Failure) (outcomes : List FileOutcome) : Analysis :=
  let stats := outcomes.filterMap FileOutcome.stats?
  ⟨stats.flatten, stats.length, scanErrors ++ outcomes.filterMap FileOutcome.failure?⟩

namespace Frontend

variable (front : Frontend) (a : Analyzer) (d : Disk)

/-- What becomes of files does not hang on the number of workers, nor on the order
in which they finish the files. -/
theorem outcomes_yields {above : Bool} (hworkers : a.workers.isAbove 1 = .ok above)
    {order : List Nat} {files : List String}
    (horder : above = true → 1 < files.length →
      ∀ i < files.length, (∀ j < i, ¬ Fails (files.map (front.tryFile a d)) j) → i ∈ order) :
    (front.outcomes a d order files).Yields (files.mapM (front.outcomeOf a d)) := by
  have hfiles : ∀ path ∈ files, (front.tryFile a d path).Yields (front.outcomeOf a d path) :=
    fun path _ => front.tryFile_yields a d path
  have habove : (Run.ofTyped (a.workers.isAbove 1)).Yields (.ok above) := by
    rw [hworkers]
    exact Run.yields_pure above
  refine habove.bind (g := fun _ => files.mapM (front.outcomeOf a d)) fun b hb => ?_
  obtain rfl := Except.ok.inj hb
  split
  · rename_i hpool
    rw [Bool.and_eq_true, decide_eq_true_eq] at hpool
    exact runPool_yields hfiles (horder hpool.1 hpool.2)
  · exact Run.mapM_yields hfiles

/-- What an analysis comes to, after the scan. -/
theorem outcome_analyzeIn (order : Nat → List Nat) (paths : List String) (log : List Record)
    (houtcomes : ∀ files failures, (scan d a.rules paths).outcome log = .ok (files, failures) →
      (front.outcomes a d (order files.length) files).Yields (files.mapM (front.outcomeOf a d))) :
    (front.analyzeIn a order d paths).outcome log =
      (scan d a.rules paths).outcome log >>= fun p =>
        (p.1.mapM (front.outcomeOf a d)).map (analysisOf p.2) := by
  have hscan : (scan d a.rules paths).outcome log = ((scan d a.rules paths).run.run log).1 := rfl
  rw [analyzeIn, Run.outcome_bind, hscan]
  rcases hrun : (scan d a.rules paths).run.run log with ⟨_ | ⟨files, failures⟩, log'⟩
  · rfl
  · have houtcomes := houtcomes files failures (hscan.trans (by rw [hrun]))
    refine (houtcomes.bind (g := fun outcomes => .ok (analysisOf failures outcomes))
      (fun outcomes _ => ?_) log').trans ?_
    · have hlast := Run.yields_pure (analysisOf failures outcomes)
      exact (Run.Yields.after hlast (Run.yields_log _ _ _)).after (Run.yields_logAll _)
    · show _ = Except.map _ _
      cases files.mapM (front.outcomeOf a d) <;> rfl

/-- A strict analyzer ends with a failure at the first malformed file. -/
theorem mapM_outcomeOf_eq_failure_iff {a : Analyzer} (hstrict : a.strict = true)
    (files : List String) (f : Failure) :
    files.mapM (front.outcomeOf a d) = .error (.failure f) ↔
      ∃ before path after, files = before ++ path :: after ∧
        (∀ p ∈ before, holdsNull p = false ∧ ∀ f', ¬ front.IsMalformed d p f') ∧
          front.IsMalformed d path f := by
  rw [mapM_eq_error_iff]
  simp only [front.outcomeOf_eq_ok_iff hstrict, front.outcomeOf_eq_failure_iff hstrict]

/-- **Several workers come to what one comes to**, in whatever order a pool of them
finishes the files that the scan finds.  A strict analyzer ends with a failure
exactly at the first malformed file in the order of the scan, if all files before
it have paths that can be used. -/
theorem analyze_workers {w : Int} (hworkers : a.workers = .int w) (hw : 1 < w)
    (paths : List String) (log : List Record) (order : Nat → List Nat)
    (horder : ∀ files failures, (scan d a.rules paths).outcome log = .ok (files, failures) →
      1 < files.length → FinishesIn w.toNat (Fails (files.map (front.tryFile a d))) files.length
        (order files.length)) :
    (front.analyzeIn a order d paths).outcome log =
        (front.analyze { a with workers := .int 1 } d paths).outcome log ∧
      ∀ files failures, (scan d a.rules paths).outcome log = .ok (files, failures) →
        a.strict = true → ∀ f,
          ((front.analyzeIn a order d paths).outcome log = .error (.failure f) ↔
            ∃ before path after, files = before ++ path :: after ∧
              (∀ p ∈ before, holdsNull p = false ∧ ∀ f', ¬ front.IsMalformed d p f') ∧
              front.IsMalformed d path f) := by
  have habove : a.workers.isAbove 1 = .ok true := by
    rw [hworkers, Value.isAbove_int, decide_eq_true hw]
  have hpool := front.outcome_analyzeIn a d order paths log fun files failures hscan =>
    front.outcomes_yields a d habove fun _ hlength i hi hbefore =>
      (horder files failures hscan hlength).mem hi hbefore
  let one : Analyzer := { a with workers := .int 1 }
  have hone := front.outcome_analyzeIn one d List.range paths log fun _ _ _ =>
    front.outcomes_yields one d (Value.isAbove_int 1 1) fun h => nomatch h
  refine ⟨hpool.trans hone.symm, fun files failures hscan hstrict f => ?_⟩
  rw [hpool, hscan, ← front.mapM_outcomeOf_eq_failure_iff d hstrict files f]
  show Except.map _ _ = _ ↔ _
  cases files.mapM (front.outcomeOf a d) with
  | error problem => simp [Except.map]
  | ok outcomes => exact iff_of_false (fun h => nomatch h) fun h => nomatch h

/-- A strict analyzer with two workers. -/
def strictPair : Analyzer := { strict := true, workers := .int 2 }

/-- A disk with two files of one brace each. -/
def braces : Disk where
  root := [("a.go", .file (ByteArray.mk #[125])), ("b.go", .file (ByteArray.mk #[123]))]

theorem scan_braces :
    (scan braces strictPair.rules ["a.go", "b.go"]).outcome [] = .ok (["a.go", "b.go"], []) := by
  rfl

theorem isMalformed_braces : ∃ f, go.IsMalformed braces "a.go" f := by
  have hread : readSource braces "a.go" = .ok (ByteArray.mk #[125]) := by rfl
  have hfails : (go.measureSource "a.go" (ByteArray.mk #[125])).isOk = false := by decide +kernel
  cases hm : go.measureSource "a.go" (ByteArray.mk #[125]) with
  | ok stats => rw [hm] at hfails; exact nomatch hfails
  | error f => exact ⟨f, _, hread, hm⟩

/-- The first file ends the run if it is malformed, though the other one is finished
before it. -/
theorem analyze_workers_reversed :
    strictPair.workers = .int 2 ∧ (1 : Int) < 2 ∧
      FinishesIn 2 (Fails (["a.go", "b.go"].map (go.tryFile strictPair braces))) 2 [1, 0] ∧
      (go.analyzeIn strictPair (fun _ => [1, 0]) braces ["a.go", "b.go"]).outcome [] =
        (go.analyze { strictPair with workers := .int 1 } braces ["a.go", "b.go"]).outcome [] ∧
      ∃ f, go.IsMalformed braces "a.go" f ∧
        (go.analyzeIn strictPair (fun _ => [1, 0]) braces ["a.go", "b.go"]).outcome [] =
          .error (.failure f) := by
  have horder : FinishesIn 2 (Fails (["a.go", "b.go"].map (go.tryFile strictPair braces))) 2
      [1, 0] :=
    finishesIn_of_perm _ (Nat.le_refl 2) (by decide)
  obtain ⟨hsame, hfirst⟩ := go.analyze_workers strictPair braces (w := 2) rfl (by decide)
    ["a.go", "b.go"] [] (fun _ => [1, 0]) fun files failures hscan _ => by
      obtain ⟨rfl, rfl⟩ := Prod.ext_iff.mp (Except.ok.inj (scan_braces.symm.trans hscan))
      exact horder
  obtain ⟨f, hf⟩ := isMalformed_braces
  have hends := (hfirst _ _ scan_braces rfl f).mpr
    ⟨[], "a.go", ["b.go"], rfl, fun _ hp => absurd hp List.not_mem_nil, hf⟩
  exact ⟨rfl, by decide, horder, hsame, f, hf, hends⟩

end Frontend

end GoComplexity
