/-
# What runs come to

A run writes records as it goes and reads none of them.  So what it comes to is
the same whatever has been logged before, and can be told without the log: a file
is read, outlined and measured, or fails, and the files of a list are measured one
after the other up to the first problem.

Key definitions: `Run.outcome`, `Run.Yields`, `Frontend.measured`,
`Frontend.IsMalformed`, `Frontend.outcomeOf`.
Key theorems: `Run.Yields.bind`, `mapM_yields`, `tryFile_yields`, `mapM_eq_ok`,
`mapM_eq_error_iff`, `outcomeOf_cases`.
-/
import GoComplexity.Analysis.Analyzer

namespace GoComplexity

namespace Run

variable {α β : Type}

/-- What a run comes to after some records. -/
def outcome (r : Run α) (log : List Record) : Except Problem α := (r.run.run log).1

/-- Whether a run comes to a result whatever has been logged before. -/
def Yields (r : Run α) (e : Except Problem α) : Prop := ∀ log, r.outcome log = e

theorem yields_pure (a : α) : (pure a : Run α).Yields (.ok a) := fun _ => rfl

theorem yields_throw (p : Problem) : (throw p : Run α).Yields (.error p) := fun _ => rfl

theorem yields_logAll (records : List Record) : (logAll records).Yields (.ok ()) := fun _ => rfl

theorem yields_log (level : Level) (origin : Origin) (message : String) :
    (log level origin message).Yields (.ok ()) :=
  fun _ => rfl

theorem yields_lift (e : Except Problem α) : (liftM e : Run α).Yields e := fun _ => by
  cases e <;> rfl

/-- A run and the one after it. -/
theorem outcome_bind (r : Run α) (f : α → Run β) (log : List Record) :
    (r >>= f).outcome log =
      match r.run.run log with
      | (.ok a, log') => (f a).outcome log'
      | (.error p, _) => .error p := by
  have hbind : (r >>= f).run.run log = (match r.run.run log with
      | (.ok a, log') => (f a).run.run log'
      | (.error p, log') => (.error p, log')) := by
    rw [ExceptT.run_bind, StateT.run_bind]
    rcases r.run.run log with ⟨_ | _, _⟩ <;> rfl
  rw [outcome, hbind]
  rcases r.run.run log with ⟨_ | _, _⟩ <;> rfl

/-- A run whose result is known, and the one after it. -/
theorem Yields.bind {r : Run α} {e : Except Problem α} {f : α → Run β} {g : α → Except Problem β}
    (h : r.Yields e) (hf : ∀ a, e = .ok a → (f a).Yields (g a)) : (r >>= f).Yields (e >>= g) := by
  intro log
  have he : (r.run.run log).1 = e := h log
  rw [outcome_bind]
  rcases hr : r.run.run log with ⟨_ | a, log'⟩
  · rw [← he, hr]
    rfl
  · rw [← he, hr]
    have hok : e = .ok a := by rw [← he, hr]
    exact hf a hok log'

/-- A run, and one after it whose result is known. -/
theorem outcome_bind_yields {f : α → Run β} {g : α → Except Problem β}
    (hf : ∀ a, (f a).Yields (g a)) (r : Run α) (log : List Record) :
    (r >>= f).outcome log = r.outcome log >>= g := by
  have hr : (r.run.run log).1 = r.outcome log := rfl
  rw [outcome_bind, ← hr]
  rcases r.run.run log with ⟨_ | a, log'⟩
  · rfl
  · exact hf a log'

theorem yields_ofTyped (e : Except TypeFault α) : (ofTyped e).Yields (e.mapError Problem.type) :=
  fun _ => by cases e <;> rfl

/-- A run after one that only logs. -/
theorem Yields.after {r : Run Unit} {s : Run α} {e : Except Problem α} (hs : s.Yields e)
    (hr : r.Yields (.ok ())) : (r >>= fun _ => s).Yields e :=
  hr.bind (g := fun _ => e) fun _ _ => hs

/-- A problem that is captured is a result. -/
theorem Yields.capture {r : Run α} {e : Except Problem α} (h : r.Yields e) :
    r.capture.Yields (.ok e) :=
  fun log => congrArg Except.ok (h log)

/-- Runs over a list, one after the other. -/
theorem mapM_yields {f : α → Run β} {g : α → Except Problem β} : ∀ {xs : List α},
    (∀ x ∈ xs, (f x).Yields (g x)) → (xs.mapM f).Yields (xs.mapM g)
  | [], _ => fun _ => rfl
  | x :: xs, h => by
    have ih : (xs.mapM f).Yields (xs.mapM g) :=
      mapM_yields fun y hy => h y (List.mem_cons_of_mem _ hy)
    rw [List.mapM_cons, List.mapM_cons]
    exact (h x List.mem_cons_self).bind fun _ _ => ih.bind fun _ _ => yields_pure _

end Run

/-- The results of a list hang on its elements alone. -/
theorem mapM_congr {ε α β : Type} {f g : α → Except ε β} {xs : List α}
    (h : ∀ x ∈ xs, f x = g x) : xs.mapM f = xs.mapM g := by
  induction xs with
  | nil => rfl
  | cons x xs ih =>
    rw [List.mapM_cons, List.mapM_cons, h x List.mem_cons_self,
      ih fun y hy => h y (List.mem_cons_of_mem _ hy)]

/-- Results that are no problems, one after the other. -/
theorem mapM_eq_ok {ε α β : Type} {g : α → Except ε β} {f : α → β} {xs : List α}
    (h : ∀ x ∈ xs, g x = .ok (f x)) : xs.mapM g = .ok (xs.map f) := by
  induction xs with
  | nil => rfl
  | cons x xs ih =>
    rw [List.mapM_cons, h x List.mem_cons_self, ih fun y hy => h y (List.mem_cons_of_mem _ hy)]
    rfl

/-- The first problem of a list of results is that of the list. -/
theorem mapM_eq_error_iff {α β : Type} (g : α → Except Problem β) (p : Problem) (xs : List α) :
    xs.mapM g = .error p ↔
      ∃ before x after, xs = before ++ x :: after ∧ (∀ y ∈ before, ∃ b, g y = .ok b) ∧
        g x = .error p := by
  induction xs with
  | nil => exact iff_of_false (fun h => nomatch h) (by simp)
  | cons x xs ih =>
    rw [List.mapM_cons]
    cases hx : g x with
    | error q =>
      constructor
      · intro h
        obtain rfl : q = p := Except.error.inj h
        exact ⟨[], x, xs, rfl, by simp, hx⟩
      · rintro ⟨before, y, after, hsplit, hok, hy⟩
        cases before with
        | nil =>
          obtain ⟨rfl, rfl⟩ := List.cons_eq_cons.mp hsplit
          exact congrArg Except.error (Except.error.inj (hx.symm.trans hy))
        | cons z before =>
          obtain ⟨rfl, -⟩ := List.cons_eq_cons.mp hsplit
          obtain ⟨b, hb⟩ := hok x List.mem_cons_self
          exact absurd (hx.symm.trans hb) (by simp)
    | ok b =>
      have htail : (Except.ok b >>= fun b => xs.mapM g >>= fun bs => pure (b :: bs)) =
          Except.error p ↔ xs.mapM g = .error p := by
        cases xs.mapM g with
        | error q => exact Iff.rfl
        | ok bs => exact iff_of_false (fun h => nomatch h) (fun h => nomatch h)
      rw [htail, ih]
      constructor
      · rintro ⟨before, y, after, rfl, hok, hy⟩
        refine ⟨x :: before, y, after, rfl, fun z hz => ?_, hy⟩
        rcases List.mem_cons.mp hz with rfl | hz
        · exact ⟨b, hx⟩
        · exact hok z hz
      · rintro ⟨before, y, after, hsplit, hok, hy⟩
        cases before with
        | nil =>
          obtain ⟨rfl, -⟩ := List.cons_eq_cons.mp hsplit
          exact absurd (hx.symm.trans hy) (by simp)
        | cons z before =>
          obtain ⟨-, hsplit⟩ := List.cons_eq_cons.mp hsplit
          exact ⟨before, y, after, hsplit, fun w hw => hok w (List.mem_cons_of_mem _ hw), hy⟩

/-! ### Files -/

/-- What becomes of a file with some scores or some problem. -/
def Analyzer.outcomeFrom (a : Analyzer) : Except Problem (List Stat) → Except Problem FileOutcome
  | .ok stats => .ok (.measured stats)
  | .error (.failure (.fileAccess p reason)) => .ok (.failed (.fileAccess p reason))
  | .error (.failure (.parsing p reason location language)) =>
    let f := Failure.parsing p reason location language
    if a.strict then .error (.failure f) else .ok (.failed f)
  | .error problem => .error problem

/-- A file is not read because its path holds a null, or because it is not there. -/
theorem readSource_cases (d : Disk) (path : String) :
    holdsNull path = true ∧ readSource d path = .error .embeddedNull ∨
      holdsNull path = false ∧
        ((∃ content, readSource d path = .ok content) ∨
          ∃ reason, readSource d path = .error (.failure (.fileAccess path reason))) := by
  unfold readSource
  cases holdsNull path with
  | true => exact Or.inl ⟨rfl, rfl⟩
  | false =>
    refine Or.inr ⟨rfl, ?_⟩
    cases d.read (displayPath path) with
    | ok content => exact Or.inl ⟨content, rfl⟩
    | error fault => exact Or.inr ⟨fault.reason, rfl⟩

namespace Frontend

variable (front : Frontend)

/-- The scores of a file, or the problem with it. -/
def measured (d : Disk) (path : String) : Except Problem (List Stat) :=
  readSource d path >>= fun content => (front.measureSource path content).mapError Problem.failure

/-- Whether a file is malformed, or nested too deeply, with a failure. -/
def IsMalformed (d : Disk) (path : String) (f : Failure) : Prop :=
  ∃ content, readSource d path = .ok content ∧ front.measureSource path content = .error f

variable (a : Analyzer) (d : Disk)

/-- What becomes of a file. -/
def outcomeOf (path : String) : Except Problem FileOutcome :=
  a.outcomeFrom (front.measured d path)

theorem measureFile_yields (path : String) :
    (front.measureFile d path).Yields (front.measured d path) := by
  refine (Run.yields_lift (readSource d path)).bind fun content _ => ?_
  unfold measureSource
  cases front.outline? path content with
  | error f => exact Run.yields_throw _
  | ok o =>
    have hstats : (pure o.measure : Run (List Stat)).Yields (.ok o.measure) := Run.yields_pure _
    exact (hstats.after (Run.yields_log _ _ _)).after (Run.yields_logAll _)

theorem tryFile_yields (path : String) :
    (front.tryFile a d path).Yields (front.outcomeOf a d path) := by
  refine (front.measureFile_yields d path).capture.bind (g := a.outcomeFrom) fun e _ => ?_
  unfold Analyzer.outcomeFrom
  cases e with
  | ok stats => exact Run.yields_pure _
  | error problem =>
    cases problem with
    | failure f =>
      cases f with
      | fileAccess p reason => exact Run.yields_pure _
      | parsing p reason location language =>
        dsimp only
        split
        · exact Run.yields_throw _
        · exact Run.yields_pure _
      | _ => exact Run.yields_throw _
    | _ => exact Run.yields_throw _

/-- A source that cannot be measured is malformed or nested too deeply. -/
theorem parsing_of_measureSource {path : String} {content : ByteArray} {f : Failure}
    (h : front.measureSource path content = .error f) :
    ∃ reason location language, f = .parsing path reason location language := by
  unfold measureSource outline? Outline.ofTreeWithin? at h
  split at h
  · exact ⟨_, _, _, (Except.error.inj h).symm⟩
  · split at h
    · exact ⟨_, _, _, (Except.error.inj h).symm⟩
    · cases h

/-- A file that is read is malformed if its source cannot be measured. -/
theorem isMalformed_iff_of_read {path : String} {content : ByteArray}
    (hr : readSource d path = .ok content) (f : Failure) :
    front.IsMalformed d path f ↔ front.measureSource path content = .error f := by
  constructor
  · rintro ⟨content', hr', hm⟩
    obtain rfl := Except.ok.inj (hr.symm.trans hr')
    exact hm
  · exact fun hm => ⟨content, hr, hm⟩

/-- A file that is not read is not malformed. -/
theorem not_isMalformed_of_error {path : String} {problem : Problem}
    (hr : readSource d path = .error problem) (f : Failure) : ¬ front.IsMalformed d path f := by
  rintro ⟨content, hr', -⟩
  rw [hr] at hr'
  cases hr'

section

variable {a d} (hstrict : a.strict = true) (path : String)

include hstrict

/-- A strict analyzer ends at a file whose path holds a null, ends with a failure at
a malformed file, and goes on after any other. -/
theorem outcomeOf_cases :
    (holdsNull path = true ∧ (∀ f, ¬ front.IsMalformed d path f) ∧
        front.outcomeOf a d path = .error .embeddedNull) ∨
      (∃ f, (∀ g, front.IsMalformed d path g ↔ f = g) ∧
        front.outcomeOf a d path = .error (.failure f)) ∨
        holdsNull path = false ∧ (∀ f, ¬ front.IsMalformed d path f) ∧
          ∃ o, front.outcomeOf a d path = .ok o := by
  have hmeasured : ∀ r, readSource d path = r → front.measured d path =
      r >>= fun content => (front.measureSource path content).mapError Problem.failure :=
    fun r hr => by rw [measured, hr]
  rcases readSource_cases d path with ⟨hn, hr⟩ | ⟨hn, ⟨content, hr⟩ | ⟨reason, hr⟩⟩
  · exact Or.inl ⟨hn, front.not_isMalformed_of_error d hr, by rw [outcomeOf, hmeasured _ hr]; rfl⟩
  · cases hm : front.measureSource path content with
    | ok stats =>
      refine Or.inr (Or.inr ⟨hn, fun f => ?_, .measured stats, ?_⟩)
      · rw [front.isMalformed_iff_of_read d hr, hm]
        intro h
        cases h
      · rw [outcomeOf, hmeasured _ hr]
        show a.outcomeFrom ((front.measureSource path content).mapError Problem.failure) = _
        rw [hm]
        rfl
    | error f =>
      refine Or.inr (Or.inl ⟨f, fun g => ?_, ?_⟩)
      · rw [front.isMalformed_iff_of_read d hr, hm, Except.error.injEq]
      · obtain ⟨p, location, language, rfl⟩ := front.parsing_of_measureSource hm
        rw [outcomeOf, hmeasured _ hr]
        show a.outcomeFrom ((front.measureSource path content).mapError Problem.failure) = _
        rw [hm]
        exact if_pos hstrict
  · refine Or.inr (Or.inr ⟨hn, front.not_isMalformed_of_error d hr,
      .failed (.fileAccess path reason), ?_⟩)
    rw [outcomeOf, hmeasured _ hr]
    rfl

/-- A strict analyzer ends with a failure at a malformed file. -/
theorem outcomeOf_eq_failure_iff (f : Failure) :
    front.outcomeOf a d path = .error (.failure f) ↔ front.IsMalformed d path f := by
  rcases front.outcomeOf_cases (d := d) hstrict path with
    ⟨-, hm, ho⟩ | ⟨g, hm, ho⟩ | ⟨-, hm, o, ho⟩
  · simp [hm, ho]
  · simp [hm, ho]
  · simp [hm, ho]

/-- A strict analyzer goes on after a file that is measured or not there. -/
theorem outcomeOf_eq_ok_iff :
    (∃ o, front.outcomeOf a d path = .ok o) ↔
      holdsNull path = false ∧ ∀ f, ¬ front.IsMalformed d path f := by
  rcases front.outcomeOf_cases (d := d) hstrict path with
    ⟨hn, hm, ho⟩ | ⟨g, hm, ho⟩ | ⟨hn, hm, o, ho⟩
  · simp [hn, ho]
  · simp [hm, ho]
  · simp [hn, hm, ho]

end

end Frontend

end GoComplexity
