/-
# What an analysis accounts for

An analysis that is not strict comes to an end whatever the files hold.  Its scores
are those of the files that can be read and measured, in the order of the scan, and
its errors are the failures of the paths that lead nowhere and then those of the
other files.  So each file and each such path is counted once, and a file that
breaks takes its own scores away, adds its own failure and changes nothing else.

Key definitions: `Frontend.scores?`, `Frontend.failure?`, `Frontend.ComesTo`,
`Frontend.Accounts`, `Frontend.MayFinish`.
Key theorems: `exists_comesTo`, `accounts_analysisOf`, `analysisOf_append`,
`analyzeIn_cases`, `analyzeIn_accounts`.
-/
import GoComplexity.Proofs.Scanning
import GoComplexity.Proofs.Workers
import Mathlib.Data.List.Forall2

namespace GoComplexity

/-! ### Files -/

namespace Frontend

section

variable (front : Frontend) (d : Disk) (path : String)

/-- The scores of a file, if it can be read and measured. -/
def scores? : Option (List Stat) := ((front.measureFile d path).outcome []).toOption

/-- The failure of a file that cannot be read or measured. -/
def failure? : Option Failure :=
  match (front.measureFile d path).outcome [] with
  | .error (.failure f) => some f
  | _ => none

/-- Whether a file comes to an outcome: to its scores, or to its failure. -/
structure ComesTo (o : FileOutcome) : Prop where
  stats : o.stats? = front.scores? d path
  failure : o.failure? = front.failure? d path

end

section

variable {front : Frontend} {d : Disk} {path : String}

theorem comesTo_of_scores? {stats : List Stat} (h : front.scores? d path = some stats) :
    front.ComesTo d path (.measured stats) := by
  refine ⟨h.symm, ?_⟩
  unfold scores? at h
  unfold failure?
  cases hrun : (front.measureFile d path).outcome [] with
  | ok stats' => rfl
  | error problem =>
    rw [hrun] at h
    exact nomatch h

theorem comesTo_of_failure? {f : Failure} (h : front.failure? d path = some f) :
    front.ComesTo d path (.failed f) := by
  refine ⟨?_, h.symm⟩
  unfold failure? at h
  unfold scores?
  cases hrun : (front.measureFile d path).outcome [] with
  | ok stats =>
    rw [hrun] at h
    exact nomatch h
  | error problem => rfl

theorem comesTo_measured {stats : List Stat} (h : front.measured d path = .ok stats) :
    front.ComesTo d path (.measured stats) :=
  comesTo_of_scores? (by rw [scores?, front.measureFile_yields d path [], h]; rfl)

theorem comesTo_failed {f : Failure} (h : front.measured d path = .error (.failure f)) :
    front.ComesTo d path (.failed f) :=
  comesTo_of_failure? (by rw [failure?, front.measureFile_yields d path [], h])

section

variable {content : ByteArray} (hread : readSource d path = .ok content)

include hread

theorem measured_of_read :
    front.measured d path = (front.measureSource path content).mapError Problem.failure := by
  rw [measured, hread]
  rfl

/-- A source that can be measured comes to its scores. -/
theorem comesTo_of_toOption_eq_some {stats : List Stat}
    (h : (front.measureSource path content).toOption = some stats) :
    front.ComesTo d path (.measured stats) := by
  refine comesTo_measured ((measured_of_read hread).trans ?_)
  cases hm : front.measureSource path content with
  | ok stats' =>
    rw [hm] at h
    exact congrArg _ (Option.some.inj h)
  | error f =>
    rw [hm] at h
    exact nomatch h

/-- A source that cannot be measured comes to a failure. -/
theorem comesTo_of_isOk_eq_false (hfails : (front.measureSource path content).isOk = false) :
    ∃ f, front.ComesTo d path (.failed f) := by
  cases hm : front.measureSource path content with
  | ok stats =>
    rw [hm] at hfails
    exact nomatch hfails
  | error f =>
    refine ⟨f, comesTo_failed ((measured_of_read hread).trans ?_)⟩
    rw [hm]
    rfl

end

/-- A file comes to one outcome only. -/
theorem ComesTo.unique {o o' : FileOutcome} (h : front.ComesTo d path o)
    (h' : front.ComesTo d path o') : o = o' := by
  have hstats := h.stats.trans h'.stats.symm
  have hfailure := h.failure.trans h'.failure.symm
  cases o <;> cases o' <;> simp_all [FileOutcome.stats?, FileOutcome.failure?]

/-- Files whose measurement comes to the same come to the same outcomes. -/
theorem forall₂_comesTo_congr {d' : Disk} {files : List String} {outcomes : List FileOutcome}
    (h : List.Forall₂ (front.ComesTo d) files outcomes)
    (hsame : ∀ path ∈ files,
      (front.measureFile d' path).outcome [] = (front.measureFile d path).outcome []) :
    List.Forall₂ (front.ComesTo d') files outcomes := by
  induction h with
  | nil => exact .nil
  | @cons path o files outcomes hcomes _ ih =>
    have hpath := hsame path List.mem_cons_self
    refine .cons ⟨?_, ?_⟩ (ih fun p hp => hsame p (List.mem_cons_of_mem _ hp))
    · rw [hcomes.stats, scores?, scores?, hpath]
    · rw [hcomes.failure, failure?, failure?, hpath]

end

end Frontend

/-! ### What is counted -/

/-- What an analysis says of files, after the failures of paths. -/
structure Frontend.Accounts (front : Frontend) (d : Disk) (files : List String)
    (unresolved : List Failure) (result : Analysis) : Prop where
  /-- The scores of the files that can be read and measured, in order. -/
  stats : result.stats = (files.filterMap (front.scores? d)).flatten
  filesAnalyzed : result.filesAnalyzed = (files.filterMap (front.scores? d)).length
  /-- The failures of the paths, then those of the other files, in order. -/
  errors : result.errors = unresolved ++ files.filterMap (front.failure? d)
  /-- Each file and each of the paths is counted once. -/
  total : result.filesAnalyzed + result.errors.length = files.length + unresolved.length

theorem filterMap_eq_of_forall₂ {α β γ : Type} {f : α → Option γ} {g : β → Option γ} {xs : List α}
    {ys : List β} (h : List.Forall₂ (fun x y => g y = f x) xs ys) :
    ys.filterMap g = xs.filterMap f := by
  induction h with
  | nil => rfl
  | cons hxy _ ih => rw [List.filterMap_cons, List.filterMap_cons, hxy, ih]

/-- Each outcome is one of scores or one of a failure. -/
theorem length_stats?_add_length_failure? (outcomes : List FileOutcome) :
    (outcomes.filterMap FileOutcome.stats?).length +
      (outcomes.filterMap FileOutcome.failure?).length = outcomes.length := by
  induction outcomes with
  | nil => rfl
  | cons o outcomes ih =>
    cases o with
    | measured stats =>
      simp only [List.filterMap_cons, FileOutcome.stats?, FileOutcome.failure?, List.length_cons]
      omega
    | failed f =>
      simp only [List.filterMap_cons, FileOutcome.stats?, FileOutcome.failure?, List.length_cons]
      omega

/-- One analysis after another. -/
def Analysis.append (x y : Analysis) : Analysis :=
  ⟨x.stats ++ y.stats, x.filesAnalyzed + y.filesAnalyzed, x.errors ++ y.errors⟩

instance : Append Analysis := ⟨Analysis.append⟩

/-- The outcomes of some files and of others make up one analysis. -/
theorem analysisOf_append (unresolved : List Failure) (before after : List FileOutcome) :
    analysisOf unresolved (before ++ after) =
      analysisOf unresolved before ++ analysisOf [] after := by
  show _ = Analysis.append _ _
  simp [analysisOf, Analysis.append]

/-- A file that is measured adds its scores, between those of the others. -/
theorem analysisOf_measured (unresolved : List Failure) (before : List FileOutcome)
    (stats : List Stat) (after : List FileOutcome) :
    analysisOf unresolved (before ++ .measured stats :: after) =
      analysisOf unresolved before ++ (⟨stats, 1, []⟩ : Analysis) ++ analysisOf [] after := by
  have hone : analysisOf [] [.measured stats] = ⟨stats, 1, []⟩ := by
    simp [analysisOf, FileOutcome.stats?, FileOutcome.failure?]
  rw [List.append_cons, analysisOf_append, analysisOf_append, hone]

/-- A file that fails adds its failure, between those of the others. -/
theorem analysisOf_failed (unresolved : List Failure) (before : List FileOutcome)
    (f : Failure) (after : List FileOutcome) :
    analysisOf unresolved (before ++ .failed f :: after) =
      analysisOf unresolved before ++ (⟨[], 0, [f]⟩ : Analysis) ++ analysisOf [] after := by
  rw [List.append_cons, analysisOf_append, analysisOf_append]
  rfl

namespace Frontend

/-- **An analysis of outcomes** accounts for the files that come to them. -/
theorem accounts_analysisOf {front : Frontend} {d : Disk} {files : List String}
    {outcomes : List FileOutcome} (h : List.Forall₂ (front.ComesTo d) files outcomes)
    (unresolved : List Failure) :
    front.Accounts d files unresolved (analysisOf unresolved outcomes) := by
  have hstats := filterMap_eq_of_forall₂ (h.imp fun _ _ h => h.stats)
  have hfailures := filterMap_eq_of_forall₂ (h.imp fun _ _ h => h.failure)
  have hlength := length_stats?_add_length_failure? outcomes
  rw [← h.length_eq] at hlength
  refine ⟨?_, ?_, ?_, ?_⟩
  · rw [analysisOf, hstats]
  · rw [analysisOf, hstats]
  · rw [analysisOf, hfailures]
  · show (outcomes.filterMap FileOutcome.stats?).length + List.length (_ ++ _) = _
    rw [List.length_append]
    omega

/-! ### What files come to -/

section

variable (front : Frontend) (a : Analyzer) (d : Disk)

/-- **Any file comes to an outcome** if its path holds no null, and a run goes on after
the file unless that is malformed and the analyzer strict. -/
theorem exists_comesTo {path : String} (hpath : holdsNull path = false) :
    ∃ o, front.ComesTo d path o ∧ (front.outcomeOf a d path = .ok o ∨
      a.strict = true ∧ ∃ f, front.IsMalformed d path f ∧
        front.outcomeOf a d path = .error (.failure f)) := by
  rcases readSource_cases d path with ⟨hnull, -⟩ | ⟨-, ⟨content, hread⟩ | ⟨reason, hread⟩⟩
  · exact absurd (hpath.symm.trans hnull) Bool.false_ne_true
  · have hmeasured : front.measured d path = _ := measured_of_read hread
    cases hm : front.measureSource path content with
    | ok stats =>
      rw [hm] at hmeasured
      exact ⟨.measured stats, comesTo_measured hmeasured,
        Or.inl (by rw [outcomeOf, hmeasured]; rfl)⟩
    | error f =>
      rw [hm] at hmeasured
      obtain ⟨reason, location, language, rfl⟩ := front.parsing_of_measureSource hm
      refine ⟨.failed _, comesTo_failed hmeasured, ?_⟩
      rw [outcomeOf, hmeasured]
      cases hstrict : a.strict with
      | false => exact Or.inl (if_neg (by rw [hstrict]; decide))
      | true => exact Or.inr ⟨rfl, _, ⟨content, hread, hm⟩, if_pos hstrict⟩
  · have hmeasured : front.measured d path = .error (.failure (.fileAccess path reason)) := by
      rw [measured, hread]
      rfl
    exact ⟨.failed _, comesTo_failed hmeasured, Or.inl (by rw [outcomeOf, hmeasured]; rfl)⟩

theorem exists_outcomes : ∀ {files : List String},
    (∀ path ∈ files, holdsNull path = false) →
      ∃ outcomes, List.Forall₂ (front.ComesTo d) files outcomes
  | [], _ => ⟨[], .nil⟩
  | path :: _, h => by
    obtain ⟨o, hcomes, -⟩ := front.exists_comesTo {} d (h path List.mem_cons_self)
    obtain ⟨outcomes, hall⟩ := exists_outcomes fun p hp => h p (List.mem_cons_of_mem _ hp)
    exact ⟨o :: outcomes, .cons hcomes hall⟩

/-- A run over files comes to what these come to, or ends at a malformed one. -/
theorem mapM_outcomeOf {files : List String} {outcomes : List FileOutcome}
    (h : List.Forall₂ (front.ComesTo d) files outcomes)
    (hfiles : ∀ path ∈ files, holdsNull path = false) :
    files.mapM (front.outcomeOf a d) = .ok outcomes ∨
      a.strict = true ∧ ∃ f, (∃ path ∈ files, front.IsMalformed d path f) ∧
        files.mapM (front.outcomeOf a d) = .error (.failure f) := by
  induction h with
  | nil => exact Or.inl rfl
  | @cons path o files outcomes hcomes _ ih =>
    obtain ⟨o', hcomes', ho'⟩ := front.exists_comesTo a d (hfiles path List.mem_cons_self)
    obtain rfl := hcomes.unique hcomes'
    rw [List.mapM_cons]
    rcases ho' with ho' | ⟨hstrict, f, hmalformed, ho'⟩
    · rw [ho']
      rcases ih fun p hp => hfiles p (List.mem_cons_of_mem _ hp) with ih | ⟨hstrict, f, hf, ih⟩
      · exact Or.inl (by rw [ih]; rfl)
      · obtain ⟨p, hp, hmalformed⟩ := hf
        exact Or.inr ⟨hstrict, f, ⟨p, List.mem_cons_of_mem _ hp, hmalformed⟩, by rw [ih]; rfl⟩
    · exact Or.inr ⟨hstrict, f, ⟨path, List.mem_cons_self, hmalformed⟩, by rw [ho']; rfl⟩

end

/-! ### Runs -/

/-- Whether so many workers may finish files in an order. -/
def MayFinish (front : Frontend) (a : Analyzer) (d : Disk) (workers : Int) (files : List String)
    (order : List Nat) : Prop :=
  1 < workers → 1 < files.length →
    FinishesIn workers.toNat (Fails (files.map (front.tryFile a d))) files.length order

section

variable {front : Frontend} {a : Analyzer} {d : Disk} {paths files : List String}
  {failures : List Failure} {log : List Record} {order : Nat → List Nat}
  {outcomes : List FileOutcome}
  (hscan : (scan d a.rules paths).outcome log = .ok (files, failures))
  (hfiles : ∀ path ∈ files, holdsNull path = false)
  (hcomes : List.Forall₂ (front.ComesTo d) files outcomes)

section

variable {above : Bool} (habove : a.workers.isAbove 1 = .ok above)
  (horder : above = true → 1 < files.length → ∀ i < files.length,
    (∀ j < i, ¬ Fails (files.map (front.tryFile a d)) j) → i ∈ order files.length)

include hscan habove horder

/-- A run after a scan is one over its files. -/
theorem analyzeIn_of_scan : (front.analyzeIn a order d paths).outcome log =
    (files.mapM (front.outcomeOf a d)).map (analysisOf failures) := by
  rw [front.outcome_analyzeIn a d order paths log fun files' failures' hscan' => ?_, hscan]
  · rfl
  · obtain ⟨rfl, -⟩ := Prod.ext_iff.mp (Except.ok.inj (hscan.symm.trans hscan'))
    exact front.outcomes_yields a d habove horder

include hfiles hcomes

/-- **A run after a scan** comes to what its files come to, or ends at a malformed one. -/
theorem analyzeIn_cases :
    (front.analyzeIn a order d paths).outcome log = .ok (analysisOf failures outcomes) ∨
      a.strict = true ∧ ∃ f, (∃ path ∈ files, front.IsMalformed d path f) ∧
        (front.analyzeIn a order d paths).outcome log = .error (.failure f) := by
  rw [analyzeIn_of_scan hscan habove horder]
  rcases front.mapM_outcomeOf a d hcomes hfiles with h | ⟨hstrict, f, hf, h⟩
  · exact Or.inl (by rw [h]; rfl)
  · exact Or.inr ⟨hstrict, f, hf, by rw [h]; rfl⟩

end

include hscan hfiles hcomes

/-- **A run that is not strict** comes to an end, with what its files come to. -/
theorem analyzeIn_of_comesTo {w : Int} (hstrict : a.strict = false) (hworkers : a.workers = .int w)
    (horder : front.MayFinish a d w files (order files.length)) :
    (front.analyzeIn a order d paths).outcome log = .ok (analysisOf failures outcomes) := by
  have habove : a.workers.isAbove 1 = .ok (decide (1 < w)) := by
    rw [hworkers, Value.isAbove_int]
  refine (analyzeIn_cases hscan hfiles hcomes habove fun hw hlength i hi hbefore =>
    (horder (of_decide_eq_true hw) hlength).mem hi hbefore).resolve_right ?_
  rintro ⟨hstrict', -⟩
  exact absurd (hstrict.symm.trans hstrict') Bool.false_ne_true

end

/-- **Every file and path is accounted for**, in a run that is not strict.  The scores
are those of the files of the scan that can be read and measured, in its order, and
the errors are the failures of the paths that lead nowhere, then those of the other
files.  If one of the files comes to a failure instead of scores, these are missing
and the failure is there, each between what the files before and after it give. -/
theorem analyzeIn_accounts (front : Frontend) (a : Analyzer) (d : Disk)
    {extensions : List String} {w : Int} (hstrict : a.strict = false)
    (hworkers : a.workers = .int w) (hextensions : a.rules.extensions = extensions.map .text)
    (hdisk : d.NoNull) {paths : List String} (hpaths : ∀ path ∈ paths, holdsNull path = false)
    (log : List Record) (order : Nat → List Nat) {files : List String} {failures : List Failure}
    (hfiles : files = sourcesOf d a.rules.pattern extensions paths)
    (hfailures : failures = paths.filterMap (unresolved? d))
    (horder : front.MayFinish a d w files (order files.length)) :
    (scan d a.rules paths).outcome log = .ok (files, failures) ∧
    ∃ outcomes, List.Forall₂ (front.ComesTo d) files outcomes ∧
      (front.analyzeIn a order d paths).outcome log = .ok (analysisOf failures outcomes) ∧
      front.Accounts d files failures (analysisOf failures outcomes) ∧
      (∀ before s after f, outcomes = before ++ .measured s :: after →
        analysisOf failures outcomes =
          analysisOf failures before ++ ⟨s, 1, []⟩ ++ analysisOf [] after ∧
        analysisOf failures (before ++ .failed f :: after) =
          analysisOf failures before ++ ⟨[], 0, [f]⟩ ++ analysisOf [] after) ∧
      ∀ (d' : Disk) (order' : Nat → List Nat),
        (scan d' a.rules paths).outcome log = .ok (files, failures) →
        front.MayFinish a d' w files (order' files.length) →
        ∀ before path after s f, files = before ++ path :: after →
          front.scores? d path = some s → front.failure? d' path = some f →
          (∀ p ∈ before ++ after,
            (front.measureFile d' p).outcome [] = (front.measureFile d p).outcome []) →
          ∃ l r, front.Accounts d before failures l ∧ front.Accounts d after [] r ∧
            (front.analyzeIn a order d paths).outcome log = .ok (l ++ ⟨s, 1, []⟩ ++ r) ∧
            (front.analyzeIn a order' d' paths).outcome log = .ok (l ++ ⟨[], 0, [f]⟩ ++ r) := by
  have hscan : (scan d a.rules paths).outcome log = .ok (files, failures) := by
    rw [hfiles, hfailures]
    exact scan_yields hextensions hpaths log
  have hnull : ∀ p ∈ files, holdsNull p = false := by
    rw [hfiles]
    exact holdsNull_of_mem_sourcesOf hdisk hpaths
  obtain ⟨outcomes, hcomes⟩ := front.exists_outcomes d hnull
  refine ⟨hscan, outcomes, hcomes,
    analyzeIn_of_comesTo hscan hnull hcomes hstrict hworkers horder,
    accounts_analysisOf hcomes failures, ?_, ?_⟩
  · intro before s after f hsplit
    rw [hsplit]
    exact ⟨analysisOf_measured .., analysisOf_failed ..⟩
  · intro d' order' hscan' horder' before path after s f hsplit hs hf hsame
    rw [hsplit] at hnull
    obtain ⟨outs, houts⟩ := front.exists_outcomes d fun p hp =>
      hnull p (List.mem_append_left _ hp)
    obtain ⟨outs', houts'⟩ := front.exists_outcomes d fun p hp =>
      hnull p (List.mem_append_right _ (List.mem_cons_of_mem _ hp))
    have hmeasured : List.Forall₂ (front.ComesTo d) files (outs ++ .measured s :: outs') := by
      rw [hsplit]
      exact List.rel_append houts (.cons (comesTo_of_scores? hs) houts')
    have hfailed : List.Forall₂ (front.ComesTo d') files (outs ++ .failed f :: outs') := by
      rw [hsplit]
      refine List.rel_append (forall₂_comesTo_congr houts fun p hp => hsame p ?_)
        (.cons (comesTo_of_failure? hf) (forall₂_comesTo_congr houts' fun p hp => hsame p ?_))
      · exact List.mem_append_left _ hp
      · exact List.mem_append_right _ hp
    rw [← hsplit] at hnull
    refine ⟨analysisOf failures outs, analysisOf [] outs', accounts_analysisOf houts failures,
      accounts_analysisOf houts' [], ?_, ?_⟩
    · rw [analyzeIn_of_comesTo hscan hnull hmeasured hstrict hworkers horder, analysisOf_measured]
    · rw [analyzeIn_of_comesTo hscan' hnull hfailed hstrict hworkers horder', analysisOf_failed]

/-- An analyzer with two workers that is not strict. -/
def lenientPair : Analyzer := { workers := .int 2 }

/-- A disk with a source of one function, and another one of a single brace. -/
def mixedDisk : Disk where
  root := [("a.go", .file "package p\nfunc f() \x7b\x7d\n".toUTF8), ("b.go", .file "\x7d".toUTF8)]

/-- The same disk after the end of the first source has been cut off. -/
def cutDisk : Disk where
  root := [("a.go", .file "package p\nfunc f() \x7b".toUTF8), ("b.go", .file "\x7d".toUTF8)]

/-- The end of a source takes its scores away and adds a failure. -/
theorem analyzeIn_cutDisk :
    lenientPair.strict = false ∧ lenientPair.workers = .int 2 ∧
      lenientPair.rules.extensions = [".go"].map .text ∧ mixedDisk.NoNull ∧
      (∀ path ∈ ["a.go", "none.go", "b.go"], holdsNull path = false) ∧
      go.MayFinish lenientPair mixedDisk 2 ["a.go", "b.go"] [1, 0] ∧
      ∃ whole broken,
        (go.analyzeIn lenientPair (fun _ => [1, 0]) mixedDisk
          ["a.go", "none.go", "b.go"]).outcome [] = .ok whole ∧
        (go.analyzeIn lenientPair (fun _ => [1, 0]) cutDisk
          ["a.go", "none.go", "b.go"]).outcome [] = .ok broken ∧
        whole.stats = [⟨"p", "f", 1, 0, ⟨"a.go", 2, 1⟩⟩] ∧ whole.filesAnalyzed = 1 ∧
        whole.errors.length = 2 ∧ broken.stats = [] ∧ broken.filesAnalyzed = 0 ∧
        broken.errors.length = 3 := by
  have hmay : ∀ d, go.MayFinish lenientPair d 2 ["a.go", "b.go"] [1, 0] := fun d _ _ =>
    finishesIn_of_perm _ (Nat.le_refl 2) (by decide)
  have hdisk : mixedDisk.NoNull := by decide
  have hpaths : ∀ path ∈ ["a.go", "none.go", "b.go"], holdsNull path = false := by decide
  have hextensions : lenientPair.rules.extensions = [".go"].map .text := rfl
  have hfiles : ["a.go", "b.go"] =
      sourcesOf mixedDisk none [".go"] ["a.go", "none.go", "b.go"] := by rfl
  have hfailures : [.fileAccess "none.go" "No such file or directory"] =
      ["a.go", "none.go", "b.go"].filterMap (unresolved? mixedDisk) := by rfl
  have hworkers : lenientPair.workers = .int 2 := rfl
  obtain ⟨-, -, -, -, -, -, hlost⟩ := go.analyzeIn_accounts lenientPair mixedDisk rfl hworkers
    hextensions hdisk hpaths [] (fun _ => [1, 0]) hfiles hfailures (hmay _)
  have hscores : go.ComesTo mixedDisk "a.go" (.measured [⟨"p", "f", 1, 0, ⟨"a.go", 2, 1⟩⟩]) := by
    have hread : readSource mixedDisk "a.go" = .ok "package p\nfunc f() \x7b\x7d\n".toUTF8 := by rfl
    exact comesTo_of_toOption_eq_some hread (by decide +kernel)
  have hread : readSource mixedDisk "b.go" = .ok "\x7d".toUTF8 := by rfl
  have hread' : readSource cutDisk "b.go" = .ok "\x7d".toUTF8 := by rfl
  obtain ⟨f, hf⟩ : ∃ f, go.ComesTo cutDisk "a.go" (.failed f) := by
    have hcut : readSource cutDisk "a.go" = .ok "package p\nfunc f() \x7b".toUTF8 := by rfl
    exact comesTo_of_isOk_eq_false hcut (by decide +kernel)
  obtain ⟨l, r, hl, hr, hwhole, hbroken⟩ := hlost cutDisk (fun _ => [1, 0]) (by rfl) (hmay _)
    [] "a.go" ["b.go"] _ f rfl hscores.stats.symm hf.failure.symm fun p hp => by
      obtain rfl : p = "b.go" := List.mem_singleton.mp hp
      rw [go.measureFile_yields cutDisk "b.go" [], go.measureFile_yields mixedDisk "b.go" [],
        measured_of_read hread, measured_of_read hread']
  obtain ⟨g, hg⟩ : ∃ g, go.ComesTo mixedDisk "b.go" (.failed g) :=
    comesTo_of_isOk_eq_false hread (by decide +kernel)
  have hrest : r.stats = [] ∧ r.filesAnalyzed = 0 ∧ r.errors = [g] := by
    rw [hr.stats, hr.filesAnalyzed, hr.errors, List.filterMap_cons, List.filterMap_cons,
      ← hg.stats, ← hg.failure]
    exact ⟨rfl, rfl, rfl⟩
  refine ⟨rfl, hworkers, hextensions, hdisk, hpaths, hmay _, _, _, hwhole, hbroken, ?_⟩
  show l.stats ++ _ ++ r.stats = _ ∧ l.filesAnalyzed + 1 + r.filesAnalyzed = 1 ∧
    (l.errors ++ [] ++ r.errors).length = 2 ∧ l.stats ++ [] ++ r.stats = [] ∧
    l.filesAnalyzed + 0 + r.filesAnalyzed = 0 ∧ (l.errors ++ [f] ++ r.errors).length = 3
  rw [hrest.1, hrest.2.1, hrest.2.2, hl.stats, hl.filesAnalyzed, hl.errors]
  exact ⟨rfl, rfl, rfl, rfl, rfl, rfl⟩

end Frontend

end GoComplexity
