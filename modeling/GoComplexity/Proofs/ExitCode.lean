/-
# The code with which the command ends

The command ends with 2 if its settings cannot be loaded for a reason that the program
names, with 1 if a strict analysis meets a malformed file, with 0 if it only warns, and
after a report with 1 just if some function is above the bound and the report is not of
length zero: the report ranks the functions, so the greatest one is the first that it
shows.  What is left out of an analysis, how the report looks and which sums it has do
not matter.  Settings that end the loading with a problem which the program does not
name end the command with 1, and so does a path that holds a null.  All this is so
whatever reads the words and the files, and whatever the terminal shows.

Key definitions: `Settings.IsWellTyped`, `Prepared`.
Key theorems: `select_ne_nil_iff`, `reportOn_ending`, `analyzeWith_cases`,
`runCommand_ending`.
-/
import GoComplexity.Command.Outcome
import GoComplexity.Proofs.Selection
import GoComplexity.Proofs.Typing
import GoComplexity.Proofs.Unresolved

namespace GoComplexity

/-! ### What is shown -/

/-- **A report hides no function above the bar** unless its length is zero. -/
theorem select_ne_nil_iff (m : Metric) (top : Int) (bar : Bar) (stats : List Stat) :
    select m top bar stats ≠ [] ↔ top ≠ 0 ∧ ∃ s ∈ stats, bar.passes (s.value m) = true := by
  rw [select_eq_limit_filter, limit_ne_nil_iff]
  refine and_congr_right fun _ => ?_
  rw [ne_eq, List.filter_eq_nil_iff]
  simp only [(ranked_perm m stats).mem_iff, not_forall, not_not, exists_prop]

/-! ### Settings with values of their types -/

namespace Value

variable {v : Value} {k : Int}

theorem isNumber_of_integer? (h : v.integer? = some k) : v.isNumber = true := by
  cases v with
  | bool b => rfl
  | int n => rfl
  | _ => exact nomatch h

theorem isAbove_of_integer? (h : v.integer? = some k) (n : Int) :
    v.isAbove n = .ok (decide (n < k)) := by
  rw [← Value.isAbove_int k n]
  unfold isAbove compareInt
  rw [h]
  rfl

theorem equalInt?_of_integer? (h : v.integer? = some k) : v.equalInt? = some k := by
  unfold equalInt?
  rw [h]

end Value

theorem Bar.ofValue_of_integer? {v : Value} {k : Int} (h : v.integer? = some k) :
    Bar.ofValue v = .ok (Bar.ofInt k) := by
  unfold Bar.ofValue Bar.ofInt
  rw [Value.isAbove_of_integer? h, h]
  by_cases hk : 0 < k
  · simp only [hk, decide_true, ↓reduceIte]
    rfl
  · simp only [hk, decide_false, ↓reduceIte]
    rfl

namespace Settings

/-- Whether the settings that decide how the command ends have values of their types. -/
structure IsWellTyped (s : Settings) (extensions : List String)
    (bound top maxCyclomatic maxCognitive : Int) : Prop where
  extensions : s.value .fileExtensions = .list (extensions.map .text)
  bound : (s.value .bound).integer? = some bound
  top : (s.value .top).integer? = some top
  maxCyclomatic : (s.value .maxCyclomatic).integer? = some maxCyclomatic
  maxCognitive : (s.value .maxCognitive).integer? = some maxCognitive

variable {s : Settings} {extensions : List String} {bound top maxCyclomatic maxCognitive : Int}
  (h : s.IsWellTyped extensions bound top maxCyclomatic maxCognitive)

namespace IsWellTyped

include h

theorem warns : s.warns = .ok (decide (0 < maxCyclomatic ∨ 0 < maxCognitive)) := by
  unfold Settings.warns
  rw [Value.isAbove_of_integer? h.maxCyclomatic, Value.isAbove_of_integer? h.maxCognitive]
  by_cases hc : 0 < maxCyclomatic
  · simp [hc]
    rfl
  · simp [hc]
    rfl

theorem selection (stats : List Stat) :
    s.selection stats = .ok (select s.metric top (Bar.ofInt bound) stats) := by
  rw [selection_of_isNumber (Bar.ofValue_of_integer? h.bound), limit,
    Value.equalInt?_of_integer? h.top]
  rfl

end IsWellTyped
end Settings

/-! ### Warnings -/

theorem exists_ok_bind {ε α β : Type} {e : Except ε α} {f : α → Except ε β}
    (he : ∃ a, e = .ok a) (hf : ∀ a, ∃ b, f a = .ok b) : ∃ b, (e >>= f) = .ok b := by
  obtain ⟨a, rfl⟩ := he
  exact hf a

theorem exists_exceeded? {v : Value} (h : v.isNumber = true) (score : Int) :
    ∃ b, exceeded? v score = .ok b := by
  obtain ⟨c, hc⟩ := Value.compareInt_of_isNumber h "<" score
  refine exists_ok_bind (Value.isAbove_of_isNumber h 0) fun above => ?_
  cases above with
  | false => exact ⟨false, rfl⟩
  | true => exact ⟨c == some .lt, by rw [if_pos rfl, Value.isBelow, hc]; rfl⟩

theorem exists_warning? {s : Settings} {m : Metric} (h : (s.value m.maximum).isNumber = true)
    (stat : Stat) : ∃ w, warning? s m stat = .ok w := by
  refine exists_ok_bind (exists_exceeded? h (stat.value m)) fun b => ?_
  cases b with
  | false => exact ⟨none, rfl⟩
  | true => exact ⟨some _, rfl⟩

theorem exists_thresholdWarnings {s : Settings}
    (h : ∀ m : Metric, (s.value m.maximum).isNumber = true) (stats : List Stat) :
    ∃ lines, thresholdWarnings s stats = .ok lines := by
  have hstat : ∀ stat : Stat, ∃ lines, (do
      let first ← warning? s .cyclomatic stat
      let second ← warning? s .cognitive stat
      return first.toList ++ second.toList : Except TypeFault (List String)) = .ok lines :=
    fun stat => exists_ok_bind (exists_warning? (h .cyclomatic) stat) fun first =>
      exists_ok_bind (exists_warning? (h .cognitive) stat) fun second => ⟨_, rfl⟩
  choose lines hlines using hstat
  exact exists_ok_bind ⟨_, mapM_eq_ok fun stat _ => hlines stat⟩ fun warnings => ⟨_, rfl⟩

theorem ending_foldl_addLine (lines : List String) (p : Printed) :
    (lines.foldl (fun p line => p.addLine line) p).ending = p.ending := by
  induction lines generalizing p with
  | nil => rfl
  | cons line lines ih => exact ih (p.addLine line)

/-! ### What is printed -/

section

variable {s : Settings} {extensions : List String} {bound top maxCyclomatic maxCognitive : Int}
  (h : s.IsWellTyped extensions bound top maxCyclomatic maxCognitive)

include h

/-- A run that only warns ends as it should. -/
theorem printWarnings_ending (stats : List Stat) : (printWarnings s stats).ending = .code 0 := by
  have hmaximum : ∀ m : Metric, (s.value m.maximum).isNumber = true := by
    intro m
    cases m with
    | cyclomatic => exact Value.isNumber_of_integer? h.maxCyclomatic
    | cognitive => exact Value.isNumber_of_integer? h.maxCognitive
  obtain ⟨lines, hlines⟩ := exists_thresholdWarnings hmaximum stats
  rw [printWarnings, hlines]
  exact ending_foldl_addLine lines {}

end

namespace Terminal

variable (terminal : Terminal)

section

variable {o : Options} {s : Settings} {extensions : List String}
  {bound top maxCyclomatic maxCognitive : Int}
  (h : s.IsWellTyped extensions bound top maxCyclomatic maxCognitive)

/-- An average that can be told is printed, whatever functions there are. -/
theorem exists_printAverage {m : Metric} {stats : List Stat} (p : Printed)
    (haverage : (o.average || o.averageShort) = true → average m stats ≠ .error .tooLarge) :
    ∃ p', terminal.printAverage o m stats p = .ok p' := by
  unfold printAverage
  cases hasked : (o.average || o.averageShort) with
  | false => exact ⟨p, rfl⟩
  | true =>
    have hnot := haverage hasked
    unfold averageLine
    cases ha : average m stats with
    | ok x => exact ⟨_, rfl⟩
    | error fault =>
      cases fault with
      | noFunctions => exact ⟨_, rfl⟩
      | tooLarge => exact absurd ha hnot

include h

/-- **A report ends** with 1 if its bound is positive and it shows a function. -/
theorem printReport_ending {stats : List Stat}
    (haverage : (o.average || o.averageShort) = true → average s.metric stats ≠ .error .tooLarge) :
    (terminal.printReport o s stats).ending = .code
      (if 0 < bound ∧ top ≠ 0 ∧ ∃ stat ∈ stats, bound < stat.value s.metric then 1 else 0) := by
  have hshown := select_ne_nil_iff s.metric top (Bar.ofInt bound) stats
  have hselection := h.selection stats
  set shown := select s.metric top (Bar.ofInt bound) stats
  obtain ⟨p, hp⟩ :=
    terminal.exists_printAverage { output := terminal.print s.format shown } haverage
  have hending : (terminal.printReport o s stats).ending = reportEnding s shown := by
    unfold printReport
    rw [hselection]
    dsimp only
    rw [hp]
  rw [hending, reportEnding, Value.isAbove_of_integer? h.bound]
  refine congrArg Ending.code (if_congr ?_ rfl rfl)
  rw [Bool.and_eq_true, decide_eq_true_eq, Bool.not_eq_true', ← Bool.not_eq_true,
    List.isEmpty_iff]
  refine and_congr_right fun hbound => hshown.trans ?_
  rw [Bar.ofInt, if_pos hbound]
  simp only [Bar.passes, decide_eq_true_eq]

/-- **How a run that has measured functions ends.** -/
theorem reportOn_ending {stats : List Stat}
    (haverage : (o.average || o.averageShort) = true → average s.metric stats ≠ .error .tooLarge) :
    (terminal.reportOn o s stats).ending = .code
      (if 0 < maxCyclomatic ∨ 0 < maxCognitive then 0
      else if 0 < bound ∧ top ≠ 0 ∧ ∃ stat ∈ stats, bound < stat.value s.metric then 1
      else 0) := by
  unfold reportOn
  rw [h.warns]
  by_cases hwarns : 0 < maxCyclomatic ∨ 0 < maxCognitive
  · rw [if_pos hwarns, decide_eq_true hwarns]
    exact printWarnings_ending h stats
  · rw [if_neg hwarns, decide_eq_false hwarns]
    exact terminal.printReport_ending h haverage

end

/-- No report ends with more than 1. -/
theorem exitCode_reportOn_le (o : Options) (s : Settings) (stats : List Stat) :
    (terminal.reportOn o s stats).ending.exitCode ≤ 1 := by
  have hreport : ∀ shown, (reportEnding s shown).exitCode ≤ 1 := by
    intro shown
    unfold reportEnding
    split
    · show (if _ then 1 else 0) ≤ 1
      split <;> decide
    · exact Nat.le_refl 1
  have haverage : ∀ {p stopped : Printed},
      terminal.printAverage o s.metric stats p = .error stopped → stopped.ending.exitCode = 1 := by
    intro p stopped h
    unfold printAverage at h
    split at h
    · exact nomatch h
    · split at h
      · exact nomatch h
      · exact nomatch h
      · exact Except.error.inj h ▸ rfl
  unfold reportOn
  split
  · exact Nat.le_refl 1
  · unfold printWarnings
    split
    · rw [ending_foldl_addLine]
      exact Nat.zero_le 1
    · exact Nat.le_refl 1
  · unfold printReport
    split
    · exact Nat.le_refl 1
    · dsimp only
      split
      · rename_i stopped hstopped
        exact (haverage hstopped).le
      · exact hreport _

theorem exitCode_printedOf_le (o : Options) (s : Settings) (e : Except Problem Analysis) :
    (terminal.printedOf o s e).ending.exitCode ≤ 1 := by
  unfold printedOf
  split
  · exact terminal.exitCode_reportOn_le o s _
  · exact Nat.le_refl 1
  · exact Nat.le_refl 1

end Terminal

/-! ### The analysis -/

theorem ok_of_mapM_eq_ok {ε α β : Type} {g : α → Except ε β} : ∀ {xs : List α} {ys : List β},
    xs.mapM g = .ok ys → ∀ x ∈ xs, ∃ y, g x = .ok y
  | [], _, _, _, hx => absurd hx List.not_mem_nil
  | x :: xs, ys, h, z, hz => by
    rw [List.mapM_cons] at h
    obtain ⟨y, hy, h⟩ := exists_of_bind_eq_ok h
    obtain ⟨rest, hrest, -⟩ := exists_of_bind_eq_ok h
    rcases List.mem_cons.mp hz with rfl | hz
    · exact ⟨y, hy⟩
    · exact ok_of_mapM_eq_ok hrest z hz

namespace Frontend

section

variable {front : Frontend} {s : Settings} {extensions : List String} {pattern : Option Regex}
  {d : Disk} {paths files : List String} (hvalid : s.validate = .ok ())
  (helements : (s.value .fileExtensions).elements = .ok (extensions.map .text))
  (hpattern : s.pattern? = .ok pattern)

include hvalid helements hpattern

/-- **An analysis with settings** fails at a malformed file if it is strict, and measures
the files that can be measured otherwise. -/
theorem analyzeWith_cases (hdisk : d.NoNull) (hpaths : ∀ path ∈ paths, holdsNull path = false)
    (hfiles : files = sourcesOf d pattern extensions paths) (log : List Record) :
    ((s.value .strict).truthy = true ∧ (∃ path ∈ files, ∃ f, front.IsMalformed d path f) →
        ∃ f, (front.analyzeWith s d paths).outcome log = .error (.failure f)) ∧
      (¬ ((s.value .strict).truthy = true ∧ ∃ path ∈ files, ∃ f, front.IsMalformed d path f) →
        ∃ result, (front.analyzeWith s d paths).outcome log = .ok result ∧
          result.stats = (files.filterMap (front.scores? d)).flatten) := by
  obtain ⟨hworkers, -⟩ := Settings.of_validate_eq_ok hvalid
  obtain ⟨above, habove⟩ := Value.isAbove_of_isNumber hworkers 1
  let a : Analyzer :=
    ⟨⟨pattern, extensions.map .text⟩, (s.value .strict).truthy, s.value .workers⟩
  have hscan : (scan d a.rules paths).outcome log =
      .ok (files, paths.filterMap (unresolved? d)) := by
    rw [hfiles]
    exact scan_yields rfl hpaths log
  have hnull : ∀ p ∈ files, holdsNull p = false := by
    rw [hfiles]
    exact holdsNull_of_mem_sourcesOf hdisk hpaths
  have hrun : (front.analyzeWith s d paths).outcome log =
      (files.mapM (front.outcomeOf a d)).map (analysisOf (paths.filterMap (unresolved? d))) := by
    rw [front.analyzeWith_eq (Analyzer.ofSettings_eq hpattern helements)]
    exact analyzeIn_of_scan hscan habove fun _ _ _ hi _ => List.mem_range.mpr hi
  obtain ⟨outcomes, hcomes⟩ := front.exists_outcomes d hnull
  rw [hrun]
  rcases front.mapM_outcomeOf a d hcomes hnull with h | ⟨hstrict, f, ⟨path, hpath, hf⟩, h⟩
  · rw [h]
    constructor
    · rintro ⟨hstrict, path, hpath, f, hf⟩
      have hfails := (front.outcomeOf_eq_failure_iff (a := a) hstrict path f).mpr hf
      obtain ⟨o, ho⟩ := ok_of_mapM_eq_ok h path hpath
      exact nomatch hfails.symm.trans ho
    · exact fun _ => ⟨_, rfl, (accounts_analysisOf hcomes _).stats⟩
  · rw [h]
    exact ⟨fun _ => ⟨f, rfl⟩, fun hnot => absurd ⟨hstrict, path, hpath, f, hf⟩ hnot⟩

omit hvalid in
/-- A null ends an analysis with settings. -/
theorem analyzeWith_of_null (hnull : ∃ path ∈ paths, holdsNull path = true) (log : List Record) :
    (front.analyzeWith s d paths).outcome log = .error .embeddedNull := by
  rw [front.analyzeWith_eq (Analyzer.ofSettings_eq hpattern helements)]
  exact front.analyzeIn_of_null _ d rfl hnull _ log

end

end Frontend

/-! ### The command -/

/-- Whether a run of the command gets as far as its analysis: the settings are loaded, with
the pattern that they give, and the logger is set up, which leaves a disk. -/
structure Prepared (s : Surroundings) (o : Options) (settings : Settings)
    (pattern : Option Regex) (d : Disk) : Prop where
  load : loadSettings (requestOf s o) = .ok settings
  pattern : settings.pattern? = .ok pattern
  opened : ∃ logger, ({} : Logger).setUp s.disk (settings.value .verbosity).render
    (settings.value .logFile) = .ok (logger, d)
  noNull : d.NoNull

namespace Toolkit

variable (tools : Toolkit)

theorem exitCode_runSettings_le (o : Options) (settings : Settings) (d : Disk) :
    (tools.runSettings o settings d).printed.ending.exitCode ≤ 1 := by
  unfold runSettings
  split
  · exact Nat.le_refl 1
  · exact tools.terminal.exitCode_printedOf_le o settings _

theorem runSettings_of_setUp {o : Options} {settings : Settings} {d d' : Disk} {logger : Logger}
    (h : ({} : Logger).setUp d (settings.value .verbosity).render (settings.value .logFile) =
      .ok (logger, d')) :
    (tools.runSettings o settings d).printed =
      tools.terminal.printedOf o settings
        ((tools.front.analyzeWith settings d' o.paths).outcome []) := by
  unfold runSettings
  rw [h]
  rfl

section

variable {tools} {s : Surroundings} {words : List String} {o : Options}
  (hwords : tools.readWords s.disk words = .ok (.run o))

include hwords

theorem runCommand_eq : tools.runCommand s words = tools.runOptions s o := by
  rw [runCommand, hwords]

/-- **The command ends with 2** if its settings are not loaded, with a failure. -/
theorem exitCode_eq_two_iff : (tools.runCommand s words).printed.ending.exitCode = 2 ↔
    ∃ f, loadSettings (requestOf s o) = .error (.failure f) := by
  rw [runCommand_eq hwords, runOptions]
  cases loadSettings (requestOf s o) with
  | ok settings =>
    have hle := tools.exitCode_runSettings_le o settings s.disk
    refine iff_of_false (fun h => ?_) fun ⟨f, hf⟩ => nomatch hf
    dsimp only at h
    omega
  | error p =>
    cases p with
    | failure f => exact iff_of_true rfl ⟨f, rfl⟩
    | _ => exact iff_of_false (fun h : 1 = 2 => absurd h (by decide)) fun ⟨f, hf⟩ => nomatch hf

/-- Settings that are not loaded for another reason end the command with it. -/
theorem ending_of_loadSettings {p : Problem} (hp : ∀ f, p ≠ .failure f)
    (hload : loadSettings (requestOf s o) = .error p) :
    (tools.runCommand s words).printed.ending = .problem p := by
  rw [runCommand_eq hwords, runOptions, hload]
  cases p with
  | failure f => exact absurd rfl (hp f)
  | _ => rfl

/-- **How the command ends.** It ends with 2 just if its settings are not loaded, with a
failure; with another problem it ends with that.  A run that gets to its analysis ends
with 1 if it is strict and a file that it finds is malformed.  Else it ends with 0 if it
warns, and if it reports, with 1 if the bound is positive, the length is not zero and a
function that it has measured is above the bound, and with 0 otherwise.  A path that
holds a null ends it with a problem. -/
theorem runCommand_ending :
    ((tools.runCommand s words).printed.ending.exitCode = 2 ↔
        ∃ f, loadSettings (requestOf s o) = .error (.failure f)) ∧
      (∀ p, (∀ f, p ≠ .failure f) → loadSettings (requestOf s o) = .error p →
        (tools.runCommand s words).printed.ending = .problem p) ∧
      ∀ settings pattern d extensions bound top maxCyclomatic maxCognitive files stats,
        Prepared s o settings pattern d →
        settings.IsWellTyped extensions bound top maxCyclomatic maxCognitive →
        files = sourcesOf d pattern extensions o.paths →
        stats = (files.filterMap (tools.front.scores? d)).flatten →
        ((∃ path ∈ o.paths, holdsNull path = true) →
          (tools.runCommand s words).printed.ending = .problem .embeddedNull) ∧
        ((∀ path ∈ o.paths, holdsNull path = false) →
          ((o.average || o.averageShort) = true →
            average settings.metric stats ≠ .error .tooLarge) →
          ((settings.value .strict).truthy = true ∧
              (∃ path ∈ files, ∃ f, tools.front.IsMalformed d path f) →
            (tools.runCommand s words).printed.ending = .code 1) ∧
          (¬ ((settings.value .strict).truthy = true ∧
              ∃ path ∈ files, ∃ f, tools.front.IsMalformed d path f) →
            (tools.runCommand s words).printed.ending = .code
              (if 0 < maxCyclomatic ∨ 0 < maxCognitive then 0
              else if 0 < bound ∧ top ≠ 0 ∧ ∃ stat ∈ stats, bound < stat.value settings.metric
                then 1
              else 0))) := by
  refine ⟨exitCode_eq_two_iff hwords, fun p hp => ending_of_loadSettings hwords hp, ?_⟩
  intro settings pattern d extensions bound top maxCyclomatic maxCognitive files stats hprepared
    htyped hfiles hstats
  obtain ⟨logger, hopened⟩ := hprepared.opened
  have hvalid := validate_of_loadSettings hprepared.load
  have helements : (settings.value .fileExtensions).elements = .ok (extensions.map .text) := by
    rw [htyped.extensions]
    rfl
  have hprinted : (tools.runCommand s words).printed =
      tools.terminal.printedOf o settings
        ((tools.front.analyzeWith settings d o.paths).outcome []) := by
    rw [runCommand_eq hwords, runOptions, hprepared.load]
    exact tools.runSettings_of_setUp hopened
  rw [hprinted]
  constructor
  · intro hnull
    rw [Frontend.analyzeWith_of_null helements hprepared.pattern hnull]
    rfl
  · intro hpaths haverage
    obtain ⟨hfails, hmeasures⟩ := Frontend.analyzeWith_cases hvalid helements hprepared.pattern
      hprepared.noNull hpaths hfiles []
    constructor
    · intro hmalformed
      obtain ⟨f, hf⟩ := hfails hmalformed
      rw [hf]
      rfl
    · intro hnot
      obtain ⟨result, hresult, hstats'⟩ := hmeasures hnot
      rw [← hstats] at hstats'
      rw [hresult, ← hstats']
      exact tools.terminal.reportOn_ending htyped (hstats' ▸ haverage)

end

end Toolkit

/-- A directory with a source of one function, which has a loop. -/
def loopSurroundings : Surroundings where
  disk :=
    { root :=
        [("home", .directory []),
          ("work", .directory
            [("a.go", .file "package p\nfunc f() \x7bfor \x7b\x7d\x7d\n".toUTF8)])]
      workingDirectory := ["work"] }
  home := "/home"
  environment _ := none

/-- Without configuration files the settings are those of the options. -/
theorem entries_loopSurroundings {o : Options} (h : o.config = none) :
    (requestOf loopSurroundings o).entries =
      .ok (merge (merge [] (requestOf loopSurroundings o).plainOverrides)
        (requestOf loopSurroundings o).flagEntries) := by
  have hnone : ∀ path, loopSurroundings.disk.find (displayPath path) = .error .notFound →
      (requestOf loopSurroundings o).fileEntries path = .ok [] := by
    intro path hpath
    rw [Request.fileEntries, show (requestOf loopSurroundings o).disk = loopSurroundings.disk
      from rfl, hpath]
    rfl
  have hhome := hnone "/home/.gosca.toml" (by rfl)
  have hproject := hnone "/work/gosca.toml" (by rfl)
  have hnamed : (requestOf loopSurroundings o).configFile = none := h
  have hfiles : (requestOf loopSurroundings o).configFiles =
      ["/home/.gosca.toml", "/work/gosca.toml"] := by
    rw [Request.configFiles, hnamed]
    show [joinPath "/home" ".gosca.toml", joinPath loopSurroundings.disk.workingPath "gosca.toml"] =
      _
    rfl
  unfold Request.entries Request.layers Request.checkConfigFile
  rw [hfiles, hnamed, List.mapM_cons, List.mapM_cons, hhome, hproject]
  rfl

/-- A loop is above a bound of one, and a missing path beside it makes no difference. -/
theorem ending_loopSurroundings :
    (Toolkit.go.runCommand loopSurroundings ["--over", "1", "a.go", "none.go"]).printed.ending =
      .code 1 := by
  have hwords : Toolkit.go.readWords loopSurroundings.disk ["--over", "1", "a.go", "none.go"] =
      .ok (.run { paths := ["a.go", "none.go"], bound := some 1 }) := by rfl
  have hload : loadSettings (requestOf loopSurroundings
      { paths := ["a.go", "none.go"], bound := some 1 }) =
        .ok (Settings.ofEntries [("over", .int 1)]) :=
    loadSettings_of_isOk (entries_loopSurroundings rfl) (by decide) (by decide +kernel)
  have hprepared : Prepared loopSurroundings { paths := ["a.go", "none.go"], bound := some 1 }
      (Settings.ofEntries [("over", .int 1)]) none loopSurroundings.disk :=
    ⟨hload, rfl, ⟨_, rfl⟩, by decide⟩
  have htyped : (Settings.ofEntries [("over", .int 1)]).IsWellTyped [".go"] 1 (-1) 0 0 :=
    ⟨rfl, rfl, rfl, rfl, rfl⟩
  have hfiles : ["a.go"] = sourcesOf loopSurroundings.disk none [".go"] ["a.go", "none.go"] := by
    rfl
  have hread : readSource loopSurroundings.disk "a.go" =
      .ok "package p\nfunc f() \x7bfor \x7b\x7d\x7d\n".toUTF8 := by rfl
  have hscores : Frontend.go.ComesTo loopSurroundings.disk "a.go"
      (.measured [⟨"p", "f", 2, 1, ⟨"a.go", 2, 1⟩⟩]) :=
    Frontend.comesTo_of_toOption_eq_some hread (by decide +kernel)
  have hstats : [⟨"p", "f", 2, 1, ⟨"a.go", 2, 1⟩⟩] =
      (["a.go"].filterMap (Frontend.go.scores? loopSurroundings.disk)).flatten := by
    rw [List.filterMap_cons, ← hscores.stats]
    rfl
  obtain ⟨-, -, hends⟩ := Toolkit.runCommand_ending hwords
  obtain ⟨-, hcode⟩ := hends _ none _ [".go"] 1 (-1) 0 0 _ _ hprepared htyped hfiles hstats
  obtain ⟨-, hreports⟩ := hcode (by decide) (by decide)
  have hlenient : ((Settings.ofEntries [("over", .int 1)]).value .strict).truthy = false := rfl
  exact (hreports fun hstrict => Bool.false_ne_true (hlenient.symm.trans hstrict.1)).trans
    (congrArg Ending.code (by decide))

/-- A repetition number is too large to be read. -/
theorem ofString_repetition :
    Regex.ofString "a\x7b99999999999\x7d" = .error .repetitionTooLarge := by
  have hfault : (match Regex.ofString "a\x7b99999999999\x7d" with
      | .error fault => some fault
      | .ok _ => none) = some Regex.Fault.repetitionTooLarge := by decide +kernel
  cases hread : Regex.ofString "a\x7b99999999999\x7d" with
  | error fault =>
    rw [hread] at hfault
    rw [← Option.some.inj hfault]
  | ok _ =>
    rw [hread] at hfault
    exact nomatch hfault

/-- **A pattern that cannot be used ends the command with 1**, though no settings are
loaded: its repetition number is too large. -/
theorem exitCode_loopSurroundings :
    Toolkit.go.readWords loopSurroundings.disk ["--ignore", "a\x7b99999999999\x7d", "a.go"] =
        .ok (.run { paths := ["a.go"], ignore := some "a\x7b99999999999\x7d" }) ∧
      loadSettings (requestOf loopSurroundings
        { paths := ["a.go"], ignore := some "a\x7b99999999999\x7d" }) =
        .error (.pattern "a\x7b99999999999\x7d" .repetitionTooLarge) ∧
      (Toolkit.go.runCommand loopSurroundings
        ["--ignore", "a\x7b99999999999\x7d", "a.go"]).printed.ending.exitCode = 1 := by
  have hwords : Toolkit.go.readWords loopSurroundings.disk
      ["--ignore", "a\x7b99999999999\x7d", "a.go"] =
        .ok (.run { paths := ["a.go"], ignore := some "a\x7b99999999999\x7d" }) := by rfl
  have hload : loadSettings (requestOf loopSurroundings
      { paths := ["a.go"], ignore := some "a\x7b99999999999\x7d" }) =
        .error (.pattern "a\x7b99999999999\x7d" .repetitionTooLarge) := by
    have hpattern : (Settings.ofEntries
        [("ignore_pattern", .text "a\x7b99999999999\x7d")]).pattern? =
          .error (.pattern "a\x7b99999999999\x7d" .repetitionTooLarge) :=
      Settings.pattern?_eq_error rfl (by decide) ofString_repetition fun _ _ => nofun
    rw [loadSettings_of_entries (entries_loopSurroundings rfl) (by decide)]
    show (makeSettings [("ignore_pattern", .text "a\x7b99999999999\x7d")]).mapError _ = _
    unfold makeSettings Settings.validate
    dsimp only
    rw [hpattern]
    rfl
  refine ⟨hwords, hload, ?_⟩
  rw [Toolkit.ending_of_loadSettings hwords (by rintro f ⟨⟩) hload]
  rfl

end GoComplexity
