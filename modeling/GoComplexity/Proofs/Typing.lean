/-
# Settings of the wrong type

Settings are checked before a run, but not all of them and not for every type.  A
run with settings that have passed the check needs the file extensions to be a list
of texts and the bound to be a number, and it takes a length that is no integer for
none.  With such values it shows what the settings ask for, or ends with a failure.
With extensions that have no elements it always ends with a type fault, and so it
does with a bound that is no number as soon as there is a function to compare.

Key definitions: `Value.isNumber`, `SettingProblem`, `Settings.IsTyped`,
`Frontend.shownFunctions`.
Key theorems: `validate_problems`, `loadSettings_cases`, `selection_of_isNumber`,
`shownFunctions_cases`, `shownFunctions_of_entries`.
-/
import GoComplexity.Proofs.Accounting
import GoComplexity.Proofs.Precedence
import GoComplexity.Report.Selection

namespace GoComplexity

/-! ### Numbers -/

namespace Value

/-- Whether a value is a number, truth values counting as zero and one. -/
def isNumber : Value → Bool
  | .bool _ | .int _ | .float _ => true
  | _ => false

variable {v : Value}

theorem compareInt_of_isNumber (h : v.isNumber = true) (operator : String) (n : Int) :
    ∃ c, v.compareInt operator n = .ok c := by
  cases v with
  | bool b => exact ⟨_, rfl⟩
  | int k => exact ⟨_, rfl⟩
  | float x => exact ⟨_, rfl⟩
  | _ => exact nomatch h

theorem compareInt_of_not_isNumber (h : v.isNumber = false) (operator : String) (n : Int) :
    v.compareInt operator n = .error (.notOrdered operator v.typeName "int") := by
  cases v with
  | bool b => exact nomatch h
  | int k => exact nomatch h
  | float x => exact nomatch h
  | _ => rfl

theorem isAbove_of_isNumber (h : v.isNumber = true) (n : Int) : ∃ b, v.isAbove n = .ok b := by
  obtain ⟨c, hc⟩ := compareInt_of_isNumber h ">" n
  exact ⟨_, by rw [isAbove, hc]; rfl⟩

theorem isAbove_of_not_isNumber (h : v.isNumber = false) (n : Int) :
    v.isAbove n = .error (.notOrdered ">" v.typeName "int") := by
  rw [isAbove, compareInt_of_not_isNumber h]
  rfl

theorem isNumber_of_isBelow {n : Int} {b : Bool} (h : v.isBelow n = .ok b) :
    v.isNumber = true := by
  by_contra hnot
  rw [isBelow, compareInt_of_not_isNumber (Bool.eq_false_iff.mpr hnot)] at h
  cases h

end Value

/-! ### What may be wrong with settings -/

/-- Whether a result is right or a problem of some kind. -/
def Problems {α : Type} (P : Problem → Prop) (e : Except Problem α) : Prop :=
  ∀ p, e = .error p → P p

theorem Problems.bind {α β : Type} {P : Problem → Prop} {e : Except Problem α}
    {f : α → Except Problem β} (he : Problems P e) (hf : ∀ a, Problems P (f a)) :
    Problems P (e >>= f) := by
  cases e with
  | error q => exact fun p h => he p (congrArg Except.error (Except.error.inj h))
  | ok a => exact hf a

theorem exists_of_bind_eq_ok {ε α β : Type} {e : Except ε α} {f : α → Except ε β} {b : β}
    (h : (e >>= f) = .ok b) : ∃ a, e = .ok a ∧ f a = .ok b := by
  cases e with
  | error q => exact nomatch h
  | ok a => exact ⟨a, rfl, h⟩

/-- A problem with settings: a failure, a value of the wrong type, or a pattern with
a fault of another kind than a malformed one. -/
inductive SettingProblem (s : Settings) : Problem → Prop
  | failure (f : Failure) : SettingProblem s (.failure f)
  | type (fault : TypeFault) : SettingProblem s (.type fault)
  | pattern {t : String} {fault : Regex.Fault} (ht : s.value .ignorePattern = .text t)
      (hfault : Regex.ofString t = .error fault)
      (hkind : ∀ cause position, fault ≠ .malformed cause position) :
      SettingProblem s (.pattern t fault)

namespace Settings

variable (s : Settings)

theorem checkChoice_problems (x : Setting) : Problems (SettingProblem s) (s.checkChoice x) := by
  intro p h
  unfold checkChoice at h
  split at h
  · split at h
    · exact nomatch h
    · exact Except.error.inj h ▸ .failure _
  · exact Except.error.inj h ▸ .failure _

theorem checkLeast_problems (x : Setting) (least : Int) (reason : String) :
    Problems (SettingProblem s) (s.checkLeast x least reason) := by
  intro p h
  unfold checkLeast at h
  split at h
  · exact nomatch h
  · exact Except.error.inj h ▸ .failure _
  · exact Except.error.inj h ▸ .type _

theorem checkExtensions_problems : Problems (SettingProblem s) s.checkExtensions := by
  intro p h
  unfold checkExtensions at h
  split at h
  · exact nomatch h
  · exact Except.error.inj h ▸ .failure _

theorem pattern?_problems : Problems (SettingProblem s) s.pattern? := by
  intro p h
  unfold pattern? at h
  dsimp only at h
  split at h
  · exact nomatch h
  · split at h
    · rename_i t ht
      split at h
      · exact nomatch h
      · exact Except.error.inj h ▸ .failure _
      · rename_i fault hkind hfault
        exact Except.error.inj h ▸ .pattern ht hfault hkind
    · exact Except.error.inj h ▸ .type _
    · exact Except.error.inj h ▸ .type _
    · exact Except.error.inj h ▸ .type _

/-- A pattern that cannot be used although it is not malformed is a problem of its own. -/
theorem pattern?_eq_error {s : Settings} {text : String} {fault : Regex.Fault}
    (htext : s.value .ignorePattern = .text text) (hne : text ≠ "")
    (hread : Regex.ofString text = .error fault)
    (hkind : ∀ cause position, fault ≠ .malformed cause position) :
    s.pattern? = .error (.pattern text fault) := by
  have htruthy : (Value.text text).truthy = true := decide_eq_true hne
  unfold pattern?
  rw [htext]
  dsimp only
  rw [htruthy, hread]
  cases fault with
  | malformed cause position => exact absurd rfl (hkind cause position)
  | _ => rfl

/-- **The check of settings** comes to a failure, to a type fault, or to a pattern that
cannot be used although it is not malformed. -/
theorem validate_problems : Problems (SettingProblem s) s.validate := by
  unfold validate
  iterate 3 refine (s.checkChoice_problems _).bind fun _ => ?_
  iterate 3 refine (s.checkLeast_problems _ _ _).bind fun _ => ?_
  refine s.checkExtensions_problems.bind fun _ => s.pattern?_problems.bind fun _ => ?_
  exact fun _ h => nomatch h

/-- Settings that have passed the check have a number of workers, and a pattern if any. -/
theorem of_validate_eq_ok {s : Settings} (h : s.validate = .ok ()) :
    (s.value .workers).isNumber = true ∧ ∃ pattern, s.pattern? = .ok pattern := by
  unfold validate at h
  obtain ⟨_, -, h⟩ := exists_of_bind_eq_ok h
  obtain ⟨_, -, h⟩ := exists_of_bind_eq_ok h
  obtain ⟨_, -, h⟩ := exists_of_bind_eq_ok h
  obtain ⟨_, hworkers, h⟩ := exists_of_bind_eq_ok h
  obtain ⟨_, -, h⟩ := exists_of_bind_eq_ok h
  obtain ⟨_, -, h⟩ := exists_of_bind_eq_ok h
  obtain ⟨_, -, h⟩ := exists_of_bind_eq_ok h
  obtain ⟨pattern, hpattern, -⟩ := exists_of_bind_eq_ok h
  refine ⟨?_, pattern, hpattern⟩
  unfold checkLeast at hworkers
  split at hworkers
  · rename_i hbelow
    exact Value.isNumber_of_isBelow hbelow
  · exact nomatch hworkers
  · exact nomatch hworkers

end Settings

section

variable {r : Request} {entries : Entries} (h : r.entries = .ok entries)

include h

/-- **Loading settings** from entries of any types gives these or a failure, or ends
with a pattern that cannot be used although it is not malformed. -/
theorem loadSettings_cases : let s := Settings.ofEntries entries
    loadSettings r = .ok s ∧ s.validate = .ok () ∨ (∃ f, loadSettings r = .error (.failure f)) ∨
      ∃ t fault, s.value .ignorePattern = .text t ∧ Regex.ofString t = .error fault ∧
        (∀ cause position, fault ≠ .malformed cause position) ∧
        loadSettings r = .error (.pattern t fault) := by
  intro s
  rw [loadSettings_eq h]
  split
  · have hmake : makeSettings entries = s.validate >>= fun _ => .ok s := rfl
    rw [hmake]
    cases hvalid : s.validate with
    | ok _ => exact Or.inl ⟨rfl, rfl⟩
    | error p =>
      cases s.validate_problems p hvalid with
      | failure f => exact Or.inr (Or.inl ⟨f, rfl⟩)
      | type fault => exact Or.inr (Or.inl ⟨.illTypedSetting fault, rfl⟩)
      | pattern ht hfault hkind => exact Or.inr (Or.inr ⟨_, _, ht, hfault, hkind, rfl⟩)
  · exact Or.inr (Or.inl ⟨_, rfl⟩)

end

/-- Settings that have been loaded have passed the check. -/
theorem validate_of_loadSettings {r : Request} {s : Settings} (h : loadSettings r = .ok s) :
    s.validate = .ok () := by
  obtain ⟨entries, hentries, -⟩ := exists_of_bind_eq_ok h
  rcases loadSettings_cases hentries with ⟨hload, hvalid⟩ | ⟨f, hf⟩ | ⟨t, fault, -, -, -, hf⟩
  · exact Except.ok.inj (hload.symm.trans h) ▸ hvalid
  · exact nomatch h.symm.trans hf
  · exact nomatch h.symm.trans hf

/-! ### Selections -/

theorem Bar.exists_ofValue {v : Value} (h : v.isNumber = true) :
    ∃ bar, Bar.ofValue v = .ok bar := by
  obtain ⟨above, habove⟩ := Value.isAbove_of_isNumber h 0
  unfold Bar.ofValue
  rw [habove]
  cases above with
  | false => exact ⟨.open, rfl⟩
  | true =>
    cases v with
    | bool b => exact ⟨.above _, rfl⟩
    | int n => exact ⟨.above n, rfl⟩
    | float x =>
      cases hfloor : x.floor? with
      | some n => exact ⟨.above n, by simp [Value.integer?, Value.number?, hfloor]; rfl⟩
      | none => exact ⟨.shut, by simp [Value.integer?, Value.number?, hfloor]; rfl⟩
    | _ => cases h

theorem Bar.ofValue_of_not_isNumber {v : Value} (h : v.isNumber = false) :
    Bar.ofValue v = .error (.notOrdered ">" v.typeName "int") := by
  unfold Bar.ofValue
  rw [Value.isAbove_of_not_isNumber h]
  rfl

theorem select_nil (m : Metric) (top : Int) (bar : Bar) : select m top bar [] = [] := by
  rw [select, ranked, List.mergeSort_nil]
  rfl

theorem select_zero (m : Metric) (bar : Bar) (stats : List Stat) : select m 0 bar stats = [] := by
  unfold select
  cases ranked m stats with
  | nil => rfl
  | cons s rest => rfl

namespace Settings

variable {s : Settings}

/-- **A bound that is a number** is compared with every score. -/
theorem selection_of_isNumber {bar : Bar} (hbar : Bar.ofValue (s.value .bound) = .ok bar)
    (stats : List Stat) : s.selection stats = .ok (select s.metric s.limit bar stats) := by
  unfold selection
  split
  · rename_i h
    rw [Bool.or_eq_true, List.isEmpty_iff, decide_eq_true_eq] at h
    rcases h with rfl | h
    · rw [select_nil]
    · rw [h, select_zero]
  · rw [hbar]
    rfl

/-- **A bound that is no number** cannot be compared with any score. -/
theorem selection_of_not_isNumber (hbound : (s.value .bound).isNumber = false)
    {stats : List Stat} (hstats : stats ≠ []) (hlimit : s.limit ≠ 0) :
    s.selection stats = .error (.notOrdered ">" (s.value .bound).typeName "int") := by
  unfold selection
  rw [if_neg (by simp [hstats, hlimit]), Bar.ofValue_of_not_isNumber hbound]
  rfl

end Settings

/-! ### The functions that a report shows -/

namespace Settings

/-- Whether the settings that a run uses have values of their types. -/
structure IsTyped (s : Settings) (extensions : List String) (top : Int) : Prop where
  extensions : s.value .fileExtensions = .list (extensions.map .text)
  top : s.value .top = .int top
  bound : (s.value .bound).isNumber = true

end Settings

theorem Analyzer.ofSettings_eq {s : Settings} {pattern : Option Regex}
    (hpattern : s.pattern? = .ok pattern) {extensions : List Value}
    (h : (s.value .fileExtensions).elements = .ok extensions) :
    Analyzer.ofSettings s =
      .ok ⟨⟨pattern, extensions⟩, (s.value .strict).truthy, s.value .workers⟩ := by
  unfold Analyzer.ofSettings
  rw [hpattern, h]
  rfl

namespace Frontend

variable (front : Frontend)

/-- The functions that a report with settings shows of the files under paths. -/
def shownFunctions (s : Settings) (d : Disk) (paths : List String) : Run (List Stat) := do
  let result ← front.analyzeWith s d paths
  Run.ofTyped (s.selection result.stats)

variable {s : Settings}

/-- Extensions that have no elements end every run. -/
theorem shownFunctions_of_notIterable {pattern : Option Regex} (hpattern : s.pattern? = .ok pattern)
    {fault : TypeFault} (h : (s.value .fileExtensions).elements = .error fault) (d : Disk)
    (paths : List String) :
    (front.shownFunctions s d paths).Yields (.error (.type fault)) := by
  intro log
  unfold shownFunctions analyzeWith Analyzer.ofSettings
  rw [hpattern, h]
  rfl

theorem analyzeWith_eq {a : Analyzer} (ha : Analyzer.ofSettings s = .ok a) (d : Disk)
    (paths : List String) : front.analyzeWith s d paths = front.analyze a d paths := by
  unfold analyzeWith
  rw [ha]
  rfl

/-- What is shown is selected from what an analysis comes to. -/
theorem outcome_shownFunctions {a : Analyzer} (ha : Analyzer.ofSettings s = .ok a) (d : Disk)
    (paths : List String) (log : List Record) :
    (front.shownFunctions s d paths).outcome log = (front.analyze a d paths).outcome log >>=
      fun result => (s.selection result.stats).mapError Problem.type := by
  rw [shownFunctions, front.analyzeWith_eq ha]
  exact Run.outcome_bind_yields (fun _ => Run.yields_ofTyped _) _ log

/-- **A run with extensions that are texts** takes the files of directories whose names
end in one of them.  It shows a selection of their functions, or ends at a malformed
file if it is strict. -/
theorem shownFunctions_cases (hvalid : s.validate = .ok ()) {extensions : List String}
    (helements : (s.value .fileExtensions).elements = .ok (extensions.map .text)) {d : Disk}
    (hdisk : d.NoNull) {paths : List String} (hpaths : d.HasPaths paths) (log : List Record) :
    ∃ pattern files, s.pattern? = .ok pattern ∧ files = sourcesOf d pattern extensions paths ∧
      (scan d ⟨pattern, extensions.map .text⟩ paths).outcome log = .ok (files, []) ∧
      ((front.shownFunctions s d paths).outcome log =
          (s.selection (files.filterMap (front.scores? d)).flatten).mapError Problem.type ∨
        (s.value .strict).truthy = true ∧ ∃ f, (∃ path ∈ files, front.IsMalformed d path f) ∧
          (front.shownFunctions s d paths).outcome log = .error (.failure f)) := by
  obtain ⟨hworkers, pattern, hpattern⟩ := Settings.of_validate_eq_ok hvalid
  obtain ⟨above, habove⟩ := Value.isAbove_of_isNumber hworkers 1
  let a : Analyzer :=
    ⟨⟨pattern, extensions.map .text⟩, (s.value .strict).truthy, s.value .workers⟩
  have hscan : (scan d a.rules paths).outcome log =
      .ok (sourcesOf d pattern extensions paths, []) :=
    scan_yields_of_hasPaths rfl hpaths log
  have hnull : ∀ p ∈ sourcesOf d pattern extensions paths, holdsNull p = false :=
    holdsNull_of_mem_sourcesOf hdisk fun path hpath => (hpaths path hpath).1
  obtain ⟨outcomes, hcomes⟩ := front.exists_outcomes d hnull
  have hstats := (accounts_analysisOf hcomes []).stats
  have hcases : (front.analyze a d paths).outcome log = .ok (analysisOf [] outcomes) ∨ _ :=
    analyzeIn_cases hscan hnull hcomes habove fun _ _ _ hi _ => List.mem_range.mpr hi
  refine ⟨pattern, _, hpattern, rfl, hscan, ?_⟩
  rw [front.outcome_shownFunctions (Analyzer.ofSettings_eq hpattern helements)]
  rcases hcases with h | ⟨hstrict, f, hf, h⟩
  · exact Or.inl (by rw [h, ← hstats]; rfl)
  · exact Or.inr ⟨hstrict, f, hf, by rw [analyze, h]; rfl⟩

/-- **A run with settings that have been loaded** from entries of any types.  Loading gives
these settings or a failure, unless the pattern is one that cannot be used although it
is not malformed.  If the settings that the run uses have values of their types, it
takes the files of directories whose names end in one of the extensions, and it shows
what the settings ask for or, if it is strict, ends with the failure of a malformed
file.  Otherwise a type fault may end it, and does if the extensions have no elements
or the bound is no number. -/
theorem shownFunctions_of_entries {r : Request} {entries : Entries} (h : r.entries = .ok entries) :
    let s := Settings.ofEntries entries
    (loadSettings r = .ok s ∨ (∃ f, loadSettings r = .error (.failure f)) ∨
      ∃ t fault, s.value .ignorePattern = .text t ∧ Regex.ofString t = .error fault ∧
        (∀ cause position, fault ≠ .malformed cause position) ∧
        loadSettings r = .error (.pattern t fault)) ∧
    (loadSettings r = .ok s → ∀ (d : Disk) (paths : List String) (log : List Record), d.NoNull →
      d.HasPaths paths →
        (∀ extensions top, s.IsTyped extensions top → ∃ pattern files bar,
          s.pattern? = .ok pattern ∧ Bar.ofValue (s.value .bound) = .ok bar ∧
          files = sourcesOf d pattern extensions paths ∧
          (scan d ⟨pattern, extensions.map .text⟩ paths).outcome log = .ok (files, []) ∧
          ((front.shownFunctions s d paths).outcome log =
              .ok (select s.metric top bar (files.filterMap (front.scores? d)).flatten) ∨
            (s.value .strict).truthy = true ∧ ∃ f, (∃ path ∈ files, front.IsMalformed d path f) ∧
              (front.shownFunctions s d paths).outcome log = .error (.failure f))) ∧
        (∀ fault, (s.value .fileExtensions).elements = .error fault →
          (front.shownFunctions s d paths).outcome log = .error (.type fault)) ∧
        ∀ pattern extensions, s.pattern? = .ok pattern →
          (s.value .fileExtensions).elements = .ok (extensions.map .text) →
          (s.value .bound).isNumber = false → s.limit ≠ 0 →
          ((sourcesOf d pattern extensions paths).filterMap (front.scores? d)).flatten ≠ [] →
          (∀ path ∈ sourcesOf d pattern extensions paths, ∀ f, ¬ front.IsMalformed d path f) →
            (front.shownFunctions s d paths).outcome log =
              .error (.type (.notOrdered ">" (s.value .bound).typeName "int"))) := by
  intro s
  have hcases := loadSettings_cases h
  refine ⟨hcases.imp_left And.left, fun hload d paths log hdisk hpaths => ?_⟩
  have hvalid : s.validate = .ok () := by
    rcases hcases with ⟨-, hvalid⟩ | ⟨f, hf⟩ | ⟨t, fault, -, -, -, hf⟩
    · exact hvalid
    · exact nomatch hload.symm.trans hf
    · exact nomatch hload.symm.trans hf
  refine ⟨?_, ?_, ?_⟩
  · intro extensions top htyped
    have helements : (s.value .fileExtensions).elements = .ok (extensions.map .text) := by
      rw [htyped.extensions]
      rfl
    have hlimit : s.limit = top := by
      rw [Settings.limit, htyped.top]
      rfl
    obtain ⟨bar, hbar⟩ := Bar.exists_ofValue htyped.bound
    obtain ⟨pattern, files, hpattern, hfiles, hscan, hrun⟩ :=
      front.shownFunctions_cases hvalid helements hdisk hpaths log
    rw [Settings.selection_of_isNumber hbar, hlimit] at hrun
    exact ⟨pattern, files, bar, hpattern, hbar, hfiles, hscan, hrun⟩
  · intro fault helements
    obtain ⟨-, pattern, hpattern⟩ := Settings.of_validate_eq_ok hvalid
    exact front.shownFunctions_of_notIterable hpattern helements d paths log
  · intro pattern extensions hpattern helements hbound hlimit hstats hsound
    obtain ⟨pattern', files, hpattern', hfiles, -, hrun⟩ :=
      front.shownFunctions_cases hvalid helements hdisk hpaths log
    obtain rfl := Except.ok.inj (hpattern.symm.trans hpattern')
    rw [← hfiles] at hstats hsound
    rw [Settings.selection_of_not_isNumber hbound hstats hlimit] at hrun
    refine hrun.resolve_right ?_
    rintro ⟨-, f, ⟨path, hpath, hmalformed⟩, -⟩
    exact hsound path hpath f hmalformed

end Frontend

/-- A request whose configuration file in the working directory has a text, beside a
source of one function. -/
def requestWith (text : String) : Request where
  disk :=
    { root :=
        [("home", .directory []),
          ("work", .directory
            [("a.go", .file "package p\nfunc f() \x7b\x7d\n".toUTF8),
              ("gosca.toml", .file text.toUTF8)])]
      workingDirectory := ["work"] }
  home := "/home"
  environment _ := none

theorem entries_requestWith {text : String} {entries : Entries}
    (h : configFileEntries "/work/gosca.toml" text.toUTF8 = .ok entries) :
    (requestWith text).entries = .ok (merge [] entries) := by
  have hproject : (requestWith text).fileEntries "/work/gosca.toml" = .ok entries :=
    (Request.fileEntries_of_find text.toUTF8 (by rfl)).trans h
  have hhome : (requestWith text).fileEntries "/home/.gosca.toml" = .ok [] := by rfl
  have hfiles : (requestWith text).configFiles = ["/home/.gosca.toml", "/work/gosca.toml"] := by
    show (requestWith "").configFiles = _
    rfl
  unfold Request.entries Request.layers
  rw [hfiles, List.mapM_cons, List.mapM_cons, hhome, hproject]
  rfl

/-- Settings that pass the check are loaded. -/
theorem loadSettings_of_isOk {r : Request} {entries : Entries}
    (h : r.entries = .ok entries) (hkeys : ∀ e ∈ entries, IsSettingKey e.1)
    (hok : (makeSettings entries).isOk = true) :
    loadSettings r = .ok (Settings.ofEntries entries) := by
  rw [loadSettings_of_entries h hkeys, makeSettings_of_isOk hok]
  rfl

theorem noNull_requestWith (text : String) : (requestWith text).disk.NoNull :=
  show (requestWith "").disk.NoNull by decide

theorem hasPaths_requestWith (text : String) : (requestWith text).disk.HasPaths ["."] := by
  intro path hpath
  rw [List.mem_singleton.mp hpath]
  exact ⟨by decide, ["work"], by rfl⟩

theorem sourcesOf_requestWith (text : String) :
    sourcesOf (requestWith text).disk none [".go"] ["."] = ["./a.go"] := by
  have hnames : ¬ "gosca.toml" < "a.go" := by decide
  have hwalk : walk (requestWith text).disk ["work"] "." (.directory
      [("a.go", .file "package p\nfunc f() \x7b\x7d\n".toUTF8),
        ("gosca.toml", .file text.toUTF8)]) =
      [.file "a.go" "./a.go", .file "gosca.toml" "./gosca.toml"] := by
    rw [walk, if_neg (by decide)]
    show (sortByName [("a.go", _), ("gosca.toml", _)]).map _ ++
      (sortByName [("a.go", []), ("gosca.toml", [])]).flatMap Prod.snd = _
    rw [sortByName_of_pairwise (List.pairwise_pair.mpr hnames),
      sortByName_of_pairwise (List.pairwise_pair.mpr hnames)]
    rfl
  show (((walk (requestWith text).disk ["work"] "." _).filterMap _).filter _) ++ [] = _
  rw [hwalk]
  rfl

namespace Frontend

/-- A length of one shows one function. -/
theorem shownFunctions_top :
    ∃ s, (requestWith "top = 1\n").entries = .ok [("top", .int 1)] ∧
      loadSettings (requestWith "top = 1\n") = .ok s ∧
      (go.shownFunctions s (requestWith "top = 1\n").disk ["."]).outcome [] =
        .ok [⟨"p", "f", 1, 0, ⟨"./a.go", 2, 1⟩⟩] := by
  have hfile : configFileEntries "/work/gosca.toml" "top = 1\n".toUTF8 = .ok [("top", .int 1)] :=
    configFileEntries_of_integers [("top", 1)] (by decide +kernel)
  have hentries : (requestWith "top = 1\n").entries = .ok [("top", .int 1)] :=
    entries_requestWith hfile
  have hload := loadSettings_of_isOk hentries (by decide) (by decide +kernel)
  have hdisk : (requestWith "top = 1\n").disk.NoNull := noNull_requestWith _
  have hpaths : (requestWith "top = 1\n").disk.HasPaths ["."] := hasPaths_requestWith _
  obtain ⟨-, hrun⟩ := go.shownFunctions_of_entries hentries
  obtain ⟨htyped, -⟩ := hrun hload _ ["."] [] hdisk hpaths
  obtain ⟨pattern, files, bar, hpattern, hbar, hfiles, -, hrun⟩ :=
    htyped [".go"] 1 ⟨by rfl, by rfl, by rfl⟩
  obtain rfl : none = pattern := Except.ok.inj hpattern
  obtain rfl : Bar.open = bar := Except.ok.inj hbar
  rw [sourcesOf_requestWith] at hfiles
  have hread : readSource (requestWith "top = 1\n").disk "./a.go" =
      .ok "package p\nfunc f() \x7b\x7d\n".toUTF8 := by rfl
  have hscores : go.ComesTo (requestWith "top = 1\n").disk "./a.go"
      (.measured [⟨"p", "f", 1, 0, ⟨"./a.go", 2, 1⟩⟩]) :=
    comesTo_of_toOption_eq_some hread (by decide +kernel)
  refine ⟨_, hentries, hload, ?_⟩
  rcases hrun with hrun | ⟨hstrict, -⟩
  · rw [hrun, hfiles, List.filterMap_cons, ← hscores.stats]
    show Except.ok (cut _ _ _ (List.mergeSort [_] _)) = _
    rw [List.mergeSort_singleton]
    rfl
  · cases hstrict

/-- **A number of extensions passes the check** and ends the run. -/
theorem shownFunctions_extensions :
    ∃ s, loadSettings (requestWith "file_extensions = 5\n") = .ok s ∧
      (requestWith "file_extensions = 5\n").disk.NoNull ∧
      (requestWith "file_extensions = 5\n").disk.HasPaths ["."] ∧
      (go.shownFunctions s (requestWith "file_extensions = 5\n").disk ["."]).outcome [] =
        .error (.type (.notIterable "int")) := by
  have hfile : configFileEntries "/work/gosca.toml" "file_extensions = 5\n".toUTF8 =
      .ok [("file_extensions", .int 5)] :=
    configFileEntries_of_integers [("file_extensions", 5)] (by decide +kernel)
  have hload := loadSettings_of_isOk (entries_requestWith hfile) (by decide)
    (by decide +kernel)
  refine ⟨_, hload, noNull_requestWith _, hasPaths_requestWith _, ?_⟩
  have hpattern : (Settings.ofEntries [("file_extensions", .int 5)]).pattern? = .ok none := by rfl
  exact go.shownFunctions_of_notIterable hpattern (by rfl) _ _ _

end Frontend

end GoComplexity
