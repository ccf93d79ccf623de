/-
# Paths that lead nowhere

A path that leads nowhere adds one failure to an analysis that is not strict and takes
nothing away: no file comes from it, and the files under the other paths are found and
measured as they would be without it.  A path that holds a null is not looked up at all.
It ends the whole run, and what is under the other paths is lost.

Key theorems: `mapM_eq_error`, `scanPath_outcome`, `scan_of_null`,
`sourcesOf_of_unresolved`, `filterMap_unresolved?`, `analyzeIn_of_null`,
`analyzeIn_paths`.
-/
import GoComplexity.Proofs.Accounting

namespace GoComplexity

/-- A list of results in which only one problem occurs ends with that problem. -/
theorem mapM_eq_error {α β : Type} {g : α → Except Problem β} {p : Problem} : ∀ {xs : List α},
    (∀ x ∈ xs, ∀ q, g x = .error q → q = p) → (∃ x ∈ xs, g x = .error p) → xs.mapM g = .error p
  | [], _, ⟨_, hx, _⟩ => absurd hx List.not_mem_nil
  | x :: xs, honly, ⟨y, hy, hp⟩ => by
    rw [List.mapM_cons]
    cases hx : g x with
    | error q => exact congrArg Except.error (honly x List.mem_cons_self q hx)
    | ok b =>
      have hmem : y ∈ xs := by
        refine (List.mem_cons.mp hy).resolve_left ?_
        rintro rfl
        exact nomatch hx.symm.trans hp
      have hrest := mapM_eq_error (fun z hz => honly z (List.mem_cons_of_mem _ hz)) ⟨y, hmem, hp⟩
      show xs.mapM g >>= _ = _
      rw [hrest]
      rfl

/-! ### Scans -/

section

variable {d : Disk} {rules : ScanRules} {extensions : List String}
  (hextensions : rules.extensions = extensions.map Value.text)

include hextensions

/-- The scan of any path: only a null ends it. -/
theorem scanPath_outcome (path : String) :
    (scanPath d rules path).Yields
      (if holdsNull path then .error .embeddedNull
      else .ok (sourcesUnder d rules.pattern extensions path, (unresolved? d path).toList)) := by
  cases hnull : holdsNull path with
  | false => exact scanPath_yields hextensions hnull
  | true =>
    unfold scanPath
    rw [hnull]
    exact fun _ => rfl

/-- **A null ends a scan**, whatever is under the other paths. -/
theorem scan_of_null {paths : List String} (h : ∃ path ∈ paths, holdsNull path = true) :
    (scan d rules paths).Yields (.error .embeddedNull) := by
  have hresults := Run.mapM_yields fun path (_ : path ∈ paths) =>
    scanPath_outcome (d := d) hextensions path
  obtain ⟨path, hpath, hnull⟩ := h
  rw [mapM_eq_error (p := .embeddedNull) ?_ ⟨path, hpath, if_pos hnull⟩] at hresults
  · exact hresults.bind (g := fun _ => .error .embeddedNull) fun _ he => nomatch he
  · intro p _ q hq
    split at hq
    · exact (Except.error.inj hq).symm
    · exact nomatch hq

end

/-- No file comes from a path that leads nowhere. -/
theorem sourcesOf_of_unresolved {d : Disk} {path : String} {fault : DiskFault}
    (h : d.resolve path = .error fault) (pattern : Option Regex) (extensions before after) :
    sourcesOf d pattern extensions (before ++ path :: after) =
      sourcesOf d pattern extensions (before ++ after) := by
  have hnone : sourcesUnder d pattern extensions path = [] := by
    rw [sourcesUnder, candidatesUnder, h]
    rfl
  rw [sourcesOf, sourcesOf, List.flatMap_append, List.flatMap_append, List.flatMap_cons, hnone,
    List.nil_append]

/-- One failure comes from a path that leads nowhere. -/
theorem filterMap_unresolved? {d : Disk} {path : String} {fault : DiskFault}
    (h : d.resolve path = .error fault) (before after : List String) :
    (before ++ path :: after).filterMap (unresolved? d) =
      before.filterMap (unresolved? d) ++
        .fileAccess path fault.reason :: after.filterMap (unresolved? d) := by
  have hsome : unresolved? d path = some (.fileAccess path fault.reason) := by
    rw [unresolved?, h]
  rw [List.filterMap_append, List.filterMap_cons, hsome]

/-! ### Analyses -/

namespace Frontend

/-- **A null ends an analysis** before any file is measured. -/
theorem analyzeIn_of_null (front : Frontend) (a : Analyzer) (d : Disk) {extensions : List String}
    (hextensions : a.rules.extensions = extensions.map .text) {paths : List String}
    (h : ∃ path ∈ paths, holdsNull path = true) (order : Nat → List Nat) :
    (front.analyzeIn a order d paths).Yields (.error .embeddedNull) := by
  intro log
  have hscan := scan_of_null (d := d) hextensions h log
  have hrun := front.outcome_analyzeIn a d order paths log fun _ _ hok =>
    nomatch hscan.symm.trans hok
  rw [hscan] at hrun
  exact hrun

/-- **A path that leads nowhere is one failure, unless it holds a null.** A run that is
not strict ends, if no path holds a null, with the scores and failures of the files that
are found, and with one failure for each path that leads nowhere.  Without such a path
the same files are found and measured, and the errors lack its failure alone.  A path
that holds a null ends the run. -/
theorem analyzeIn_paths (front : Frontend) (a : Analyzer) (d : Disk)
    {extensions : List String} {w : Int} (hstrict : a.strict = false)
    (hworkers : a.workers = .int w) (hextensions : a.rules.extensions = extensions.map .text)
    (hdisk : d.NoNull) (paths : List String) (log : List Record) (order : Nat → List Nat)
    {files : List String} (hfiles : files = sourcesOf d a.rules.pattern extensions paths)
    (horder : front.MayFinish a d w files (order files.length)) :
    ((∃ path ∈ paths, holdsNull path = true) →
      (scan d a.rules paths).outcome log = .error .embeddedNull ∧
        (front.analyzeIn a order d paths).outcome log = .error .embeddedNull) ∧
      ((∀ path ∈ paths, holdsNull path = false) →
        (scan d a.rules paths).outcome log = .ok (files, paths.filterMap (unresolved? d)) ∧
          ∃ result, (front.analyzeIn a order d paths).outcome log = .ok result ∧
            front.Accounts d files (paths.filterMap (unresolved? d)) result ∧
            ∀ before path after fault, paths = before ++ path :: after →
              d.resolve path = .error fault →
              ∃ rest failures,
                (scan d a.rules (before ++ after)).outcome log =
                  .ok (files, (before ++ after).filterMap (unresolved? d)) ∧
                (front.analyzeIn a order d (before ++ after)).outcome log = .ok rest ∧
                result.stats = rest.stats ∧ result.filesAnalyzed = rest.filesAnalyzed ∧
                rest.errors = before.filterMap (unresolved? d) ++ failures ∧
                result.errors = before.filterMap (unresolved? d) ++
                  .fileAccess path fault.reason :: failures) := by
  constructor
  · exact fun hnull =>
      ⟨scan_of_null hextensions hnull log, front.analyzeIn_of_null a d hextensions hnull order log⟩
  · intro hpaths
    have hscan : (scan d a.rules paths).outcome log =
        .ok (files, paths.filterMap (unresolved? d)) := by
      rw [hfiles]
      exact scan_yields hextensions hpaths log
    have hnull : ∀ p ∈ files, holdsNull p = false := by
      rw [hfiles]
      exact holdsNull_of_mem_sourcesOf hdisk hpaths
    obtain ⟨outcomes, hcomes⟩ := front.exists_outcomes d hnull
    refine ⟨hscan, _, analyzeIn_of_comesTo hscan hnull hcomes hstrict hworkers horder,
      accounts_analysisOf hcomes _, ?_⟩
    intro before path after fault hsplit hfault
    -- the same files are found without the path, and come to the same outcomes
    have hscan' : (scan d a.rules (before ++ after)).outcome log =
        .ok (files, (before ++ after).filterMap (unresolved? d)) := by
      rw [hfiles, hsplit, sourcesOf_of_unresolved hfault]
      refine scan_yields hextensions (fun p hp => hpaths p ?_) log
      rw [hsplit]
      exact ((List.Sublist.refl before).append (List.sublist_cons_self path after)).subset hp
    refine ⟨_, after.filterMap (unresolved? d) ++ outcomes.filterMap FileOutcome.failure?, hscan',
      analyzeIn_of_comesTo hscan' hnull hcomes hstrict hworkers horder, rfl, rfl, ?_, ?_⟩
    · show _ ++ _ = _
      rw [List.filterMap_append, List.append_assoc]
    · show _ ++ _ = _
      rw [hsplit, filterMap_unresolved? hfault, List.append_assoc, List.cons_append]

/-- A path that leads nowhere is reported, and the source beside it is measured; beside a
null it is not. -/
theorem analyzeIn_missing :
    (go.analyzeIn lenientPair List.range mixedDisk ["a\x00b", "a.go"]).outcome [] =
        .error .embeddedNull ∧
      ∃ whole rest failures,
        (go.analyzeIn lenientPair List.range mixedDisk ["none.go", "a.go"]).outcome [] = .ok whole ∧
        (go.analyzeIn lenientPair List.range mixedDisk ["a.go"]).outcome [] = .ok rest ∧
        whole.stats = rest.stats ∧ whole.filesAnalyzed + whole.errors.length = 2 ∧
        rest.errors = failures ∧
        whole.errors = .fileAccess "none.go" "No such file or directory" :: failures := by
  have hmay : go.MayFinish lenientPair mixedDisk 2 ["a.go"] [0] := fun _ hlength =>
    absurd hlength (by decide)
  have hdisk : mixedDisk.NoNull := by decide
  have hextensions : lenientPair.rules.extensions = [".go"].map .text := rfl
  have hfiles : ["a.go"] = sourcesOf mixedDisk none [".go"] ["a\x00b", "a.go"] := by rfl
  have hfiles' : ["a.go"] = sourcesOf mixedDisk none [".go"] ["none.go", "a.go"] := by rfl
  obtain ⟨hnull, -⟩ := go.analyzeIn_paths lenientPair mixedDisk rfl rfl hextensions hdisk
    ["a\x00b", "a.go"] [] List.range hfiles hmay
  obtain ⟨-, hends⟩ := go.analyzeIn_paths lenientPair mixedDisk rfl rfl hextensions hdisk
    ["none.go", "a.go"] [] List.range hfiles' hmay
  obtain ⟨-, whole, hwhole, haccounts, hwithout⟩ := hends (by decide)
  obtain ⟨rest, failures, -, hrest, hstats, -, herrors, herrors'⟩ :=
    hwithout [] "none.go" ["a.go"] .notFound rfl (by rfl)
  exact ⟨(hnull (by decide)).2, whole, rest, failures, hwhole, hrest, hstats,
    haccounts.total, herrors, herrors'⟩

/-- A null in one path takes away the scores of the source under another one. -/
theorem analyzeIn_nullPath :
    (∀ log, (scan mixedDisk lenientPair.rules ["a\x00b", "a.go"]).outcome log =
        .error .embeddedNull) ∧
      (∀ log, (go.analyzeIn lenientPair List.range mixedDisk ["a\x00b", "a.go"]).outcome log =
        .error .embeddedNull) ∧
      ∃ result, (go.analyzeIn lenientPair List.range mixedDisk ["a.go"]).outcome [] = .ok result ∧
        result.stats = [⟨"p", "f", 1, 0, ⟨"a.go", 2, 1⟩⟩] ∧ result.errors = [] := by
  have hextensions : lenientPair.rules.extensions = [".go"].map .text := rfl
  have hnull : ∃ path ∈ ["a\x00b", "a.go"], holdsNull path = true := by decide
  have hfiles : sourcesOf mixedDisk none [".go"] ["a.go"] = ["a.go"] := by rfl
  have hfound : (scan mixedDisk lenientPair.rules ["a.go"]).outcome [] = .ok (["a.go"], []) := by
    refine (scan_yields hextensions (by decide) []).trans ?_
    rw [show lenientPair.rules.pattern = none from rfl, hfiles]
    rfl
  have hread : readSource mixedDisk "a.go" = .ok "package p\nfunc f() \x7b\x7d\n".toUTF8 := by rfl
  have hscores : go.ComesTo mixedDisk "a.go" (.measured [⟨"p", "f", 1, 0, ⟨"a.go", 2, 1⟩⟩]) :=
    comesTo_of_toOption_eq_some hread (by decide +kernel)
  have hmay : go.MayFinish lenientPair mixedDisk 2 ["a.go"] [0] := fun _ hlength =>
    absurd hlength (by decide)
  exact ⟨scan_of_null hextensions hnull,
    go.analyzeIn_of_null lenientPair mixedDisk hextensions hnull List.range, _,
    analyzeIn_of_comesTo hfound (by decide) (.cons hscores .nil) rfl rfl hmay, rfl, rfl⟩

end Frontend

end GoComplexity
