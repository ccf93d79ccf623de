/-
# Which source a setting comes from

A setting may be given by the two flags of the verbosity, by the caller, by the
environment, and by the files that are named, in the working directory and in the
home directory.  It has the value of the first of these sources that gives it one,
and else its default; the settings are checked only then.  So it makes no difference
what a source gives a setting that a higher one gives too, nor whether the caller
gives an absent value or none, nor what a file says outside the program's own table
if it has one.

Key definitions: `Request.IsReadable`, `Request.sources`, `Request.given`,
`Request.chosen`, `SameSettings`.
Key theorems: `Request.entries_eq`, `loadSettings_of_entries`, `given_of_hidden`,
`loadSettings_eq_chosen`.
-/
import GoComplexity.Proofs.Merging
import GoComplexity.Proofs.Outcome
import Mathlib.Data.List.Forall2

namespace GoComplexity

/-- Whether a value is absent. -/
def Value.isAbsent : Value → Bool
  | .none => true
  | _ => false

/-- A problem as loading reports it: a value of the wrong type is a failure. -/
def Problem.reported : Problem → Problem
  | .type fault => .failure (.illTypedSetting fault)
  | problem => problem

namespace Request

variable (r : Request)

/-! ### The sources of a setting -/

/-- The verbosity that the flags of the caller give. -/
def flagValue (x : Setting) : Option Value :=
  if x ≠ .verbosity then none
  else if r.hasFlag "quiet" then some (.text "quiet")
  else if r.hasFlag "verbose" then some (.text "verbose")
  else none

/-- The values of the caller that are not absent. -/
def presentOverrides : Entries := r.overrides.filter fun e => !e.2.isAbsent

/-- What the caller gives a setting. -/
def callerValue (x : Setting) : Option Value := valueIn r.presentOverrides x.key

/-- The entries of a file that can be read, none if there is no such file. -/
def readableEntries (path : String) : Entries := ((r.fileEntries path).toOption).getD []

/-- What a file gives a setting. -/
def fileValue (path : String) (x : Setting) : Option Value :=
  valueIn (r.readableEntries path) x.key

variable {r} in
theorem fileValue_eq {path : String} {entries : Entries} (h : r.fileEntries path = .ok entries) :
    r.fileValue path = fun x => valueIn entries x.key := by
  funext x
  rw [fileValue, readableEntries, h]
  rfl

variable {r} in
/-- The settings of a file that is there are those of its content. -/
theorem fileEntries_of_find {path : String} (content : ByteArray)
    (h : r.disk.find (displayPath path) = .ok (.file content)) :
    r.fileEntries path = configFileEntries path content := by
  rw [fileEntries, h]

/-- The sources of settings, from the highest on. -/
def sources : List (Setting → Option Value) :=
  [r.flagValue, r.callerValue, environmentValue r.environment] ++
    r.configFiles.reverse.map r.fileValue

/-- What the highest source that gives a setting anything gives it. -/
def given (x : Setting) : Option Value := r.sources.findSome? fun source => source x

/-- The settings that some source gives, each with the value of the highest one. -/
def chosen : Entries := entriesOf r.given

/-- Whether everything that a request names can be read, and names settings only. -/
structure IsReadable : Prop where
  /-- The configuration file that is named exists. -/
  named : r.checkConfigFile = .ok ()
  /-- Each configuration file that there is gives entries. -/
  files : ∀ path ∈ r.configFiles, ∃ entries, r.fileEntries path = .ok entries ∧
    ∀ e ∈ entries, IsSettingKey e.1
  /-- Each variable that is set can be read. -/
  environment : ∀ x raw, r.environment (Setting.variable x) = some raw →
    ∃ v, x.readVariable raw = .ok v
  /-- The caller gives settings and the flags of the verbosity. -/
  overrides : ∀ e ∈ r.presentOverrides, e.1 = "verbose" ∨ e.1 = "quiet" ∨ IsSettingKey e.1

/-! ### What the layers come to -/

theorem mem_plainOverrides {e : String × Value} (he : e ∈ r.plainOverrides) :
    e ∈ r.presentOverrides ∧ e.1 ≠ "verbose" ∧ e.1 ≠ "quiet" := by
  obtain ⟨k, v⟩ := e
  obtain ⟨hmem, hp⟩ := List.mem_filter.mp he
  simp only [Bool.and_eq_true, decide_eq_true_eq] at hp
  obtain ⟨⟨hverbose, hquiet⟩, hpresent⟩ := hp
  refine ⟨List.mem_filter.mpr ⟨hmem, ?_⟩, hverbose, hquiet⟩
  cases v <;> exact hpresent

theorem valueIn_plainOverrides (x : Setting) :
    valueIn r.plainOverrides x.key = r.callerValue x := by
  refine valueIn_filter_congr (fun v => ?_) r.overrides
  have hkey : x.key ≠ "verbose" ∧ x.key ≠ "quiet" := by cases x <;> decide
  cases v <;> simp [hkey, Value.isAbsent]

theorem valueIn_flagEntries (x : Setting) : valueIn r.flagEntries x.key = r.flagValue x := by
  have hkey : x.key = "verbosity" ↔ x = .verbosity :=
    ⟨fun h => Setting.key_injective h, fun h => congrArg Setting.key h⟩
  have hsingle : ∀ v,
      valueIn [("verbosity", v)] x.key = if x ≠ .verbosity then none else some v := by
    intro v
    rw [valueIn_cons]
    show (if x.key = "verbosity" then some v else none) = _
    rw [if_congr hkey rfl rfl, ite_not]
  unfold flagEntries flagValue
  split
  · exact hsingle _
  · split
    · exact hsingle _
    · exact (ite_self none).symm

theorem isSettingKey_of_mem_flagEntries {e : String × Value} (he : e ∈ r.flagEntries) :
    IsSettingKey e.1 := by
  have hverbosity : IsSettingKey "verbosity" := by decide
  unfold flagEntries at he
  split at he
  · rwa [List.mem_singleton.mp he]
  · split at he
    · rwa [List.mem_singleton.mp he]
    · exact absurd he List.not_mem_nil

section

variable {r}
variable (hr : r.IsReadable)

include hr

theorem fileEntries_eq {path : String} (hpath : path ∈ r.configFiles) :
    r.fileEntries path = .ok (r.readableEntries path) := by
  obtain ⟨entries, hentries, -⟩ := hr.files path hpath
  rw [readableEntries, hentries]
  rfl

theorem layers_eq :
    r.layers = .ok (r.configFiles.map r.readableEntries ++
      [entriesOf (environmentValue r.environment), r.plainOverrides, r.flagEntries]) := by
  unfold layers
  rw [hr.named, mapM_eq_ok fun path hpath => fileEntries_eq hr hpath,
    environmentEntries_eq hr.environment]
  rfl

/-- **The entries of a request** give each setting what its highest source gives it,
and have no other keys. -/
theorem entries_eq :
    ∃ entries, r.entries = .ok entries ∧ (∀ x : Setting, entries.lookup x.key = r.given x) ∧
      ∀ e ∈ entries, IsSettingKey e.1 := by
  refine ⟨_, by rw [entries, layers_eq hr]; rfl, fun x => ?_, fun e he => ?_⟩
  · rw [lookup_mergeAll, List.lookup_nil, Option.or_none, List.reverse_append, given, sources,
      List.findSome?_append, List.findSome?_append, ← List.map_reverse, List.findSome?_map,
      List.findSome?_map]
    refine congrArg (Option.or · _) ?_
    simp only [List.reverse_cons, List.reverse_nil, List.nil_append, List.cons_append,
      List.findSome?_cons, List.findSome?_nil, valueIn_flagEntries, valueIn_plainOverrides,
      valueIn_entriesOf]
  · obtain ⟨layer, hlayer, e', he', hkey⟩ := exists_of_mem_mergeAll he
    rw [← hkey]
    rcases List.mem_append.mp hlayer with hfile | hlast
    · obtain ⟨path, hpath, rfl⟩ := List.mem_map.mp hfile
      obtain ⟨entries, hentries, hkeys⟩ := hr.files path hpath
      rw [readableEntries, hentries] at he'
      exact hkeys e' he'
    · simp only [List.mem_cons, List.not_mem_nil, or_false] at hlast
      rcases hlast with rfl | rfl | rfl
      · exact isSettingKey_of_mem_entriesOf he'
      · obtain ⟨hpresent, hverbose, hquiet⟩ := r.mem_plainOverrides he'
        rcases hr.overrides e' hpresent with h | h | h
        · exact absurd h hverbose
        · exact absurd h hquiet
        · exact h
      · exact r.isSettingKey_of_mem_flagEntries he'

end

end Request

/-! ### Loading -/

/-- Settings hang on the values of the keys of settings alone. -/
theorem ofEntries_congr {a b : Entries} (h : ∀ x : Setting, a.lookup x.key = b.lookup x.key) :
    Settings.ofEntries a = Settings.ofEntries b := by
  unfold Settings.ofEntries
  exact congrArg Settings.mk (funext fun x => by rw [h x])

/-- Settings are loaded from the entries of a request if these have no other keys. -/
theorem loadSettings_eq {r : Request} {entries : Entries} (h : r.entries = .ok entries) :
    loadSettings r = if (unknownKeys entries).isEmpty then
        (makeSettings entries).mapError Problem.reported
      else .error (.failure (.unknownSettings (unknownKeys entries))) := by
  unfold loadSettings
  rw [h]
  show (if (!(unknownKeys entries).isEmpty) = true then _ else _) = _
  cases (unknownKeys entries).isEmpty with
  | false => rfl
  | true =>
    rw [if_neg (by decide), if_pos rfl]
    cases makeSettings entries with
    | ok s => rfl
    | error problem => cases problem <;> rfl

theorem loadSettings_of_entries {r : Request} {entries : Entries} (h : r.entries = .ok entries)
    (hkeys : ∀ e ∈ entries, IsSettingKey e.1) :
    loadSettings r = (makeSettings entries).mapError Problem.reported := by
  rw [loadSettings_eq h, unknownKeys_eq_nil hkeys]
  rfl

theorem loadSettings_chosen {r : Request} (hr : r.IsReadable) :
    loadSettings r = (makeSettings r.chosen).mapError Problem.reported := by
  obtain ⟨entries, hentries, hlookup, hkeys⟩ := Request.entries_eq hr
  have hsettings : Settings.ofEntries entries = Settings.ofEntries r.chosen :=
    ofEntries_congr fun x => by rw [hlookup, Request.chosen, lookup_entriesOf]
  rw [loadSettings_of_entries hentries hkeys]
  unfold makeSettings
  rw [hsettings]

/-! ### What makes no difference -/

theorem findSome?_congr {x : Setting} {sources sources' : List (Setting → Option Value)}
    (h : List.Forall₂ (fun s s' => s x = s' x) sources sources') :
    (sources.findSome? fun source => source x) = sources'.findSome? fun source => source x := by
  induction h with
  | nil => rfl
  | cons hs _ ih => rw [List.findSome?_cons, List.findSome?_cons, hs, ih]

/-- **A source that is hidden** for a setting by a higher one may give it anything. -/
theorem given_of_hidden {r r' : Request} {x : Setting}
    {above below below' : List (Setting → Option Value)}
    (hr : r.sources = above ++ below) (hr' : r'.sources = above ++ below')
    (hx : ∃ source ∈ above, (source x).isSome = true)
    (hbelow : List.Forall₂ (fun s s' => ∀ y, y ≠ x → s y = s' y) below below') :
    r'.given = r.given := by
  funext y
  rw [Request.given, Request.given, hr, hr', List.findSome?_append, List.findSome?_append]
  by_cases hy : y = x
  · subst hy
    obtain ⟨v, hv⟩ := Option.isSome_iff_exists.mp (List.findSome?_isSome_iff.mpr hx)
    rw [hv, Option.some_or, Option.some_or]
  · rw [findSome?_congr (hbelow.imp fun _ _ h => h y hy)]

namespace Request

/-- A request without the absent values that the caller gives. -/
def withoutAbsent (r : Request) : Request := { r with overrides := r.presentOverrides }

theorem lookup_filter_of_nodup {entries : Entries} (h : (entries.map Prod.fst).Nodup)
    (p : String × Value → Bool) (key : String) :
    (entries.filter p).lookup key = (entries.lookup key).filter fun v => p (key, v) := by
  induction entries with
  | nil => rfl
  | cons e entries ih =>
    obtain ⟨hnot, hnodup⟩ := List.nodup_cons.mp h
    have hrest := ih hnodup
    rw [List.filter_cons, lookup_cons_eq]
    by_cases hkey : key = e.1
    · have hnone : entries.lookup key = none := by
        by_contra hne
        obtain ⟨e', he', hk⟩ := (lookup_ne_none_iff _ _).mp hne
        exact hnot (List.mem_map.mpr ⟨e', he', hk.trans hkey⟩)
      rw [if_pos hkey, hkey, Option.filter_some]
      split
      · exact (lookup_cons_eq ..).trans (if_pos rfl)
      · rw [← hkey, hrest, hnone, Option.filter_none]
    · rw [if_neg hkey, ← hrest]
      split
      · exact (lookup_cons_eq ..).trans (if_neg hkey)
      · rfl

/-- A flag that is absent is not given. -/
theorem hasFlag_withoutAbsent {r : Request} (h : (r.overrides.map Prod.fst).Nodup)
    (flag : String) : r.withoutAbsent.hasFlag flag = r.hasFlag flag := by
  unfold hasFlag withoutAbsent presentOverrides
  dsimp only
  rw [lookup_filter_of_nodup h]
  cases r.overrides.lookup flag with
  | none => rfl
  | some v => cases v <;> rfl

theorem plainOverrides_withoutAbsent (r : Request) :
    r.withoutAbsent.plainOverrides = r.plainOverrides := by
  unfold plainOverrides withoutAbsent presentOverrides
  dsimp only
  rw [List.filter_filter]
  refine List.filter_congr fun e _ => ?_
  obtain ⟨k, v⟩ := e
  cases v <;> simp [Value.isAbsent]

end Request

/-- **An absent value** of the caller is the same as none. -/
theorem loadSettings_withoutAbsent {r : Request} (h : (r.overrides.map Prod.fst).Nodup) :
    loadSettings r.withoutAbsent = loadSettings r := by
  have hflags : r.withoutAbsent.flagEntries = r.flagEntries := by
    unfold Request.flagEntries
    rw [Request.hasFlag_withoutAbsent h, Request.hasFlag_withoutAbsent h]
  have hlayers : r.withoutAbsent.layers = r.layers := by
    unfold Request.layers
    rw [Request.plainOverrides_withoutAbsent, hflags]
    rfl
  unfold loadSettings Request.entries
  rw [hlayers]

/-- The table that a configuration file holds, if it holds one. -/
def documentOf? (content : ByteArray) : Option Entries :=
  (Text.decode? content).bind fun text =>
    (Toml.parse (String.ofList (Text.unifyLines text.toList))).toOption

/-- Whether two entries of disks are the same, or files that hold the same under the
program's own key. -/
def SameSettings (e e' : Except DiskFault Entry) : Prop :=
  e = e' ∨ ∃ content content' table table' v, e = .ok (.file content) ∧ e' = .ok (.file content') ∧
    documentOf? content = some table ∧ documentOf? content' = some table' ∧
    table.lookup "gosca" = some v ∧ table'.lookup "gosca" = some v

theorem exists_of_documentOf? {content : ByteArray} {table : Entries}
    (h : documentOf? content = some table) : ∃ text, Text.decode? content = some text ∧
      Toml.parse (String.ofList (Text.unifyLines text.toList)) = .ok table := by
  obtain ⟨text, htext, hparse⟩ := Option.bind_eq_some_iff.mp h
  refine ⟨text, htext, ?_⟩
  cases hp : Toml.parse (String.ofList (Text.unifyLines text.toList)) with
  | ok t =>
    rw [hp] at hparse
    exact congrArg _ (Option.some.inj hparse)
  | error fault =>
    rw [hp] at hparse
    exact nomatch hparse

/-- Files that hold the same under the program's own key give the same. -/
theorem configFileEntries_congr {content content' : ByteArray} {table table' : Entries} {v : Value}
    (h : documentOf? content = some table) (h' : documentOf? content' = some table')
    (hv : table.lookup "gosca" = some v) (hv' : table'.lookup "gosca" = some v) (path : String) :
    configFileEntries path content = configFileEntries path content' := by
  obtain ⟨text, htext, hparse⟩ := exists_of_documentOf? h
  obtain ⟨text', htext', hparse'⟩ := exists_of_documentOf? h'
  have hentries : configTextEntries text = configTextEntries text' := by
    unfold configTextEntries
    simp only [hparse, hparse', hv, hv']
    cases v <;> rfl
  unfold configFileEntries
  rw [htext, htext']
  dsimp only
  rw [hentries]

/-- **What a file says outside its own table** makes no difference. -/
theorem loadSettings_of_sameSettings {r : Request} {d : Disk}
    (hworking : d.workingDirectory = r.disk.workingDirectory)
    (hsame : ∀ path ∈ r.configFiles,
      SameSettings (r.disk.find (displayPath path)) (d.find (displayPath path))) :
    loadSettings { r with disk := d } = loadSettings r := by
  have hfiles : Request.configFiles { r with disk := d } = r.configFiles := by
    unfold Request.configFiles Disk.workingPath
    rw [hworking]
  have hentries : ∀ path ∈ r.configFiles,
      Request.fileEntries { r with disk := d } path = r.fileEntries path := by
    intro path hpath
    unfold Request.fileEntries
    rcases hsame path hpath with h | ⟨content, content', table, table', v, h, h', ht, ht', hv, hv'⟩
    · rw [h]
    · rw [h, h']
      exact configFileEntries_congr ht' ht hv' hv path
  have hnamed : Request.checkConfigFile { r with disk := d } = r.checkConfigFile := by
    unfold Request.checkConfigFile
    cases hconfig : r.configFile with
    | none => rfl
    | some path =>
      have hpath : path ∈ r.configFiles := by
        unfold Request.configFiles
        rw [hconfig]
        exact List.mem_append_right _ (List.mem_singleton_self path)
      dsimp only
      rcases hsame path hpath with h | ⟨content, content', table, table', v, h, h', -⟩
      · rw [h]
      · rw [h, h']
  have hlayers : Request.layers { r with disk := d } = r.layers := by
    unfold Request.layers
    rw [hnamed, hfiles, mapM_congr hentries]
    rfl
  unfold loadSettings Request.entries
  rw [hlayers]

/-- **The settings of a request** are those that the highest sources give, if all of
them can be read.  What a source gives a setting makes no difference if a higher one
gives it anything, nor does an absent value of the caller, nor what a file says
outside the program's own table. -/
theorem loadSettings_eq_chosen {r : Request} (hr : r.IsReadable) :
    loadSettings r = (makeSettings r.chosen).mapError Problem.reported ∧
      (∀ (r' : Request) (x : Setting) (above below below' : List (Setting → Option Value)),
        r'.IsReadable → r.sources = above ++ below → r'.sources = above ++ below' →
        (∃ source ∈ above, (source x).isSome = true) →
        List.Forall₂ (fun s s' => ∀ y, y ≠ x → s y = s' y) below below' →
          loadSettings r' = loadSettings r) ∧
      ((r.overrides.map Prod.fst).Nodup → loadSettings r.withoutAbsent = loadSettings r) ∧
      ∀ d : Disk, d.workingDirectory = r.disk.workingDirectory →
        (∀ path ∈ r.configFiles,
          SameSettings (r.disk.find (displayPath path)) (d.find (displayPath path))) →
        loadSettings { r with disk := d } = loadSettings r := by
  refine ⟨loadSettings_chosen hr, ?_, loadSettings_withoutAbsent,
    fun d => loadSettings_of_sameSettings⟩
  intro r' x above below below' hr' hsources hsources' hx hbelow
  rw [loadSettings_chosen hr, loadSettings_chosen hr', Request.chosen, Request.chosen,
    given_of_hidden hsources hsources' hx hbelow]

/-- A request with a setting from each of its sources. -/
def layeredRequest : Request where
  disk :=
    { root :=
        [("home", .directory [(".gosca.toml", .file "workers = 2\n".toUTF8)]),
          ("work", .directory
            [("gosca.toml", .file "[gosca]\ntop = 3\n".toUTF8),
              ("named.toml", .file "over = 5\n".toUTF8)])]
      workingDirectory := ["work"] }
  home := "/home"
  environment name := if name = "GOSCA_OVER" then some "6" else none
  configFile := some "named.toml"
  overrides := [("top", .int 7), ("workers", .none), ("quiet", .bool true)]

theorem configFiles_layeredRequest : layeredRequest.configFiles =
    ["/home/.gosca.toml", "/work/gosca.toml", "named.toml"] := by
  rfl

theorem fileEntries_home : layeredRequest.fileEntries "/home/.gosca.toml" =
    .ok [("workers", .int 2)] :=
  (Request.fileEntries_of_find "workers = 2\n".toUTF8 (by rfl)).trans
    (configFileEntries_of_integers [("workers", 2)] (by decide +kernel))

theorem fileEntries_project : layeredRequest.fileEntries "/work/gosca.toml" =
    .ok [("top", .int 3)] :=
  (Request.fileEntries_of_find "[gosca]\ntop = 3\n".toUTF8 (by rfl)).trans
    (configFileEntries_of_integers [("top", 3)] (by decide +kernel))

theorem fileEntries_named : layeredRequest.fileEntries "named.toml" =
    .ok [("over", .int 5)] :=
  (Request.fileEntries_of_find "over = 5\n".toUTF8 (by rfl)).trans
    (configFileEntries_of_integers [("over", 5)] (by decide +kernel))

theorem environment_layeredRequest (x : Setting) :
    layeredRequest.environment x.variable = if x = .bound then some "6" else none := by
  have hvariable : x.variable = "GOSCA_OVER" ↔ x = .bound := by cases x <;> decide
  exact if_congr hvariable rfl rfl

theorem isReadable_layeredRequest : layeredRequest.IsReadable where
  named := by rfl
  files path hpath := by
    rw [configFiles_layeredRequest] at hpath
    simp only [List.mem_cons, List.not_mem_nil, or_false] at hpath
    rcases hpath with rfl | rfl | rfl
    · exact ⟨_, fileEntries_home, by decide⟩
    · exact ⟨_, fileEntries_project, by decide⟩
    · exact ⟨_, fileEntries_named, by decide⟩
  environment x raw hraw := by
    rw [environment_layeredRequest] at hraw
    split at hraw
    · rename_i hx
      rw [hx, ← Option.some.inj hraw]
      exact ⟨.int 6, by rfl⟩
    · cases hraw
  overrides := by decide

theorem given_layeredRequest (x : Setting) : layeredRequest.given x =
    [("workers", .int 2), ("over", .int 6), ("top", .int 7),
      ("verbosity", .text "quiet")].lookup x.key := by
  have hfiles : layeredRequest.configFiles.reverse.map layeredRequest.fileValue =
      [fun x => valueIn [("over", .int 5)] x.key,
        fun x => valueIn [("top", .int 3)] x.key,
        fun x => valueIn [("workers", .int 2)] x.key] := by
    rw [configFiles_layeredRequest, ← Request.fileValue_eq fileEntries_home,
      ← Request.fileValue_eq fileEntries_project, ← Request.fileValue_eq fileEntries_named]
    rfl
  have henvironment : environmentValue layeredRequest.environment x =
      if x = .bound then some (.int 6) else none := by
    have hread : Setting.readVariable .bound "6" = .ok (.int 6) := by rfl
    rw [environmentValue, environment_layeredRequest]
    split
    · rename_i hx
      rw [hx, Option.bind_some, hread]
      rfl
    · rfl
  rw [Request.given, Request.sources, hfiles]
  simp only [List.cons_append, List.nil_append, List.findSome?_cons, henvironment]
  cases x <;> rfl

/-- Each source gives the settings that no higher one gives. -/
theorem loadSettings_layeredRequest :
    layeredRequest.IsReadable ∧ ∃ s, loadSettings layeredRequest = .ok s ∧
      s.value .top = .int 7 ∧ s.value .bound = .int 6 ∧ s.value .workers = .int 2 ∧
      s.value .verbosity = .text "quiet" ∧ s.value .metric = .text "cyclomatic" := by
  have hr := isReadable_layeredRequest
  have hchosen : layeredRequest.chosen = [("workers", .int 2), ("top", .int 7), ("over", .int 6),
      ("verbosity", .text "quiet")] := by
    rw [Request.chosen, funext given_layeredRequest]
    rfl
  have hmake : makeSettings layeredRequest.chosen =
      .ok (Settings.ofEntries layeredRequest.chosen) := by
    rw [hchosen]
    exact makeSettings_of_isOk (by decide +kernel)
  refine ⟨hr, Settings.ofEntries layeredRequest.chosen, ?_, ?_⟩
  · rw [(loadSettings_eq_chosen hr).1, hmake]
    rfl
  · rw [hchosen]
    exact ⟨by rfl, by rfl, by rfl, by rfl, by rfl⟩

end GoComplexity
