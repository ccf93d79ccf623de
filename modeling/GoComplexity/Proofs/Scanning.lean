/-
# What a scan finds

A scan of paths comes to the sources under each of them in turn, and to a failure
for each path that leads nowhere.  No name on a disk holds a null, so no path
through which a file is found holds one, if the path that was asked for holds none.

Key definitions: `Disk.EachDirectory`, `Disk.NoNull`, `Disk.HasPaths`, `sourcesUnder`,
`sourcesOf`, `unresolved?`.
Key theorems: `Entry.EachDirectory.at?`, `Entry.EachDirectory.walk`, `endsWithAny_texts`,
`scanPath_yields`, `scan_yields`, `holdsNull_of_mem_sourcesOf`.
-/
import GoComplexity.Proofs.Outcome
import Mathlib.Data.List.Basic

namespace GoComplexity

/-! ### Entries at chains of names -/

/-- The entry at a chain of names is that at the rest of the chain in the entry of the first. -/
theorem at?_cons_directory (name : String) (names : List String)
    (entries : List (String × Entry)) :
    Entry.at? (name :: names) (.directory entries) =
      (entries.lookup name).bind (Entry.at? names) := by
  rw [Entry.at?]
  cases entries.lookup name <;> rfl

theorem mem_of_lookup_eq_some {α : Type} {entries : List (String × α)} {name : String} {a : α}
    (h : entries.lookup name = some a) : (name, a) ∈ entries := by
  obtain ⟨before, after, rfl, -⟩ := List.lookup_eq_some_iff.mp h
  exact List.mem_append_right before List.mem_cons_self

/-! ### What holds of the names in each directory -/

section

variable (P : List String → Prop)

mutual

/-- Whether a condition holds of the names in each directory under an entry. -/
def Entry.EachDirectory : Entry → Prop
  | .directory entries => P (entries.map Prod.fst) ∧ EachBelow entries
  | .file _ | .locked | .link _ => True

/-- Whether a condition holds of the names in each directory under the entries of a list. -/
def EachBelow : List (String × Entry) → Prop
  | [] => True
  | (_, e) :: rest => e.EachDirectory ∧ EachBelow rest

end

/-- Whether a condition holds of the names in each directory of a disk. -/
def Disk.EachDirectory (d : Disk) : Prop := (Entry.directory d.root).EachDirectory P

mutual

/-- What can be checked of names can be checked of those in each directory. -/
def Entry.decideEachDirectory [DecidablePred P] : (e : Entry) → Decidable (e.EachDirectory P)
  | .directory entries =>
    have := decideEachBelow entries
    inferInstanceAs (Decidable (P (entries.map Prod.fst) ∧ EachBelow P entries))
  | .file _ => .isTrue trivial
  | .locked => .isTrue trivial
  | .link _ => .isTrue trivial

/-- What can be checked of names can be checked of those in each directory of a list. -/
def decideEachBelow [DecidablePred P] :
    (entries : List (String × Entry)) → Decidable (EachBelow P entries)
  | [] => .isTrue trivial
  | (_, e) :: rest =>
    have := e.decideEachDirectory
    have := decideEachBelow rest
    inferInstanceAs (Decidable (e.EachDirectory P ∧ EachBelow P rest))

end

instance [DecidablePred P] (d : Disk) : Decidable (d.EachDirectory P) :=
  Entry.decideEachDirectory P _

end

section

variable {P : List String → Prop}

theorem EachBelow.mem : ∀ {entries : List (String × Entry)}, EachBelow P entries →
    ∀ {e : String × Entry}, e ∈ entries → e.2.EachDirectory P
  | [], _, _, he => absurd he List.not_mem_nil
  | _ :: _, h, _, he => by
    rw [EachBelow] at h
    rcases List.mem_cons.mp he with rfl | he
    · exact h.1
    · exact h.2.mem he

/-- What holds of each directory under an entry holds of each under what it leads to. -/
theorem Entry.EachDirectory.at? : ∀ {names : List String} {e e' : Entry}, e.EachDirectory P →
    e.at? names = some e' → e'.EachDirectory P
  | [], e, e', h, he => by
    rw [Entry.at?] at he
    exact Option.some.inj he ▸ h
  | name :: names, .directory entries, e', h, he => by
    rw [Entry.EachDirectory] at h
    rw [at?_cons_directory] at he
    obtain ⟨below, hbelow, he⟩ := Option.bind_eq_some_iff.mp he
    exact (h.2.mem (mem_of_lookup_eq_some hbelow)).at? he
  | _ :: _, .file _, _, _, he => nomatch he
  | _ :: _, .locked, _, _, he => nomatch he
  | _ :: _, .link _, _, _, he => nomatch he

theorem Disk.EachDirectory.entryAt? {d : Disk} (h : d.EachDirectory P) {place : List String}
    {e : Entry} (he : d.entryAt? place = some e) : e.EachDirectory P :=
  Entry.EachDirectory.at? h he

end

/-! ### Names without a null -/

/-- Whether no name of a list holds a null. -/
def NamesNoNull (names : List String) : Prop := ∀ name ∈ names, holdsNull name = false

instance : DecidablePred NamesNoNull := fun names =>
  inferInstanceAs (Decidable (∀ name ∈ names, holdsNull name = false))

/-- Whether no name on a disk holds a null. -/
def Disk.NoNull (d : Disk) : Prop := d.EachDirectory NamesNoNull

instance (d : Disk) : Decidable d.NoNull := inferInstanceAs (Decidable (d.EachDirectory _))

theorem holdsNull_append (a b : String) : holdsNull (a ++ b) = (holdsNull a || holdsNull b) := by
  unfold holdsNull
  rw [String.toList_append]
  exact List.contains_append

theorem holdsNull_joinPath (directory name : String) :
    holdsNull (joinPath directory name) = (holdsNull directory || holdsNull name) := by
  have hslash : holdsNull "/" = false := by decide
  unfold joinPath
  split
  · exact holdsNull_append ..
  · rw [holdsNull_append, holdsNull_append, hslash, Bool.or_false]

theorem mem_sortByName {α : Type} {xs : List (String × α)} {x : String × α} :
    x ∈ sortByName xs ↔ x ∈ xs :=
  List.mem_mergeSort

/-- Things that are in the order of their names stay as they are. -/
theorem sortByName_of_pairwise {α : Type} {xs : List (String × α)}
    (h : xs.Pairwise fun a b => ¬ b.1 < a.1) : sortByName xs = xs :=
  List.mergeSort_of_pairwise (h.imp fun hab => by simpa using hab)

/-- The path through which something is found. -/
def Found.path : Found → String
  | .file _ path => path
  | .unread path _ => path

section

variable (d : Disk)

mutual

/-- Nothing that a walk comes upon is found through a null. -/
theorem Entry.EachDirectory.walk : ∀ {e : Entry}, e.EachDirectory NamesNoNull →
    ∀ {place : List String} {shown : String}, holdsNull shown = false →
    ∀ f ∈ GoComplexity.walk d place shown e, holdsNull f.path = false
  | .directory entries, h, place, shown, hshown, f, hf => by
    rw [Entry.EachDirectory] at h
    have hjoined : ∀ e ∈ entries, holdsNull (joinPath shown e.1) = false := by
      intro e he
      rw [holdsNull_joinPath, hshown, h.1 e.1 (List.mem_map_of_mem he)]
      rfl
    rw [GoComplexity.walk] at hf
    split at hf
    · rw [List.mem_singleton.mp hf]
      exact hshown
    · rcases List.mem_append.mp hf with hf | hf
      · obtain ⟨e, he, rfl⟩ := List.mem_map.mp hf
        exact hjoined e (List.mem_filter.mp (mem_sortByName.mp he)).1
      · obtain ⟨found, hfound, hf⟩ := List.mem_flatMap.mp hf
        exact h.2.walkAll hjoined found (mem_sortByName.mp hfound) f hf
  | .locked, _, _, _, hshown, f, hf => by
    rw [GoComplexity.walk] at hf
    rw [List.mem_singleton.mp hf]
    exact hshown
  | .file _, _, _, _, _, _, hf => absurd hf List.not_mem_nil
  | .link _, _, _, _, _, _, hf => absurd hf List.not_mem_nil

theorem EachBelow.walkAll : ∀ {entries : List (String × Entry)}, EachBelow NamesNoNull entries →
    ∀ {place : List String} {shown : String},
    (∀ e ∈ entries, holdsNull (joinPath shown e.1) = false) →
    ∀ found ∈ GoComplexity.walkAll d place shown entries, ∀ f ∈ found.2, holdsNull f.path = false
  | [], _, _, _, _, _, hfound, _, _ => absurd hfound List.not_mem_nil
  | (name, e) :: rest, h, place, shown, hjoined, found, hfound, f, hf => by
    rw [EachBelow] at h
    rw [GoComplexity.walkAll] at hfound
    rcases List.mem_cons.mp hfound with rfl | hfound
    · exact h.1.walk (hjoined _ List.mem_cons_self) f hf
    · exact h.2.walkAll (fun e he => hjoined e (List.mem_cons_of_mem _ he)) found hfound f hf

end

end

/-! ### The sources under a path -/

/-- Whether a name ends in one of several endings. -/
def endsInOneOf (extensions : List String) (name : String) : Bool :=
  extensions.any fun ending => ending.toList.isSuffixOf name.toList

/-- Whether paths exist on a disk. -/
def Disk.HasPaths (d : Disk) (paths : List String) : Prop :=
  ∀ path ∈ paths, holdsNull path = false ∧ ∃ place, d.resolve path = .ok place

/-- The failure of a path that leads nowhere. -/
def unresolved? (d : Disk) (path : String) : Option Failure :=
  match d.resolve path with
  | .error fault => some (.fileAccess path fault.reason)
  | .ok _ => none

/-- The path of a file whose name ends in one of the extensions. -/
def Found.candidate? (extensions : List String) : Found → Option String
  | .file name path => if endsInOneOf extensions name then some path else none
  | .unread _ _ => none

/-- The files under a path that may count: a file whatever its name, and in a
directory those whose names end in one of the extensions. -/
def candidatesUnder (d : Disk) (extensions : List String) (path : String) : List String :=
  match d.resolve path with
  | .error _ => []
  | .ok place =>
    match (d.entryAt? place).filter Entry.isDirectory with
    | some e => (walk d place path e).filterMap (Found.candidate? extensions)
    | none => [path]

/-- The files under a path that count: those that the pattern does not leave out. -/
def sourcesUnder (d : Disk) (pattern : Option Regex) (extensions : List String)
    (path : String) : List String :=
  (candidatesUnder d extensions path).filter fun p => !isIgnored pattern p

/-- The files under paths that count. -/
def sourcesOf (d : Disk) (pattern : Option Regex) (extensions : List String)
    (paths : List String) : List String :=
  paths.flatMap (sourcesUnder d pattern extensions)

theorem endsWithAny_texts (extensions : List String) (name : String) :
    endsWithAny name (extensions.map Value.text) = .ok (endsInOneOf extensions name) := by
  induction extensions with
  | nil => rfl
  | cons ending rest ih =>
    rw [List.map_cons, endsWithAny, endsInOneOf, List.any_cons]
    split
    · rename_i h
      rw [h, Bool.true_or]
    · rename_i h
      rw [ih, Bool.eq_false_iff.mpr h, Bool.false_or]
      rfl

theorem Found.path_of_candidate? {extensions : List String} {f : Found} {p : String}
    (h : f.candidate? extensions = some p) : f.path = p := by
  cases f with
  | file name path => exact Option.some.inj (Option.ite_none_right_eq_some.mp h).2
  | unread path fault => exact nomatch h

/-- No file is found through a null, if the path that is asked for holds none. -/
theorem holdsNull_of_mem_sourcesOf {d : Disk} (hdisk : d.NoNull) {paths : List String}
    (hpaths : ∀ path ∈ paths, holdsNull path = false) {pattern : Option Regex}
    {extensions : List String} : ∀ p ∈ sourcesOf d pattern extensions paths,
      holdsNull p = false := by
  intro p hp
  obtain ⟨path, hpath, hp⟩ := List.mem_flatMap.mp hp
  have hcandidate := (List.mem_filter.mp hp).1
  unfold candidatesUnder at hcandidate
  split at hcandidate
  · exact absurd hcandidate List.not_mem_nil
  · split at hcandidate
    · rename_i e hentry
      obtain ⟨f, hf, hp⟩ := List.mem_filterMap.mp hcandidate
      rw [← Found.path_of_candidate? hp]
      have hat := (Option.filter_eq_some_iff.mp hentry).1
      exact (Disk.EachDirectory.entryAt? hdisk hat).walk d (hpaths path hpath) f hf
    · rw [List.mem_singleton.mp hcandidate]
      exact hpaths path hpath

/-! ### What a scan comes to -/

theorem Run.filterMapM_yields {α β : Type} {f : α → Run (Option β)} {g : α → Option β} :
    ∀ {xs : List α}, (∀ x ∈ xs, (f x).Yields (.ok (g x))) →
      (xs.filterMapM f).Yields (.ok (xs.filterMap g))
  | [], _ => fun _ => rfl
  | x :: xs, h => by
    have ih := filterMapM_yields fun y hy => h y (List.mem_cons_of_mem _ hy)
    rw [List.filterMapM_cons, List.filterMap_cons]
    refine (h x List.mem_cons_self).bind (g := fun o => .ok (match o with
      | none => xs.filterMap g
      | some b => b :: xs.filterMap g)) fun o _ => ?_
    cases o with
    | none => exact ih
    | some b => exact ih.bind (g := fun bs => .ok (b :: bs)) fun _ _ => Run.yields_pure _

theorem takePath_yields (rules : ScanRules) (path : String) :
    (takePath rules path).Yields
      (.ok ((some path).filter fun p => !isIgnored rules.pattern p)) := by
  unfold takePath
  rw [Option.filter_some]
  cases isIgnored rules.pattern path with
  | true => exact (Run.yields_pure none).after (Run.yields_log _ _ _)
  | false => exact Run.yields_pure (some path)

section

variable {d : Disk} {rules : ScanRules} {extensions : List String}
  (hextensions : rules.extensions = extensions.map Value.text)

include hextensions

theorem takeFound_yields (f : Found) :
    (takeFound rules f).Yields
      (.ok ((f.candidate? extensions).filter fun p => !isIgnored rules.pattern p)) := by
  cases f with
  | unread path fault => exact (Run.yields_pure none).after (Run.yields_log _ _ _)
  | file name path =>
    have hends : (Run.ofTyped (endsWithAny name rules.extensions)).Yields
        (.ok (endsInOneOf extensions name)) := by
      rw [hextensions, endsWithAny_texts]
      exact Run.yields_pure _
    refine hends.bind (g := fun b => .ok ((if b = true then some path else none).filter fun p =>
      !isIgnored rules.pattern p)) fun b _ => ?_
    cases b with
    | false => exact Run.yields_pure none
    | true => exact takePath_yields rules path

theorem takeAll_yields (found : List Found) :
    (found.filterMapM (takeFound rules)).Yields
      (.ok ((found.filterMap (Found.candidate? extensions)).filter fun p =>
        !isIgnored rules.pattern p)) := by
  rw [List.filter_filterMap]
  exact Run.filterMapM_yields fun f _ => takeFound_yields hextensions f

/-- **The scan of a path** comes to the sources under it, and to a failure if it
leads nowhere. -/
theorem scanPath_yields {path : String} (hpath : holdsNull path = false) :
    (scanPath d rules path).Yields
      (.ok (sourcesUnder d rules.pattern extensions path, (unresolved? d path).toList)) := by
  have hfile : (takePath rules path >>= fun o => pure (o.toList, ([] : List Failure)) :
      Run (List String × List Failure)).Yields
        (.ok ([path].filter fun p => !isIgnored rules.pattern p, [])) := by
    refine (takePath_yields rules path).bind (g := fun _ =>
      .ok ([path].filter fun p => !isIgnored rules.pattern p, [])) fun o ho => ?_
    rw [← Except.ok.inj ho, List.filter_cons, Option.filter_some]
    cases isIgnored rules.pattern path <;> exact Run.yields_pure _
  unfold scanPath sourcesUnder candidatesUnder unresolved?
  rw [hpath]
  cases d.resolve path with
  | error fault => exact (Run.yields_pure _).after (Run.yields_log _ _ _)
  | ok place =>
    dsimp only
    cases (d.entryAt? place).filter Entry.isDirectory with
    | none => exact hfile
    | some e =>
      exact (takeAll_yields hextensions _).bind (g := fun paths => .ok (paths, [])) fun _ _ =>
        Run.yields_pure _

/-- **A scan** comes to the sources under its paths, in turn, and to the failures of
those that lead nowhere. -/
theorem scan_yields {paths : List String} (hpaths : ∀ path ∈ paths, holdsNull path = false) :
    (scan d rules paths).Yields
      (.ok (sourcesOf d rules.pattern extensions paths, paths.filterMap (unresolved? d))) := by
  have hresults := Run.mapM_yields fun path hpath =>
    scanPath_yields (d := d) hextensions (hpaths path hpath)
  rw [mapM_eq_ok fun _ _ => rfl] at hresults
  refine hresults.bind (g := fun _ => .ok (sourcesOf d rules.pattern extensions paths,
    paths.filterMap (unresolved? d))) fun results hok => ?_
  rw [← Except.ok.inj hok, List.flatMap_map, List.flatMap_map,
    ← List.filterMap_eq_flatMap_toList]
  exact Run.yields_pure _

/-- A scan of paths that exist comes to no failure. -/
theorem scan_yields_of_hasPaths {paths : List String} (hpaths : d.HasPaths paths) :
    (scan d rules paths).Yields (.ok (sourcesOf d rules.pattern extensions paths, [])) := by
  have hresolved : paths.filterMap (unresolved? d) = [] := by
    refine List.filterMap_eq_nil_iff.mpr fun path hpath => ?_
    obtain ⟨place, hplace⟩ := (hpaths path hpath).2
    rw [unresolved?, hplace]
  rw [← hresolved]
  exact scan_yields hextensions fun path hpath => (hpaths path hpath).1

end

end GoComplexity
