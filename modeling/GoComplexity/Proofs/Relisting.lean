/-
# The order in which directories are listed

A system lists the entries of a directory in an order of its own.  A disk listed in
another order leads each path to the same place: the names in a directory are
different, so an entry is looked up alike in any order of them.  A walk sorts the files
of a directory, and then its directories, by their names, so it finds the same files in
the same order, and a scan comes to the same sources and the same failures.

Key definitions: `Entry.Relists`, `Disk.Relists`, `namesIn`.
Key theorems: `Disk.Relists.resolve`, `filesIn_relisted`, `walk_relisted`,
`scan_relisted`, `scan_listing`.
-/
import GoComplexity.Proofs.Listing
import GoComplexity.Proofs.Unresolved
import Mathlib.Data.List.Perm.Basic

namespace GoComplexity

mutual

/-- Whether two entries differ at most in the order in which directories are listed: the
entries of one directory are those of the other, each listed anew, in any order. -/
inductive Entry.Relists : Entry → Entry → Prop
  | file (content : ByteArray) : Entry.Relists (.file content) (.file content)
  | locked : Entry.Relists .locked .locked
  | link (target : String) : Entry.Relists (.link target) (.link target)
  | directory {entries between entries' : List (String × Entry)} :
    EntriesRelist entries between → between.Perm entries' →
    Entry.Relists (.directory entries) (.directory entries')

/-- Whether the entries of two lists have the same names, and differ at most in the order in
which directories are listed. -/
inductive EntriesRelist : List (String × Entry) → List (String × Entry) → Prop
  | nil : EntriesRelist [] []
  | cons {name : String} {e e' : Entry} {rest rest' : List (String × Entry)} :
    Entry.Relists e e' → EntriesRelist rest rest' →
    EntriesRelist ((name, e) :: rest) ((name, e') :: rest')

end

/-- Whether two disks differ at most in the order in which directories are listed. -/
structure Disk.Relists (d d' : Disk) : Prop where
  root : (Entry.directory d.root).Relists (.directory d'.root)
  workingDirectory : d.workingDirectory = d'.workingDirectory

/-! ### Looking up -/

theorem optionRel_iff {α : Type} {R : α → α → Prop} {a b : Option α} : Option.Rel R a b ↔
    (a = none ∧ b = none) ∨ ∃ x y, a = some x ∧ b = some y ∧ R x y := by
  constructor
  · rintro (hxy | _)
    · exact Or.inr ⟨_, _, rfl, rfl, hxy⟩
    · exact Or.inl ⟨rfl, rfl⟩
  · rintro (⟨rfl, rfl⟩ | ⟨x, y, rfl, rfl, hxy⟩)
    · exact .none
    · exact .some hxy

theorem optionRel_bind {α : Type} {R : α → α → Prop} {a b : Option α} {f g : α → Option α}
    (h : Option.Rel R a b) (hfg : ∀ x y, a = some x → R x y → Option.Rel R (f x) (g y)) :
    Option.Rel R (a.bind f) (b.bind g) := by
  cases h with
  | none => exact .none
  | some hxy => exact hfg _ _ rfl hxy

section

variable {entries entries' : List (String × Entry)}

theorem EntriesRelist.map_fst (h : EntriesRelist entries entries') :
    entries.map Prod.fst = entries'.map Prod.fst := by
  induction entries generalizing entries' with
  | nil => cases h; rfl
  | cons e entries ih =>
    cases h with
    | cons _ h => rw [List.map_cons, List.map_cons, ih h]

theorem EntriesRelist.lookup (h : EntriesRelist entries entries') (name : String) :
    Option.Rel Entry.Relists (entries.lookup name) (entries'.lookup name) := by
  induction entries generalizing entries' with
  | nil => cases h; exact .none
  | cons e entries ih =>
    cases h with
    | cons he h =>
      rw [List.lookup_cons, List.lookup_cons]
      split
      · exact .some he
      · exact ih h

/-- Where names are different, their order does not matter. -/
theorem lookup_eq_of_perm {α : Type} {xs ys : List (String × α)} (h : (xs.map Prod.fst).Nodup)
    (hperm : xs.Perm ys) (name : String) : xs.lookup name = ys.lookup name := by
  have hys : (ys.map Prod.fst).Nodup := (hperm.map Prod.fst).nodup_iff.mp h
  refine Option.ext fun a => ?_
  rw [lookup_eq_some_iff_mem h, lookup_eq_some_iff_mem hys, hperm.mem_iff]

theorem Entry.Relists.lookup (hnodup : (entries.map Prod.fst).Nodup)
    (h : (Entry.directory entries).Relists (.directory entries')) (name : String) :
    Option.Rel Entry.Relists (entries.lookup name) (entries'.lookup name) := by
  cases h with
  | directory hbetween hperm =>
    rw [hbetween.map_fst] at hnodup
    rw [← lookup_eq_of_perm hnodup hperm]
    exact hbetween.lookup name

end

/-- The entries at a chain of names differ at most in the order of listing. -/
theorem Entry.Relists.at? : ∀ {names : List String} {e e' : Entry},
    e.EachDirectory AreEntryNames → e.Relists e' →
      Option.Rel Entry.Relists (e.at? names) (e'.at? names)
  | [], _, _, _, h => .some h
  | name :: names, .directory entries, e', hnamed, h => by
    rw [Entry.EachDirectory] at hnamed
    cases h with
    | directory hbetween hperm =>
      rw [at?_cons_directory, at?_cons_directory]
      exact optionRel_bind (Entry.Relists.lookup hnamed.1.1 (.directory hbetween hperm) name)
        fun _ _ hfound hbelow => hbelow.at? (hnamed.2.mem (mem_of_lookup_eq_some hfound))
  | _ :: _, .file _, _, _, h => by cases h; exact .none
  | _ :: _, .locked, _, _, h => by cases h; exact .none
  | _ :: _, .link _, _, _, h => by cases h; exact .none

theorem Entry.Relists.isDirectory {e e' : Entry} (h : e.Relists e') :
    e'.isDirectory = e.isDirectory := by
  cases h <;> rfl

/-! ### Following paths -/

section

variable {d d' : Disk} (hnamed : d.WellNamed) (h : d.Relists d')

include hnamed h

theorem Disk.Relists.entryAt? (place : List String) :
    Option.Rel Entry.Relists (d.entryAt? place) (d'.entryAt? place) :=
  h.root.at? hnamed

/-- Components lead as far, whatever the order of listing. -/
theorem Disk.Relists.advance (components place : List String) :
    d'.advance place components = d.advance place components := by
  induction components generalizing place with
  | nil => rw [Disk.advance, Disk.advance]
  | cons name rest ih =>
    rw [Disk.advance, Disk.advance]
    obtain ⟨hentry, hentry'⟩ | ⟨e, e', hentry, hentry', hrelists⟩ :=
      optionRel_iff.mp (h.entryAt? hnamed place)
    · rw [hentry, hentry']
    · have hwell := hnamed.entryAt? hentry
      rw [hentry, hentry']
      cases hrelists with
      | file content => rfl
      | link target => rfl
      | locked =>
        dsimp only
        rw [ih place]
      | directory hbetween hperm =>
        rw [Entry.EachDirectory] at hwell
        dsimp only
        rw [ih place, ih place.dropLast, ih (place ++ [name])]
        obtain ⟨hfound, hfound'⟩ | ⟨x, y, hfound, hfound', hbelow⟩ :=
          optionRel_iff.mp (Entry.Relists.lookup hwell.1.1 (.directory hbetween hperm) name)
        · rw [hfound, hfound']
        · rw [hfound, hfound']
          cases hbelow <;> rfl

/-- A path leads to the same place, whatever the order of listing. -/
theorem Disk.Relists.follow (links : Nat) (place components : List String) :
    d'.follow links place components = d.follow links place components := by
  induction links generalizing place components with
  | zero => rw [Disk.follow, Disk.follow, h.advance hnamed]
  | succ links ih =>
    rw [Disk.follow, Disk.follow, h.advance hnamed]
    split
    · rfl
    · rfl
    · exact ih ..

theorem Disk.Relists.resolve (path : String) : d'.resolve path = d.resolve path := by
  rw [Disk.resolve, Disk.resolve, h.follow hnamed, h.workingDirectory]

/-- An entry leads to a directory, whatever the order of listing. -/
theorem Disk.Relists.leadsToDirectory {e e' : Entry} (he : e.Relists e') (place : List String)
    (shown name : String) :
    leadsToDirectory d' place shown e' name = leadsToDirectory d place shown e name := by
  cases he with
  | file content => rfl
  | locked => rfl
  | directory hbetween hperm => rfl
  | link target =>
    unfold GoComplexity.leadsToDirectory
    dsimp only
    rw [h.follow hnamed]
    split
    · rfl
    · split
      · rename_i p _
        obtain ⟨hentry, hentry'⟩ | ⟨x, y, hentry, hentry', hxy⟩ :=
          optionRel_iff.mp (h.entryAt? hnamed p)
        · rw [hentry, hentry']
        · rw [hentry, hentry', Option.any_some, Option.any_some, hxy.isDirectory]
      · rfl

end

/-! ### Walks -/

/-- The names of a directory, each with whether it leads to a directory. -/
def namesIn (d : Disk) (place : List String) (shown : String) (entries : List (String × Entry)) :
    List (String × Bool) :=
  entries.map fun e => (e.1, leadsToDirectory d place (joinPath shown e.1) e.2 e.1)

theorem filesIn_eq (d : Disk) (place : List String) (shown : String)
    (entries : List (String × Entry)) :
    filesIn d place shown entries =
      (sortByName ((namesIn d place shown entries).filter fun e => !e.2)).map fun e =>
        .file e.1 (joinPath shown e.1) := by
  have hsort := map_sortByName
    (fun e : String × Entry => (e.1, leadsToDirectory d place (joinPath shown e.1) e.2 e.1))
    (fun _ => rfl)
    (entries.filter fun e => !leadsToDirectory d place (joinPath shown e.1) e.2 e.1)
  rw [namesIn, List.filter_map]
  refine Eq.trans ?_ (congrArg _ hsort)
  rw [List.map_map]
  rfl

theorem map_fst_namesIn (d : Disk) (place : List String) (shown : String)
    (entries : List (String × Entry)) :
    (namesIn d place shown entries).map Prod.fst = entries.map Prod.fst := by
  rw [namesIn, List.map_map]
  rfl

section

variable {d d' : Disk} (hnamed : d.WellNamed) (h : d.Relists d')

include hnamed h

theorem EntriesRelist.namesIn_eq {entries entries' : List (String × Entry)}
    (hentries : EntriesRelist entries entries') (place : List String) (shown : String) :
    namesIn d' place shown entries' = namesIn d place shown entries := by
  induction entries generalizing entries' with
  | nil => cases hentries; rfl
  | cons e entries ih =>
    cases hentries with
    | cons he hrest =>
      have hleads := h.leadsToDirectory hnamed he place
      rw [namesIn, List.map_cons, hleads]
      exact congrArg _ (ih hrest)

/-- The files of a directory, whatever the order of listing. -/
theorem filesIn_relisted {entries between entries' : List (String × Entry)}
    (hnodup : (entries.map Prod.fst).Nodup) (hbetween : EntriesRelist entries between)
    (hperm : between.Perm entries') (place : List String) (shown : String) :
    filesIn d' place shown entries' = filesIn d place shown entries := by
  have hfilter : ((namesIn d place shown entries).filter fun e => !e.2).Perm
      ((namesIn d' place shown entries').filter fun e => !e.2) := by
    rw [← hbetween.namesIn_eq hnamed h place shown]
    exact (hperm.map _).filter _
  have hnames : (((namesIn d place shown entries).filter fun e => !e.2).map Prod.fst).Nodup := by
    refine List.Nodup.sublist (List.filter_sublist.map _) ?_
    rw [map_fst_namesIn]
    exact hnodup
  rw [filesIn_eq, filesIn_eq, sortByName_eq_of_perm hnames hfilter]

end

mutual

/-- **A walk finds the same files in the same order**, whatever the order of listing. -/
theorem walk_relisted {d d' : Disk} (hnamed : d.WellNamed) (h : d.Relists d') :
    ∀ (e e' : Entry), e.EachDirectory AreEntryNames → e.Relists e' →
      ∀ (place : List String) (shown : String), walk d' place shown e' = walk d place shown e
  | .file _, _, _, he, _, _ => by cases he; rfl
  | .locked, _, _, he, _, _ => by cases he; rfl
  | .link _, _, _, he, _, _ => by cases he; rfl
  | .directory entries, _, hwell, he, place, shown => by
    rw [Entry.EachDirectory] at hwell
    cases he with
    | directory hbetween hperm =>
      have hbelow := walkAll_relisted hnamed h entries _ hwell.2 hbetween place shown
      have hnames : ((walkAll d place shown entries).map Prod.fst).Nodup := by
        rw [walkAll_eq, List.map_map]
        exact hwell.1.1
      rw [walk, walk, filesIn_relisted hnamed h hwell.1.1 hbetween hperm, ← hbelow]
      rw [← hbelow] at hnames
      rw [sortByName_eq_of_perm hnames]
      rw [walkAll_eq, walkAll_eq]
      exact hperm.map _

theorem walkAll_relisted {d d' : Disk} (hnamed : d.WellNamed) (h : d.Relists d') :
    ∀ (entries entries' : List (String × Entry)), EachBelow AreEntryNames entries →
      EntriesRelist entries entries' → ∀ (place : List String) (shown : String),
      walkAll d' place shown entries' = walkAll d place shown entries
  | [], _, _, hentries, _, _ => by cases hentries; rfl
  | (name, e) :: rest, _, hwell, hentries, place, shown => by
    rw [EachBelow] at hwell
    cases hentries with
    | cons he hrest =>
      rw [walkAll, walkAll, walk_relisted hnamed h e _ hwell.1 he,
        walkAll_relisted hnamed h rest _ hwell.2 hrest]

end

/-! ### Scans -/

section

variable {d d' : Disk} (hnamed : d.WellNamed) (h : d.Relists d')

include hnamed h

/-- **A scan comes to the same sources, failures and records**, whatever the order in which
directories are listed. -/
theorem scan_relisted (rules : ScanRules) (paths : List String) :
    scan d' rules paths = scan d rules paths := by
  have hpath : scanPath d' rules = scanPath d rules := by
    funext path
    unfold scanPath
    rw [h.resolve hnamed]
    cases d.resolve path with
    | error fault => rfl
    | ok place =>
      dsimp only
      obtain ⟨hentry, hentry'⟩ | ⟨e, e', hentry, hentry', he⟩ :=
        optionRel_iff.mp (h.entryAt? hnamed place)
      · rw [hentry, hentry']
        rfl
      · have hwalk := walk_relisted hnamed h e e' (hnamed.entryAt? hentry) he place path
        rw [hentry, hentry', Option.filter_some, Option.filter_some, he.isDirectory]
        cases e.isDirectory with
        | false => rfl
        | true =>
          rw [if_pos rfl, if_pos rfl]
          dsimp only
          rw [hwalk]
  rw [scan, scan, hpath]

end

/-- **What a scan finds.** The order in which directories are listed does not matter.  The
results for several paths follow one another, and a null in one of them ends the scan.  A
path to a file is a source whatever its name, unless the pattern leaves it out.  Below a
directory the sources are those among its entries, by their names, and then those below each
of its directories, links left out, by their names; there are none below a directory that is
locked or has too long a path.  So each entry that is no directory, leads to none, has one of
the extensions and is not left out is found exactly once. -/
theorem scan_listing {d : Disk} (hnamed : d.WellNamed) {rules : ScanRules}
    {extensions : List String} (hextensions : rules.extensions = extensions.map .text) :
    (∀ d', d.Relists d' → ∀ paths, scan d' rules paths = scan d rules paths) ∧
      (∀ paths, (scan d rules paths).Yields
        (if ∃ path ∈ paths, holdsNull path = true then .error .embeddedNull
        else .ok (paths.flatMap (sourcesUnder d rules.pattern extensions),
          paths.filterMap (unresolved? d)))) ∧
      (∀ place shown, sourcesIn d rules.pattern extensions place shown .locked = [] ∧
        ∀ entries, sourcesIn d rules.pattern extensions place shown (.directory entries) =
          if isTooLong shown then []
          else
            ((sortByName (entries.filter (isCandidate d extensions place shown))).map fun e =>
              joinPath shown e.1).filter (fun p => !isIgnored rules.pattern p) ++
            (sortByName (entries.filter fun e => e.2.isDirectory)).flatMap fun e =>
              sourcesIn d rules.pattern extensions (place ++ [e.1]) (joinPath shown e.1) e.2) ∧
      ∀ path place, d.resolve path = .ok place →
        ((∀ e, d.entryAt? place = some e → e.isDirectory = false) →
          sourcesUnder d rules.pattern extensions path =
            if isIgnored rules.pattern path then [] else [path]) ∧
        ∀ e, d.entryAt? place = some e → e.isDirectory = true →
          sourcesUnder d rules.pattern extensions path =
            sourcesIn d rules.pattern extensions place path e ∧
          (sourcesUnder d rules.pattern extensions path).Nodup ∧
          ∃ chains, IsListing d extensions place path e chains ∧
            sourcesUnder d rules.pattern extensions path =
              (chains.map (·.foldl joinPath path)).filter fun p =>
                !isIgnored rules.pattern p := by
  refine ⟨fun d' h paths => scan_relisted hnamed h rules paths, fun paths => ?_,
    fun place shown => ⟨rfl, sourcesIn_directory d extensions place rules.pattern shown⟩,
    fun path place hplace => ⟨fun hfile => ?_, fun e hentry hdirectory => ?_⟩⟩
  · split
    · rename_i hnull
      exact scan_of_null hextensions hnull
    · rename_i hnull
      exact scan_yields hextensions fun path hpath =>
        Bool.eq_false_iff.mpr fun h => hnull ⟨path, hpath, h⟩
  · have hnone : (d.entryAt? place).filter Entry.isDirectory = none :=
      Option.filter_eq_none_iff.mpr fun e he => Bool.eq_false_iff.mp (hfile e he)
    rw [sourcesUnder, candidatesUnder, hplace]
    dsimp only
    rw [hnone, List.filter_cons, List.filter_nil]
    cases isIgnored rules.pattern path <;> rfl
  · have hsome : (d.entryAt? place).filter Entry.isDirectory = some e :=
      Option.filter_eq_some_iff.mpr ⟨hentry, hdirectory⟩
    have hunder : sourcesUnder d rules.pattern extensions path =
        sourcesIn d rules.pattern extensions place path e := by
      rw [sourcesUnder, candidatesUnder, hplace]
      dsimp only
      rw [hsome]
      rfl
    have hwell := hnamed.entryAt? hentry
    obtain ⟨chains, hlisting, hpaths⟩ := exists_isListing d extensions e hwell place path
    have hchains : sourcesUnder d rules.pattern extensions path =
        (chains.map (·.foldl joinPath path)).filter fun p => !isIgnored rules.pattern p := by
      rw [hunder, sourcesIn, hpaths]
    refine ⟨hunder, ?_, chains, hlisting, hchains⟩
    rw [hchains]
    exact (hlisting.nodup_paths hwell).filter _

/-- A directory with sources, a directory that is named like one, a locked one, and links. -/
def linkedDisk : Disk where
  root := [("work", .directory
    [("a.go", .file "package a\n".toUTF8), ("b.go", .link "a.go"), ("notes", .file "".toUTF8),
      ("w.go", .locked), ("x.go", .directory [("c.go", .file "package c\n".toUTF8)]),
      ("y.go", .link "x.go")])]
  workingDirectory := ["work"]

/-- The same directory, listed the other way round. -/
def relistedDisk : Disk where
  root := [("work", .directory
    [("y.go", .link "x.go"), ("x.go", .directory [("c.go", .file "package c\n".toUTF8)]),
      ("w.go", .locked), ("notes", .file "".toUTF8), ("b.go", .link "a.go"),
      ("a.go", .file "package a\n".toUTF8)])]
  workingDirectory := ["work"]

/-- A link to a file is a source, a link to a directory is not entered, and nothing is found in
a locked one. -/
theorem scan_relistedDisk :
    linkedDisk.WellNamed ∧ linkedDisk.Relists relistedDisk ∧
      (scan relistedDisk {} ["."]).Yields (.ok (["./a.go", "./b.go", "./x.go/c.go"], [])) := by
  have hnamed : linkedDisk.WellNamed := by decide
  have hrelists : linkedDisk.Relists relistedDisk :=
    ⟨.directory (.cons (.directory (.cons (.file _) (.cons (.link _) (.cons (.file _) (.cons
      .locked (.cons (.directory (.cons (.file _) .nil) (.refl _)) (.cons (.link _) .nil))))))
      (List.reverse_perm _).symm) .nil) (.refl _), rfl⟩
  obtain ⟨horder, hscan, hbelow, hpath⟩ :=
    scan_listing hnamed (show ({} : ScanRules).extensions = [".go"].map .text from rfl)
  have hab : ¬ "b.go" < "a.go" := by decide
  have hwx : ¬ "x.go" < "w.go" := by decide
  have hsources : sourcesUnder linkedDisk none [".go"] "." =
      ["./a.go", "./b.go", "./x.go/c.go"] := by
    rw [((hpath "." ["work"] (by rfl)).2 _ (by rfl) (by rfl)).1, (hbelow _ _).2,
      if_neg (by decide)]
    show ((sortByName [("a.go", _), ("b.go", _)]).map _).filter _ ++
      (sortByName [("w.go", Entry.locked), ("x.go", .directory [("c.go", _)])]).flatMap _ = _
    rw [sortByName_of_pairwise (List.pairwise_pair.mpr hab),
      sortByName_of_pairwise (List.pairwise_pair.mpr hwx), List.flatMap_cons, List.flatMap_cons,
      (hbelow _ _).1, (hbelow _ _).2, if_neg (by decide)]
    show _ ++ ([] ++ ((((sortByName [("c.go", _)]).map _).filter _ ++
      (sortByName []).flatMap _) ++ [])) = _
    rw [sortByName_of_pairwise (List.pairwise_singleton _ _), sortByName_of_pairwise .nil]
    rfl
  refine ⟨hnamed, hrelists, ?_⟩
  have hdot := hscan ["."]
  rw [if_neg (by decide), List.flatMap_singleton, hsources] at hdot
  rw [horder _ hrelists]
  exact hdot

end GoComplexity
