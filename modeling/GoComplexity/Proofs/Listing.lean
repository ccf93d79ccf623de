/-
# The sources below a directory

The sources below a directory are those among its own entries, by their names, and
then those below each of its directories, links left out, by their names.  A source is
told by the chain of names that leads to it: the chains of a scan are in a strict
order, they are all those that lead to an entry that may be a source, and different
chains have different paths, since no name is empty or holds a slash.

Key definitions: `sourcesIn`, `isCandidate`, `Disk.WellNamed`, `ListedBefore`,
`LeadsToCandidate`, `IsListing`.
Key theorems: `sortByName_eq_of_perm`, `sourcesIn_directory`, `exists_isListing`,
`foldl_joinPath_inj`, `IsListing.nodup_paths`.
-/
import GoComplexity.Proofs.Scanning
import GoComplexity.Proofs.Sorting
import Mathlib.Data.List.Nodup
import Mathlib.Data.String.Basic
import Mathlib.Tactic.Choose

namespace GoComplexity

/-! ### The order of names -/

section

variable {α β : Type}

theorem name_trans (a b c : String × α) (hab : (!decide (b.1 < a.1)) = true)
    (hbc : (!decide (c.1 < b.1)) = true) : (!decide (c.1 < a.1)) = true := by
  simp only [Bool.not_eq_true', decide_eq_false_iff_not, not_lt] at *
  exact hab.trans hbc

theorem name_total (a b : String × α) :
    ((!decide (b.1 < a.1)) || (!decide (a.1 < b.1))) = true := by
  simp only [Bool.or_eq_true, Bool.not_eq_true', decide_eq_false_iff_not, not_lt]
  exact le_total _ _

theorem sortByName_perm (xs : List (String × α)) : (sortByName xs).Perm xs :=
  List.mergeSort_perm _ _

/-- Things may be left out before or after they are sorted. -/
theorem filter_sortByName (p : String × α → Bool) (xs : List (String × α)) :
    (sortByName xs).filter p = sortByName (xs.filter p) :=
  filter_mergeSort name_trans name_total p xs

/-- What keeps the names may be done before or after they are sorted. -/
theorem map_sortByName (f : String × α → String × β) (hf : ∀ x, (f x).1 = x.1)
    (xs : List (String × α)) : (sortByName xs).map f = sortByName (xs.map f) :=
  List.map_mergeSort fun a _ b _ => by rw [hf, hf]

/-- Things that lead to nothing may be left out. -/
theorem flatMap_filter_eq {f : α → List β} {p : α → Bool} {xs : List α}
    (h : ∀ x ∈ xs, p x = false → f x = []) : (xs.filter p).flatMap f = xs.flatMap f := by
  induction xs with
  | nil => rfl
  | cons x xs ih =>
    have hxs := ih fun y hy => h y (List.mem_cons_of_mem _ hy)
    rw [List.filter_cons, List.flatMap_cons, ← hxs]
    cases hx : p x with
    | true => rfl
    | false => rw [h x List.mem_cons_self hx]; rfl

/-- Things of different names stand in the strict order of their names. -/
theorem sortByName_pairwise {xs : List (String × α)} (h : (xs.map Prod.fst).Nodup) :
    (sortByName xs).Pairwise fun a b => a.1 < b.1 := by
  have hle : (sortByName xs).Pairwise fun a b => (!decide (b.1 < a.1)) = true :=
    List.pairwise_mergeSort name_trans name_total xs
  have hne : (sortByName xs).Pairwise fun a b => a.1 ≠ b.1 :=
    List.pairwise_map.mp (((sortByName_perm xs).map Prod.fst).nodup_iff.mpr h)
  refine (hle.and hne).imp fun {a b} hab => ?_
  simp only [Bool.not_eq_true', decide_eq_false_iff_not, not_lt] at hab
  exact lt_of_le_of_ne hab.1 hab.2

/-- Things of different names are sorted alike in whatever order they come. -/
theorem sortByName_eq_of_perm {xs ys : List (String × α)} (h : (xs.map Prod.fst).Nodup)
    (hperm : xs.Perm ys) : sortByName xs = sortByName ys := by
  have hys : (ys.map Prod.fst).Nodup := (hperm.map Prod.fst).nodup_iff.mp h
  refine List.Perm.eq_of_pairwise (fun a b _ _ hab hba => ?_) (sortByName_pairwise h)
    (sortByName_pairwise hys)
    ((sortByName_perm xs).trans (hperm.trans (sortByName_perm ys).symm))
  exact absurd hba (lt_asymm hab)

end

/-! ### The walk as a recursion -/

theorem walkAll_eq (d : Disk) (place : List String) (shown : String) :
    ∀ entries : List (String × Entry), walkAll d place shown entries =
      entries.map fun e => (e.1, walk d (place ++ [e.1]) (joinPath shown e.1) e.2)
  | [] => rfl
  | (name, e) :: rest => by rw [walkAll, walkAll_eq d place shown rest, List.map_cons]

/-- A walk goes through the files of a directory and then through its directories. -/
theorem walk_directory (d : Disk) (place : List String) {shown : String}
    (h : isTooLong shown = false) (entries : List (String × Entry)) :
    walk d place shown (.directory entries) = filesIn d place shown entries ++
      (sortByName entries).flatMap fun e => walk d (place ++ [e.1]) (joinPath shown e.1) e.2 := by
  have hmap := map_sortByName
    (fun e => (e.1, walk d (place ++ [e.1]) (joinPath shown e.1) e.2)) (fun _ => rfl) entries
  rw [walk, h, walkAll_eq, ← hmap, List.flatMap_map]
  rfl

/-- The files of a walk whose names end in one of the extensions, by their paths. -/
def candidatesIn (d : Disk) (extensions : List String) (place : List String) (shown : String)
    (e : Entry) : List String :=
  (walk d place shown e).filterMap (Found.candidate? extensions)

/-- The sources below an entry that stands at a place and is shown by a path. -/
def sourcesIn (d : Disk) (pattern : Option Regex) (extensions : List String)
    (place : List String) (shown : String) (e : Entry) : List String :=
  (candidatesIn d extensions place shown e).filter fun p => !isIgnored pattern p

/-- Whether an entry of a directory, which stands at a place and is shown by a path, may be a
source: its name ends in one of the extensions, and it is no directory and leads to none. -/
def isCandidate (d : Disk) (extensions : List String) (place : List String) (shown : String)
    (e : String × Entry) : Bool :=
  endsInOneOf extensions e.1 && !leadsToDirectory d place (joinPath shown e.1) e.2 e.1

section

variable (d : Disk) (extensions place : List String)

/-- Nothing is found below what cannot be listed: what is no directory, what is locked, and
what is shown by too long a path. -/
theorem candidatesIn_eq_nil {e : Entry} {shown : String}
    (h : (∀ entries, e = .directory entries → isTooLong shown = true)) :
    candidatesIn d extensions place shown e = [] := by
  cases e with
  | directory entries => rw [candidatesIn, walk, h entries rfl]; rfl
  | _ => rfl

theorem candidatesIn_directory {shown : String} (h : isTooLong shown = false)
    (entries : List (String × Entry)) :
    candidatesIn d extensions place shown (.directory entries) =
      ((sortByName (entries.filter (isCandidate d extensions place shown))).map fun e =>
        joinPath shown e.1) ++
      (sortByName entries).flatMap fun e =>
        candidatesIn d extensions (place ++ [e.1]) (joinPath shown e.1) e.2 := by
  have hfiles : (filesIn d place shown entries).filterMap (Found.candidate? extensions) =
      (sortByName (entries.filter (isCandidate d extensions place shown))).map fun e =>
        joinPath shown e.1 := by
    have hsplit : sortByName (entries.filter (isCandidate d extensions place shown)) =
        (sortByName (entries.filter fun e =>
          !leadsToDirectory d place (joinPath shown e.1) e.2 e.1)).filter fun e =>
            endsInOneOf extensions e.1 := by
      rw [filter_sortByName, List.filter_filter]
      rfl
    rw [filesIn, List.filterMap_map, hsplit, ← List.filterMap_eq_map, List.filterMap_filter]
    rfl
  unfold candidatesIn
  rw [walk_directory d place h, List.filterMap_append, hfiles, List.filterMap_flatMap]

/-- **The sources below a directory**: those among its entries, by their names, and then those
below each of its real directories, by their names; and none if its path is too long. -/
theorem sourcesIn_directory (pattern : Option Regex) (shown : String)
    (entries : List (String × Entry)) :
    sourcesIn d pattern extensions place shown (.directory entries) =
      if isTooLong shown then []
      else
        ((sortByName (entries.filter (isCandidate d extensions place shown))).map fun e =>
          joinPath shown e.1).filter (fun p => !isIgnored pattern p) ++
        (sortByName (entries.filter fun e => e.2.isDirectory)).flatMap fun e =>
          sourcesIn d pattern extensions (place ++ [e.1]) (joinPath shown e.1) e.2 := by
  cases h : isTooLong shown with
  | true =>
    rw [sourcesIn, candidatesIn_eq_nil d extensions place fun _ _ => h]
    rfl
  | false =>
    have hnone : ∀ e ∈ sortByName entries, e.2.isDirectory = false →
        sourcesIn d pattern extensions (place ++ [e.1]) (joinPath shown e.1) e.2 = [] := by
      intro e _ he
      rw [sourcesIn, candidatesIn_eq_nil d extensions _ fun entries heq =>
        absurd he (by rw [heq]; nofun)]
      rfl
    rw [← filter_sortByName fun e : String × Entry => e.2.isDirectory, flatMap_filter_eq hnone,
      sourcesIn, candidatesIn_directory d extensions place h, List.filter_append,
      List.filter_flatMap]
    rfl

end

/-! ### Names in a tree -/

/-- Whether a text can be the name of an entry. -/
def IsEntryName (name : String) : Prop := name ≠ "" ∧ '/' ∉ name.toList

instance (name : String) : Decidable (IsEntryName name) := inferInstanceAs (Decidable (_ ∧ _))

/-- Whether names can be those of the entries of one directory: each is one, and no two are
equal. -/
def AreEntryNames (names : List String) : Prop := names.Nodup ∧ ∀ name ∈ names, IsEntryName name

instance : DecidablePred AreEntryNames := fun _ => inferInstanceAs (Decidable (_ ∧ _))

/-- Whether the entries of each directory of a disk have names, and different ones, as those
of every real disk have. -/
def Disk.WellNamed (d : Disk) : Prop := d.EachDirectory AreEntryNames

instance (d : Disk) : Decidable d.WellNamed := inferInstanceAs (Decidable (d.EachDirectory _))

/-- Where names are different, an entry is looked up by its own. -/
theorem lookup_eq_some_iff_mem {α : Type} {entries : List (String × α)}
    (h : (entries.map Prod.fst).Nodup) {name : String} {a : α} :
    entries.lookup name = some a ↔ (name, a) ∈ entries := by
  refine ⟨mem_of_lookup_eq_some, fun hmem => ?_⟩
  obtain ⟨before, after, rfl⟩ := List.append_of_mem hmem
  rw [List.map_append, List.map_cons, List.nodup_middle, List.nodup_cons] at h
  refine List.lookup_eq_some_iff.mpr ⟨before, after, rfl, fun e he => bne_iff_ne.mpr ?_⟩
  rintro rfl
  exact h.1 (List.mem_append_left _ (List.mem_map.mpr ⟨e, he, rfl⟩))

/-! ### Chains of names -/

/-- Whether one chain of names comes before another one in a scan: in the directory in which
they part, files come before what is in directories, and each by their names. -/
def ListedBefore : List String → List String → Prop
  | a :: as, b :: bs =>
    (as = [] ∧ bs ≠ []) ∨ ((as = [] ↔ bs = []) ∧ a < b) ∨ (a = b ∧ ListedBefore as bs)
  | _, _ => False

/-- Whether a chain of names leads from an entry, which stands at a place and is shown by a
path, to what may be a source: through directories that are no links, the last of them with a
path that is not too long, to an entry that is no directory and leads to none, and whose name
ends in one of the extensions. -/
def LeadsToCandidate (d : Disk) (extensions : List String) (place : List String) (shown : String)
    (e : Entry) (names : List String) : Prop :=
  ∃ above name e', names = above ++ [name] ∧ e.at? names = some e' ∧
    isTooLong (above.foldl joinPath shown) = false ∧
    isCandidate d extensions (place ++ above) (above.foldl joinPath shown) (name, e') = true

/-- Whether chains of names are those that lead from an entry to what may be a source, in the
order of a scan. -/
structure IsListing (d : Disk) (extensions : List String) (place : List String) (shown : String)
    (e : Entry) (chains : List (List String)) : Prop where
  ordered : chains.Pairwise ListedBefore
  mem_iff : ∀ names, names ∈ chains ↔ LeadsToCandidate d extensions place shown e names

theorem not_listedBefore_self : ∀ names : List String, ¬ ListedBefore names names
  | [] => fun h => h
  | a :: as => by
    rw [ListedBefore]
    rintro (⟨rfl, hne⟩ | ⟨-, hlt⟩ | ⟨-, h⟩)
    · exact hne rfl
    · exact lt_irrefl a hlt
    · exact not_listedBefore_self as h

theorem IsListing.nodup {d : Disk} {extensions place : List String} {shown : String} {e : Entry}
    {chains : List (List String)} (h : IsListing d extensions place shown e chains) :
    chains.Nodup :=
  h.ordered.imp fun {as bs} (hab : ListedBefore as bs) (he : as = bs) =>
    not_listedBefore_self as (he ▸ hab)

/-- A path does not get shorter on the way down. -/
theorem isTooLong_joinPath {shown : String} (h : isTooLong shown = true) (name : String) :
    isTooLong (joinPath shown name) = true := by
  unfold isTooLong at *
  rw [decide_eq_true_iff] at *
  refine h.trans ?_
  unfold joinPath
  split
  · rw [String.utf8ByteSize_append]
    exact Nat.le_add_right ..
  · rw [String.utf8ByteSize_append, String.utf8ByteSize_append, Nat.add_assoc]
    exact Nat.le_add_right ..

theorem isTooLong_foldl_joinPath : ∀ (names : List String) {shown : String},
    isTooLong shown = true → isTooLong (names.foldl joinPath shown) = true
  | [], _, h => h
  | name :: names, _, h => isTooLong_foldl_joinPath names (isTooLong_joinPath h name)

section

variable {d : Disk} {extensions place : List String} {shown : String} {e : Entry}
  {names : List String}

theorem LeadsToCandidate.ne_nil (h : LeadsToCandidate d extensions place shown e names) :
    names ≠ [] := by
  obtain ⟨above, name, _, rfl, -⟩ := h
  exact List.append_ne_nil_of_right_ne_nil above (List.cons_ne_nil name [])

/-- Nothing is below what cannot be listed. -/
theorem LeadsToCandidate.exists_directory (h : LeadsToCandidate d extensions place shown e names) :
    ∃ entries, e = .directory entries ∧ isTooLong shown = false := by
  obtain ⟨first, rest, rfl⟩ := List.exists_cons_of_ne_nil h.ne_nil
  obtain ⟨above, _, _, -, hat, hshort, -⟩ := h
  cases e with
  | directory entries =>
    refine ⟨entries, rfl, Bool.eq_false_iff.mpr fun hlong => ?_⟩
    exact Bool.eq_false_iff.mp hshort (isTooLong_foldl_joinPath above hlong)
  | _ => exact nomatch hat

/-- What cannot be listed has an empty listing. -/
theorem isListing_nil (h : ∀ entries, e = .directory entries → isTooLong shown = true) :
    IsListing d extensions place shown e [] := by
  refine ⟨.nil, fun names => iff_of_false List.not_mem_nil fun hleads => ?_⟩
  obtain ⟨entries, he, hshort⟩ := hleads.exists_directory
  exact Bool.false_ne_true (hshort.symm.trans (h entries he))

/-- What is below a directory is one of its entries or below one of them. -/
theorem leadsToCandidate_directory_iff {entries : List (String × Entry)}
    (hnodup : (entries.map Prod.fst).Nodup) (hshort : isTooLong shown = false) :
    LeadsToCandidate d extensions place shown (.directory entries) names ↔
      (∃ e ∈ entries, isCandidate d extensions place shown e = true ∧ names = [e.1]) ∨
        ∃ e ∈ entries, ∃ rest,
          LeadsToCandidate d extensions (place ++ [e.1]) (joinPath shown e.1) e.2 rest ∧
            names = e.1 :: rest := by
  constructor
  · rintro ⟨above, name, e', rfl, hat, hdirectory, hcandidate⟩
    cases above with
    | nil =>
      rw [List.nil_append, at?_cons_directory] at hat
      obtain ⟨e, he, hat⟩ := Option.bind_eq_some_iff.mp hat
      rw [Entry.at?] at hat
      obtain rfl : e = e' := Option.some.inj hat
      rw [List.append_nil] at hcandidate
      exact Or.inl ⟨_, mem_of_lookup_eq_some he, hcandidate, rfl⟩
    | cons first above =>
      rw [List.cons_append, at?_cons_directory] at hat
      obtain ⟨e, he, hat⟩ := Option.bind_eq_some_iff.mp hat
      rw [List.append_cons] at hcandidate
      exact Or.inr ⟨_, mem_of_lookup_eq_some he, _,
        ⟨above, name, e', rfl, hat, hdirectory, hcandidate⟩, rfl⟩
  · rintro (⟨⟨name, e⟩, he, hcandidate, rfl⟩ | ⟨⟨first, e⟩, he, _,
      ⟨above, name, e', rfl, hat, hdirectory, hcandidate⟩, rfl⟩)
    · refine ⟨[], name, e, rfl, ?_, hshort, by rwa [List.append_nil]⟩
      rw [at?_cons_directory, (lookup_eq_some_iff_mem hnodup).mpr he]
      rfl
    · refine ⟨first :: above, name, e', rfl, ?_, hdirectory, by rwa [List.append_cons]⟩
      rw [at?_cons_directory, (lookup_eq_some_iff_mem hnodup).mpr he]
      exact hat

/-- The order of two chains that go into directories. -/
theorem listedBefore_cons {a b : String} {as bs : List String} (has : as ≠ []) (hbs : bs ≠ []) :
    ListedBefore (a :: as) (b :: bs) ↔ a < b ∨ a = b ∧ ListedBefore as bs := by
  rw [ListedBefore]
  simp [has, hbs]

/-- The listing of a directory from those of its entries. -/
theorem isListing_directory {entries : List (String × Entry)}
    (hnodup : (entries.map Prod.fst).Nodup) (hshort : isTooLong shown = false)
    {below : String × Entry → List (List String)} (hbelow : ∀ e ∈ entries,
      IsListing d extensions (place ++ [e.1]) (joinPath shown e.1) e.2 (below e)) :
    IsListing d extensions place shown (.directory entries)
      ((sortByName (entries.filter (isCandidate d extensions place shown))).map (fun e => [e.1]) ++
        (sortByName entries).flatMap fun e => (below e).map (e.1 :: ·)) := by
  have hne : ∀ e ∈ sortByName entries, ∀ names ∈ below e, names ≠ [] := fun e he names hnames =>
    (((hbelow e (mem_sortByName.mp he)).mem_iff names).mp hnames).ne_nil
  constructor
  · have hfiles : ((entries.filter (isCandidate d extensions place shown)).map Prod.fst).Nodup :=
      hnodup.sublist (List.filter_sublist.map _)
    refine List.pairwise_append.mpr ⟨?_, List.pairwise_flatMap.mpr ⟨fun e he => ?_, ?_⟩, ?_⟩
    · exact List.pairwise_map.mpr ((sortByName_pairwise hfiles).imp fun hlt =>
        Or.inr (Or.inl ⟨Iff.rfl, hlt⟩))
    · -- in one directory the chains go on as below it
      refine List.pairwise_map.mpr ?_
      refine (hbelow e (mem_sortByName.mp he)).ordered.imp_of_mem fun {as bs} has hbs hab => ?_
      exact (listedBefore_cons (hne e he as has) (hne e he bs hbs)).mpr (Or.inr ⟨rfl, hab⟩)
    · -- in different ones they part here
      refine (sortByName_pairwise hnodup).imp_of_mem fun {a b} ha hb hlt xs hxs ys hys => ?_
      obtain ⟨as, has, rfl⟩ := List.mem_map.mp hxs
      obtain ⟨bs, hbs, rfl⟩ := List.mem_map.mp hys
      exact (listedBefore_cons (hne a ha as has) (hne b hb bs hbs)).mpr (Or.inl hlt)
    · intro xs hxs ys hys
      obtain ⟨a, -, rfl⟩ := List.mem_map.mp hxs
      obtain ⟨b, hb, hys⟩ := List.mem_flatMap.mp hys
      obtain ⟨bs, hbs, rfl⟩ := List.mem_map.mp hys
      exact Or.inl ⟨rfl, hne b hb bs hbs⟩
  · intro names
    rw [leadsToCandidate_directory_iff hnodup hshort, List.mem_append, List.mem_map,
      List.mem_flatMap]
    refine or_congr (exists_congr fun e => ?_) (exists_congr fun e => ?_)
    · rw [mem_sortByName, List.mem_filter, and_assoc, eq_comm (a := names)]
    · rw [mem_sortByName, List.mem_map]
      refine and_congr_right fun he => exists_congr fun rest => ?_
      rw [(hbelow e he).mem_iff, eq_comm]

mutual

/-- **The candidates below an entry**, told by the chains of names that lead to them. -/
theorem exists_isListing (d : Disk) (extensions : List String) :
    ∀ e : Entry, e.EachDirectory AreEntryNames → ∀ (place : List String) (shown : String),
      ∃ chains, IsListing d extensions place shown e chains ∧
        candidatesIn d extensions place shown e = chains.map (·.foldl joinPath shown)
  | .file _, _, _, _ => ⟨[], isListing_nil nofun, rfl⟩
  | .locked, _, _, _ => ⟨[], isListing_nil nofun, rfl⟩
  | .link _, _, _, _ => ⟨[], isListing_nil nofun, rfl⟩
  | .directory entries, h, place, shown => by
    rw [Entry.EachDirectory] at h
    cases hlong : isTooLong shown with
    | true =>
      exact ⟨[], isListing_nil fun _ _ => hlong,
        candidatesIn_eq_nil d extensions place fun _ _ => hlong⟩
    | false =>
      choose! below hbelow hpaths using fun e he =>
        exists_isListing_of_mem d extensions entries h.2 e he (place ++ [e.1]) (joinPath shown e.1)
      refine ⟨_, isListing_directory h.1.1 hlong hbelow, ?_⟩
      rw [candidatesIn_directory d extensions place hlong, List.map_append, List.map_map,
        List.map_flatMap]
      refine congrArg _ (List.flatMap_congr fun e he => ?_)
      rw [hpaths e (mem_sortByName.mp he), List.map_map]
      rfl

theorem exists_isListing_of_mem (d : Disk) (extensions : List String) :
    ∀ entries : List (String × Entry), EachBelow AreEntryNames entries → ∀ e ∈ entries,
      ∀ (place : List String) (shown : String),
        ∃ chains, IsListing d extensions place shown e.2 chains ∧
          candidatesIn d extensions place shown e.2 = chains.map (·.foldl joinPath shown)
  | [], _, _, he, _, _ => absurd he List.not_mem_nil
  | (name, first) :: rest, h, e, he, place, shown => by
    rw [EachBelow] at h
    rcases List.mem_cons.mp he with rfl | he
    · exact exists_isListing d extensions first h.1 place shown
    · exact exists_isListing_of_mem d extensions rest h.2 e he place shown

end

/-! ### The paths of chains -/

/-- The characters of a path up to the names of the entries below it. -/
def pathBase (shown : String) : List Char :=
  if shown.toList.getLast? = some '/' then shown.toList else shown.toList ++ ['/']

theorem toList_joinPath (shown name : String) :
    (joinPath shown name).toList = pathBase shown ++ name.toList := by
  unfold joinPath pathBase
  split
  · exact String.toList_append
  · rw [String.toList_append, String.toList_append]
    rfl

/-- A path that ends in a name goes on with a slash. -/
theorem pathBase_joinPath (shown : String) {name : String} (h : IsEntryName name) :
    pathBase (joinPath shown name) = pathBase shown ++ name.toList ++ ['/'] := by
  obtain ⟨hne, hslash⟩ := h
  have hchars : name.toList ≠ [] := fun hnil => hne (String.toList_eq_nil_iff.mp hnil)
  have hlast : (joinPath shown name).toList.getLast? ≠ some '/' := by
    rw [toList_joinPath, List.getLast?_append_of_ne_nil _ hchars]
    exact fun hmem => hslash (List.mem_of_getLast? hmem)
  rw [pathBase, if_neg hlast, toList_joinPath]

theorem splitSlashes_of_notMem : ∀ {name : List Char}, '/' ∉ name → splitSlashes name = [name]
  | [], _ => rfl
  | c :: name, h => by
    have hc : c ≠ '/' := fun hc => h (hc ▸ List.mem_cons_self)
    have ih := splitSlashes_of_notMem fun hmem => h (List.mem_cons_of_mem c hmem)
    rw [splitSlashes, ih]
    exact hc

theorem splitSlashes_append : ∀ {name : List Char} (rest : List Char), '/' ∉ name →
    splitSlashes (name ++ '/' :: rest) = name :: splitSlashes rest
  | [], _, _ => rfl
  | c :: name, rest, h => by
    have hc : c ≠ '/' := fun hc => h (hc ▸ List.mem_cons_self)
    have ih := splitSlashes_append rest fun hmem => h (List.mem_cons_of_mem c hmem)
    rw [List.cons_append, splitSlashes, ih]
    exact hc

/-- The path of a chain of names tells the chain. -/
theorem exists_toList_foldl_joinPath : ∀ {names : List String}, names ≠ [] →
    (∀ name ∈ names, IsEntryName name) → ∀ shown, ∃ text,
      (names.foldl joinPath shown).toList = pathBase shown ++ text ∧
        splitSlashes text = names.map String.toList
  | [], h, _, _ => absurd rfl h
  | [name], _, h, shown => by
    refine ⟨name.toList, toList_joinPath shown name, ?_⟩
    exact splitSlashes_of_notMem (h name List.mem_cons_self).2
  | name :: next :: rest, _, h, shown => by
    have hname := h name List.mem_cons_self
    obtain ⟨text, htext, hsplit⟩ := exists_toList_foldl_joinPath (List.cons_ne_nil next rest)
      (fun n hn => h n (List.mem_cons_of_mem name hn)) (joinPath shown name)
    refine ⟨name.toList ++ '/' :: text, ?_, ?_⟩
    · rw [List.foldl_cons, htext, pathBase_joinPath shown hname]
      simp only [List.append_assoc, List.cons_append, List.nil_append]
    · rw [splitSlashes_append text hname.2, hsplit]
      rfl

/-- **Different chains of names have different paths.** -/
theorem foldl_joinPath_inj {names names' : List String} (hne : names ≠ []) (hne' : names' ≠ [])
    (h : ∀ name ∈ names, IsEntryName name) (h' : ∀ name ∈ names', IsEntryName name)
    {shown : String} (heq : names.foldl joinPath shown = names'.foldl joinPath shown) :
    names = names' := by
  obtain ⟨text, htext, hsplit⟩ := exists_toList_foldl_joinPath hne h shown
  obtain ⟨text', htext', hsplit'⟩ := exists_toList_foldl_joinPath hne' h' shown
  rw [heq, htext'] at htext
  rw [List.append_cancel_left htext, hsplit] at hsplit'
  exact List.map_injective_iff.mpr (fun _ _ => String.toList_inj.mp) hsplit'

/-- The names on the way to an entry are names of entries. -/
theorem isEntryName_of_at? : ∀ {names : List String} {e e' : Entry},
    e.EachDirectory AreEntryNames → e.at? names = some e' → ∀ name ∈ names, IsEntryName name
  | [], _, _, _, _, _, hname => absurd hname List.not_mem_nil
  | first :: names, .directory entries, e', h, hat, name, hname => by
    rw [Entry.EachDirectory] at h
    rw [at?_cons_directory] at hat
    obtain ⟨e, he, hat⟩ := Option.bind_eq_some_iff.mp hat
    have hmem := mem_of_lookup_eq_some he
    rcases List.mem_cons.mp hname with rfl | hname
    · exact h.1.2 _ (List.mem_map_of_mem hmem)
    · exact isEntryName_of_at? (h.2.mem hmem) hat name hname
  | _ :: _, .file _, _, _, hat, _, _ => nomatch hat
  | _ :: _, .locked, _, _, hat, _, _ => nomatch hat
  | _ :: _, .link _, _, _, hat, _, _ => nomatch hat

/-- The chains of a listing have different paths. -/
theorem IsListing.nodup_paths {chains : List (List String)} (he : e.EachDirectory AreEntryNames)
    (h : IsListing d extensions place shown e chains) :
    (chains.map (·.foldl joinPath shown)).Nodup := by
  have hnames : ∀ names ∈ chains, names ≠ [] ∧ ∀ name ∈ names, IsEntryName name := by
    intro names hmem
    have hleads := (h.mem_iff names).mp hmem
    obtain ⟨_, _, _, -, hat, -⟩ := id hleads
    exact ⟨hleads.ne_nil, isEntryName_of_at? he hat⟩
  refine List.Nodup.map_on (fun names hmem names' hmem' heq => ?_) h.nodup
  exact foldl_joinPath_inj (hnames names hmem).1 (hnames names' hmem').1 (hnames names hmem).2
    (hnames names' hmem').2 heq

end

end GoComplexity
