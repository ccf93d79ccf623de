/-
# Merged entries

Layers of entries are merged one over the other.  A key then has the value that the
highest layer with the key gives it, where within a layer the last value counts.  The
keys of merged entries are those of the layers.  The environment gives each setting
what its variable reads as.

Key definitions: `valueIn`, `IsSettingKey`, `environmentValue`, `entriesOf`,
`integers?`.
Key theorems: `lookup_merge`, `lookup_mergeAll`, `environmentEntries_eq`,
`unknownKeys_eq_nil`.
-/
import GoComplexity.Config.Layers
import Mathlib.Data.List.Basic

namespace GoComplexity

/-- The value that entries give a key; a later entry hides an earlier one. -/
def valueIn (entries : Entries) (key : String) : Option Value := entries.reverse.lookup key

/-- Whether a key is that of a setting. -/
def IsSettingKey (key : String) : Prop := (Setting.ofKey? key).isSome = true

instance (key : String) : Decidable (IsSettingKey key) := inferInstanceAs (Decidable (_ = true))

/-- The entries as integers, if all of them are. -/
def integers? : Entries → Option (List (String × Int))
  | [] => some []
  | (key, .int n) :: entries => (integers? entries).map fun numbers => (key, n) :: numbers
  | _ => none

/-! ### Keys -/

theorem Setting.ofKey?_key (x : Setting) : Setting.ofKey? x.key = some x := by
  cases x <;> rfl

theorem Setting.key_injective {x y : Setting} (h : x.key = y.key) : x = y :=
  Option.some.inj ((ofKey?_key x).symm.trans (h ▸ ofKey?_key y))

theorem Setting.mem_all (x : Setting) : x ∈ Setting.all := by
  cases x <;> decide

/-- Entries have a value for each of their keys. -/
theorem lookup_ne_none_iff (entries : Entries) (key : String) :
    entries.lookup key ≠ none ↔ ∃ e ∈ entries, e.1 = key := by
  rw [Ne, List.lookup_eq_none_iff]
  simp only [bne_iff_ne, ne_eq, not_forall, not_not, exists_prop]
  exact exists_congr fun e => and_congr_right fun _ => eq_comm

theorem valueIn_ne_none_iff (entries : Entries) (key : String) :
    valueIn entries key ≠ none ↔ ∃ e ∈ entries, e.1 = key := by
  rw [valueIn, lookup_ne_none_iff]
  simp

theorem lookup_cons_eq (e : String × Value) (entries : Entries) (key : String) :
    List.lookup key (e :: entries) = if key = e.1 then some e.2 else entries.lookup key := by
  rw [List.lookup_cons]
  by_cases h : key = e.1
  · rw [if_pos h, beq_iff_eq.mpr h]
  · rw [if_neg h, beq_eq_false_iff_ne.mpr h]

theorem valueIn_cons (e : String × Value) (entries : Entries) (key : String) :
    valueIn (e :: entries) key =
      (valueIn entries key).or (if key = e.1 then some e.2 else none) := by
  rw [valueIn, List.reverse_cons, List.lookup_append, lookup_cons_eq]
  rfl

/-- What a filter does to a key hangs on the entries of the key. -/
theorem lookup_filter_congr {p q : String × Value → Bool} {key : String}
    (h : ∀ v, p (key, v) = q (key, v)) (entries : Entries) :
    (entries.filter p).lookup key = (entries.filter q).lookup key := by
  induction entries with
  | nil => rfl
  | cons e entries ih =>
    obtain ⟨k, v⟩ := e
    rw [List.filter_cons, List.filter_cons]
    by_cases hk : key = k
    · subst hk
      rw [h v]
      cases q (key, v)
      · exact ih
      · simp
    · cases p (k, v) <;> cases q (k, v) <;> simp [lookup_cons_eq, hk, ih]

theorem valueIn_filter_congr {p q : String × Value → Bool} {key : String}
    (h : ∀ v, p (key, v) = q (key, v)) (entries : Entries) :
    valueIn (entries.filter p) key = valueIn (entries.filter q) key := by
  rw [valueIn, valueIn, ← List.filter_reverse, ← List.filter_reverse]
  exact lookup_filter_congr h _

/-! ### Layers -/

theorem lookup_put (key k : String) (v : Value) (entries : Entries) :
    (Toml.put k v entries).lookup key = if key = k then some v else entries.lookup key := by
  induction entries with
  | nil => exact lookup_cons_eq (k, v) [] key
  | cons e entries ih =>
    rw [Toml.put]
    by_cases he : e.1 = k
    · rw [if_pos he, lookup_cons_eq, lookup_cons_eq, he]
      by_cases hk : key = k
      · rw [if_pos hk, if_pos hk]
      · rw [if_neg hk, if_neg hk, if_neg hk]
    · rw [if_neg he, lookup_cons_eq, lookup_cons_eq, ih]
      by_cases hk : key = k
      · rw [hk, if_neg (Ne.symm he), if_pos rfl, if_pos rfl]
      · rw [if_neg hk, if_neg hk]

/-- The layer above hides the one below key by key. -/
theorem lookup_merge (below above : Entries) (key : String) :
    (merge below above).lookup key = (valueIn above key).or (below.lookup key) := by
  induction above generalizing below with
  | nil => rfl
  | cons e above ih =>
    have hstep : merge below (e :: above) = merge (Toml.put e.1 e.2 below) above := rfl
    rw [hstep, ih, lookup_put, valueIn_cons, Option.or_assoc]
    by_cases h : key = e.1 <;> simp [h]

/-- **The highest layer with a key counts.** -/
theorem lookup_mergeAll (layers : List Entries) (below : Entries) (key : String) :
    (layers.foldl merge below).lookup key =
      (layers.reverse.findSome? fun layer => valueIn layer key).or (below.lookup key) := by
  induction layers generalizing below with
  | nil => rfl
  | cons layer layers ih =>
    rw [List.foldl_cons, ih, lookup_merge, List.reverse_cons, List.findSome?_append,
      List.findSome?_singleton, Option.or_assoc]

/-- The keys of merged layers are keys of the layers. -/
theorem exists_of_mem_mergeAll {layers : List Entries} {e : String × Value}
    (he : e ∈ layers.foldl merge []) : ∃ layer ∈ layers, ∃ e' ∈ layer, e'.1 = e.1 := by
  have hlookup := (lookup_ne_none_iff _ e.1).mpr ⟨e, he, rfl⟩
  rw [lookup_mergeAll, List.lookup_nil, Option.or_none, Ne, List.findSome?_eq_none_iff,
    not_forall] at hlookup
  obtain ⟨layer, hlookup⟩ := hlookup
  obtain ⟨hlayer, hvalue⟩ := Classical.not_imp.mp hlookup
  exact ⟨layer, List.mem_reverse.mp hlayer, (valueIn_ne_none_iff layer e.1).mp hvalue⟩

theorem unknownKeys_eq_nil {entries : Entries} (h : ∀ e ∈ entries, IsSettingKey e.1) :
    unknownKeys entries = [] := by
  have hnone : (entries.map Prod.fst).filter (fun k => (Setting.ofKey? k).isNone) = [] := by
    refine List.filter_eq_nil_iff.mpr fun k hk => ?_
    obtain ⟨e, he, rfl⟩ := List.mem_map.mp hk
    simpa using Option.isSome_iff_ne_none.mp (h e he)
  rw [unknownKeys, hnone, List.eraseDups_nil, List.mergeSort_nil]

/-! ### Entries of settings -/

/-- The entries of the settings that a function gives a value. -/
def entriesOf (given : Setting → Option Value) : Entries :=
  Setting.all.filterMap fun x => (given x).map fun v => (x.key, v)

theorem lookup_filterMap_key (given : Setting → Option Value) (x : Setting) (xs : List Setting) :
    List.lookup x.key (xs.filterMap fun y => (given y).map fun v => (y.key, v)) =
      if x ∈ xs then given x else none := by
  induction xs with
  | nil => rfl
  | cons y xs ih =>
    rw [List.filterMap_cons]
    by_cases hxy : x = y
    · subst hxy
      rw [if_pos List.mem_cons_self]
      cases hx : given x with
      | none =>
        rw [Option.map_none, ih, hx, ite_self]
      | some v => rw [Option.map_some, lookup_cons_eq, if_pos rfl]
    · have hkey : x.key ≠ y.key := fun h => hxy (Setting.key_injective h)
      have hmem : x ∈ y :: xs ↔ x ∈ xs := by simp [hxy]
      rw [if_congr hmem rfl rfl, ← ih]
      cases given y with
      | none => rfl
      | some v => rw [Option.map_some, lookup_cons_eq, if_neg hkey]

theorem lookup_entriesOf (given : Setting → Option Value) (x : Setting) :
    (entriesOf given).lookup x.key = given x := by
  rw [entriesOf, lookup_filterMap_key, if_pos x.mem_all]

theorem valueIn_entriesOf (given : Setting → Option Value) (x : Setting) :
    valueIn (entriesOf given) x.key = given x := by
  rw [valueIn, entriesOf, ← List.filterMap_reverse, lookup_filterMap_key,
    if_pos (List.mem_reverse.mpr x.mem_all)]

theorem isSettingKey_of_mem_entriesOf {given : Setting → Option Value} {e : String × Value}
    (he : e ∈ entriesOf given) : IsSettingKey e.1 := by
  obtain ⟨x, -, hx⟩ := List.mem_filterMap.mp he
  obtain ⟨v, -, rfl⟩ := Option.map_eq_some_iff.mp hx
  rw [IsSettingKey, Setting.ofKey?_key]
  rfl

/-- What a variable of the environment gives a setting. -/
def environmentValue (environment : String → Option String) (x : Setting) : Option Value :=
  (environment x.variable).bind fun raw => (x.readVariable raw).toOption

/-- **The environment gives** each setting what its variable reads as, if all of them
can be read. -/
theorem environmentEntries_eq {environment : String → Option String}
    (h : ∀ x raw, environment (Setting.variable x) = some raw →
      ∃ v, x.readVariable raw = .ok v) :
    environmentEntries environment = .ok (entriesOf (environmentValue environment)) := by
  have hfold : ∀ step : Entries → Setting → Except Failure Entries,
      (∀ entries x, step entries x =
        pure (entries ++ ((environmentValue environment x).map fun v => (x.key, v)).toList)) →
      Setting.all.foldlM step [] = .ok (entriesOf (environmentValue environment)) := by
    intro step hstep
    rw [funext₂ hstep, List.foldlM_pure, entriesOf, List.filterMap_eq_flatMap_toList,
      List.flatMap_eq_foldl]
    rfl
  refine hfold _ fun entries x => ?_
  rw [environmentValue]
  cases hx : environment x.variable with
  | none => exact congrArg Except.ok (List.append_nil entries).symm
  | some raw =>
    obtain ⟨v, hv⟩ := h x raw hx
    simp only [hv, Option.bind_some]
    rfl

/-! ### Files of integers, and settings that pass the check -/

theorem eq_map_of_integers? {entries : Entries} {numbers : List (String × Int)}
    (h : integers? entries = some numbers) :
    entries = numbers.map fun e => (e.1, .int e.2) := by
  fun_induction integers? entries generalizing numbers with
  | case1 => rw [← Option.some.inj h, List.map_nil]
  | case2 key n entries ih =>
    obtain ⟨rest, hrest, rfl⟩ := Option.map_eq_some_iff.mp h
    rw [List.map_cons, ← ih hrest]
  | case3 => cases h

/-- A configuration file whose settings are integers gives these. -/
theorem configFileEntries_of_integers {path : String} {content : ByteArray}
    (numbers : List (String × Int))
    (h : (configFileEntries path content).toOption.bind integers? = some numbers) :
    configFileEntries path content = .ok (numbers.map fun e => (e.1, .int e.2)) := by
  cases hentries : configFileEntries path content with
  | error problem =>
    rw [hentries] at h
    exact nomatch h
  | ok entries =>
    rw [hentries] at h
    rw [eq_map_of_integers? h]

/-- Settings that pass the check are made from their entries. -/
theorem makeSettings_of_isOk {entries : Entries} (h : (makeSettings entries).isOk = true) :
    makeSettings entries = .ok (Settings.ofEntries entries) := by
  unfold makeSettings at h ⊢
  dsimp only at h ⊢
  cases hvalid : (Settings.ofEntries entries).validate with
  | error problem =>
    rw [hvalid] at h
    exact nomatch h
  | ok _ => rfl

end GoComplexity
