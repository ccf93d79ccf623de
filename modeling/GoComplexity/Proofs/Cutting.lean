/-
# Texts cut at a mark

A text is cut at the first or at the last place of a mark, and there is no other cut
with no further mark on its side.  The decimal text of an integer is read back, and
holds no colon; so a position is read back from its text by two cuts at the last
colon, whatever colons the name of the file holds.

Key definitions: `cutFirst?`, `cutLast?`, `integerOf?`, `Position.ofChars?`.
Key theorems: `eq_of_read_eq`, `cutFirst?_append`, `cutLast?_append`,
`integerOf?_toString`, `notMem_toString`, `Position.ofChars?_render`,
`Position.cut_render`.
-/
import GoComplexity.Position
import Mathlib.Data.List.Basic

namespace GoComplexity

/-! ### Reading back -/

/-- Things that are read back from one text are one thing. -/
theorem eq_of_read_eq {α β : Type} {read : β → Option α} {s t : β} {x y : α}
    (hx : read s = some x) (hy : read t = some y) (heq : s = t) : x = y := by
  rw [heq, hy] at hx
  exact (Option.some.inj hx).symm

/-- Things that are read back one by one are read back in their order. -/
theorem mapM_map_eq_some {α β : Type} {write : α → β} {read : β → Option α} :
    ∀ {xs : List α}, (∀ x ∈ xs, read (write x) = some x) → (xs.map write).mapM read = some xs
  | [], _ => rfl
  | x :: xs, h => by
    have hxs := mapM_map_eq_some fun y hy => h y (List.mem_cons_of_mem x hy)
    rw [List.map_cons, List.mapM_cons, h x List.mem_cons_self, hxs]
    rfl

/-! ### Cuts -/

/-- What stands before and after the first mark in a text. -/
def cutFirst? (mark : Char) : List Char → Option (List Char × List Char)
  | [] => none
  | c :: cs =>
    if c = mark then some ([], cs)
    else (cutFirst? mark cs).map fun parts => (c :: parts.1, parts.2)

/-- What stands before and after the last mark in a text. -/
def cutLast? (mark : Char) : List Char → Option (List Char × List Char)
  | [] => none
  | c :: cs =>
    match cutLast? mark cs with
    | some (before, after) => some (c :: before, after)
    | none => if c = mark then some ([], cs) else none

section

variable {mark : Char}

theorem cutFirst?_append (after : List Char) : ∀ {before : List Char}, mark ∉ before →
    cutFirst? mark (before ++ mark :: after) = some (before, after)
  | [], _ => if_pos rfl
  | c :: before, h => by
    obtain ⟨hc, hbefore⟩ := not_or.mp (mt List.mem_cons.mpr h)
    rw [List.cons_append, cutFirst?, if_neg (Ne.symm hc), cutFirst?_append after hbefore,
      Option.map_some]

theorem cutLast?_of_notMem : ∀ {cs : List Char}, mark ∉ cs → cutLast? mark cs = none
  | [], _ => rfl
  | c :: cs, h => by
    obtain ⟨hc, hcs⟩ := not_or.mp (mt List.mem_cons.mpr h)
    rw [cutLast?, cutLast?_of_notMem hcs]
    exact if_neg (Ne.symm hc)

theorem cutLast?_append {after : List Char} (h : mark ∉ after) : ∀ before : List Char,
    cutLast? mark (before ++ mark :: after) = some (before, after)
  | [] => by
    rw [List.nil_append, cutLast?, cutLast?_of_notMem h]
    exact if_pos rfl
  | c :: before => by rw [List.cons_append, cutLast?, cutLast?_append h before]

/-- Texts that are alike are so before and after their first marks. -/
theorem firstMark_inj {before after before' after' : List Char} (h : mark ∉ before)
    (h' : mark ∉ before') (heq : before ++ mark :: after = before' ++ mark :: after') :
    before = before' ∧ after = after' := by
  have hcuts := eq_of_read_eq (cutFirst?_append after h) (cutFirst?_append after' h') heq
  exact Prod.mk.inj hcuts

/-- Texts that are alike are so before and after their last marks. -/
theorem lastMark_inj {before after before' after' : List Char} (h : mark ∉ after)
    (h' : mark ∉ after') (heq : before ++ mark :: after = before' ++ mark :: after') :
    before = before' ∧ after = after' := by
  have hcuts := eq_of_read_eq (cutLast?_append h before) (cutLast?_append h' before') heq
  exact Prod.mk.inj hcuts

end

/-! ### Decimal texts -/

/-- The number of decimal digits, of which the first is no zero unless it is the only one. -/
def naturalOf? (cs : List Char) : Option Nat :=
  if cs = [] || !cs.all Char.isDigit || (cs.head? = some '0' && cs ≠ ['0']) then none
  else some (Nat.ofDigitChars 10 cs 0)

/-- The integer of a decimal text. -/
def integerOf? : List Char → Option Int
  | '-' :: cs => (naturalOf? cs).map fun n => -(n : Int)
  | cs => (naturalOf? cs).map Int.ofNat

theorem head?_toDigits_ne (n : Nat) (h : n ≠ 0) : (Nat.toDigits 10 n).head? ≠ some '0' := by
  induction n using Nat.strongRecOn with
  | ind n ih =>
    rw [Nat.toDigits_eq_if (by decide)]
    split
    case isTrue =>
      rw [List.head?_cons]
      exact fun hzero => h (Nat.digitChar_eq_zero.mp (Option.some.inj hzero))
    case isFalse hbig =>
      rw [List.head?_append_of_ne_nil _ Nat.toDigits_ne_nil]
      exact ih (n / 10) (by omega) (by omega)

theorem naturalOf?_toDigits (n : Nat) : naturalOf? (Nat.toDigits 10 n) = some n := by
  have hdigits : (Nat.toDigits 10 n).all Char.isDigit = true :=
    List.all_eq_true.mpr fun c hc => Nat.isDigit_of_mem_toDigits (by decide) (by decide) hc
  have hfirst : (Nat.toDigits 10 n).head? = some '0' → Nat.toDigits 10 n = ['0'] := by
    intro hzero
    by_cases hn : n = 0
    · rw [hn, Nat.toDigits_zero]
    · exact absurd hzero (head?_toDigits_ne n hn)
  rw [naturalOf?, if_neg (by simp [Nat.toDigits_ne_nil, hdigits]; exact hfirst),
    Nat.ofDigitChars_toDigits (by decide) (by decide)]

theorem toList_toString_ofNat (n : Nat) :
    (toString (Int.ofNat n)).toList = Nat.toDigits 10 n := by
  show n.repr.toList = _
  rw [Nat.repr_eq_ofList_toDigits, String.toList_ofList]

theorem toList_toString_negSucc (n : Nat) :
    (toString (Int.negSucc n)).toList = '-' :: Nat.toDigits 10 (n + 1) := by
  have hdigits : (n + 1).repr.toList = Nat.toDigits 10 (n + 1) := toList_toString_ofNat (n + 1)
  show ("-" ++ (n + 1).repr).toList = _
  rw [String.toList_append, hdigits]
  rfl

/-- The decimal text of an integer holds digits and a sign, and nothing else. -/
theorem isDigit_of_mem_toString {n : Int} {c : Char} (h : c ∈ (toString n).toList) :
    c.isDigit = true ∨ c = '-' := by
  have hdigit {m : Nat} (hc : c ∈ Nat.toDigits 10 m) : c.isDigit = true :=
    Nat.isDigit_of_mem_toDigits (by decide) (by decide) hc
  cases n with
  | ofNat m =>
    rw [toList_toString_ofNat] at h
    exact Or.inl (hdigit h)
  | negSucc m =>
    rw [toList_toString_negSucc] at h
    exact (List.mem_cons.mp h).symm.imp_left hdigit

theorem notMem_toString {mark : Char} (hdigit : mark.isDigit = false) (hsign : mark ≠ '-')
    (n : Int) : mark ∉ (toString n).toList := by
  intro hmem
  rcases isDigit_of_mem_toString hmem with h | h
  · exact absurd h (Bool.eq_false_iff.mp hdigit)
  · exact hsign h

theorem integerOf?_toDigits (n : Nat) :
    integerOf? (Nat.toDigits 10 n) = some (Int.ofNat n) := by
  have hsign : '-' ∉ Nat.toDigits 10 n := fun hmem =>
    absurd (Nat.isDigit_of_mem_toDigits (by decide) (by decide) hmem) (by decide)
  have hunsigned : integerOf? (Nat.toDigits 10 n) =
      (naturalOf? (Nat.toDigits 10 n)).map Int.ofNat := by
    unfold integerOf?
    split
    case h_1 heq => exact absurd (heq ▸ List.mem_cons_self) hsign
    case h_2 => rfl
  rw [hunsigned, naturalOf?_toDigits, Option.map_some]

/-- **An integer is read back from its decimal text.** -/
theorem integerOf?_toString (n : Int) : integerOf? (toString n).toList = some n := by
  cases n with
  | ofNat m => rw [toList_toString_ofNat, integerOf?_toDigits]
  | negSucc m =>
    rw [toList_toString_negSucc, integerOf?, naturalOf?_toDigits]
    rfl

/-! ### Positions -/

namespace Position

variable (p : Position)

theorem toList_render : p.render.toList =
    (p.file.toList ++ ':' :: (toString p.line).toList) ++ ':' :: (toString p.column).toList := by
  have hrender : p.render = p.file ++ ":" ++ toString p.line ++ ":" ++ toString p.column := rfl
  rw [hrender]
  simp only [String.toList_append, List.append_assoc]
  rfl

theorem colon_notMem_toString (n : Int) : ':' ∉ (toString n).toList :=
  notMem_toString rfl (by decide) n

/-- The position of a text: its file, and its line and column after the last two colons. -/
def ofChars? (cs : List Char) : Option Position := do
  let (cs, column) ← cutLast? ':' cs
  let (file, line) ← cutLast? ':' cs
  return ⟨String.ofList file, ← integerOf? line, ← integerOf? column⟩

/-- **A position is read back from its text**, whatever the name of its file. -/
theorem ofChars?_render : ofChars? p.render.toList = some p := by
  have hcolumn := cutLast?_append (colon_notMem_toString p.column)
    (p.file.toList ++ ':' :: (toString p.line).toList)
  have hline := cutLast?_append (colon_notMem_toString p.line) p.file.toList
  unfold ofChars?
  simp only [toList_render, hcolumn, hline, integerOf?_toString, Option.bind_eq_bind,
    Option.bind_some, String.ofList_toList]
  rfl

/-- **The last two colons.** The text of a position is cut in one way at two colons after which
no more follow. -/
theorem cut_render {file line column : List Char} :
    (p.render.toList = (file ++ ':' :: line) ++ ':' :: column ∧ ':' ∉ line ∧ ':' ∉ column) ↔
      file = p.file.toList ∧ line = (toString p.line).toList ∧
        column = (toString p.column).toList := by
  rw [toList_render]
  constructor
  · rintro ⟨h, hline, hcolumn⟩
    obtain ⟨hfront, hlast⟩ := lastMark_inj (colon_notMem_toString p.column) hcolumn h
    obtain ⟨hfile, hmiddle⟩ := lastMark_inj (colon_notMem_toString p.line) hline hfront
    exact ⟨hfile.symm, hmiddle.symm, hlast.symm⟩
  · rintro ⟨rfl, rfl, rfl⟩
    exact ⟨rfl, colon_notMem_toString p.line, colon_notMem_toString p.column⟩

end Position

end GoComplexity
