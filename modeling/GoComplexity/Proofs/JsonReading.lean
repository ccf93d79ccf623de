/-
# Documents are read back

A reader of documents in two machines.  The first takes the text character by
character and finds the punctuation, the numbers and the texts, whose characters it
puts together from UTF-16 units; the second takes what the first found and keeps, on
a stack, the lists and objects that are still open.  Fractions and the named constants
are left out, so what the reader accepts is a part of the notation.  A printed document
is read back, whatever characters its texts hold.

Key definitions: `Json.Mode.step?`, `Json.lex?`, `Json.State.step?`, `Json.ofText?`.
Key theorems: `Json.ofUnits?_flatMap_unitsOf`, `Json.lex?_quote`, `Json.lex?_renderAt`,
`Json.run?_tokens`, `Json.ofText?_render`.
-/
import GoComplexity.Proofs.Cutting
import GoComplexity.Report.Json
import GoComplexity.Toml.Quoted

namespace GoComplexity.Json

/-! ### UTF-16 -/

/-- The UTF-16 units of a character. -/
def unitsOf (c : Char) : List Nat :=
  if c.toNat < 0x10000 then [c.toNat]
  else [0xd800 + (c.toNat - 0x10000) / 0x400, 0xdc00 + (c.toNat - 0x10000) % 0x400]

/-- The characters of UTF-16 units, in which a high surrogate stands only before a low one
and a low one only after a high one. -/
def ofUnits? : List Nat → Option (List Char)
  | [] => some []
  | u :: us =>
    if u < 0xd800 ∨ 0xe000 ≤ u then (ofUnits? us).map (Char.ofNat u :: ·)
    else
      match us with
      | [] => none
      | v :: us =>
        if u < 0xdc00 ∧ 0xdc00 ≤ v ∧ v < 0xe000 then
          (ofUnits? us).map (Char.ofNat (0x10000 + 0x400 * (u - 0xd800) + (v - 0xdc00)) :: ·)
        else none

theorem ofUnits?_unitsOf (c : Char) (us : List Nat) :
    ofUnits? (unitsOf c ++ us) = (ofUnits? us).map (c :: ·) := by
  have hvalid : c.toNat < 0xd800 ∨ 0xdfff < c.toNat ∧ c.toNat < 0x110000 := c.valid
  unfold unitsOf
  split
  case isTrue =>
    -- the equations of `ofUnits?` split on what follows the unit, which is not known here
    rw [List.singleton_append, ofUnits?.eq_def]
    simp only
    rw [if_pos (by omega), Char.ofNat_toNat]
  case isFalse =>
    rw [List.cons_append, List.singleton_append, ofUnits?, if_neg (by omega),
      if_pos (by omega)]
    have hnumber : 0x10000 + 0x400 * (0xd800 + (c.toNat - 0x10000) / 0x400 - 0xd800) +
        (0xdc00 + (c.toNat - 0x10000) % 0x400 - 0xdc00) = c.toNat := by omega
    rw [hnumber, Char.ofNat_toNat]

/-- **A text is read back from its units.** -/
theorem ofUnits?_flatMap_unitsOf : ∀ cs : List Char, ofUnits? (cs.flatMap unitsOf) = some cs
  | [] => rfl
  | c :: cs => by
    rw [List.flatMap_cons, ofUnits?_unitsOf, ofUnits?_flatMap_unitsOf cs, Option.map_some]

/-! ### The first machine -/

/-- A part of a document's text. -/
inductive Token where
  | openList
  | closeList
  | openObject
  | closeObject
  | comma
  | colon
  | text (s : String)
  | integer (n : Int)

/-- Where the first machine stands: between two parts, in a number with the characters so far,
or in a text with the units so far, there maybe after a backslash or in a unit's number with so
many digits left. -/
inductive Mode where
  | between
  | number (digits : List Char)
  | text (units : List Nat)
  | escape (units : List Nat)
  | unit (units : List Nat) (left value : Nat)

/-- A punctuation mark. -/
def mark? : Char → Option Token
  | '[' => some .openList
  | ']' => some .closeList
  | '\x7b' => some .openObject
  | '\x7d' => some .closeObject
  | ',' => some .comma
  | ':' => some .colon
  | _ => none

/-- The character of a letter after a backslash. -/
def escaped? : Char → Option Char
  | '"' => some '"'
  | '\\' => some '\\'
  | '/' => some '/'
  | 'b' => some '\x08'
  | 'f' => some '\x0c'
  | 'n' => some '\n'
  | 'r' => some '\r'
  | 't' => some '\t'
  | _ => none

/-- Whether a character can stand in a number. -/
def isNumeral (c : Char) : Bool := c.isDigit || c = '-'

/-- What a character between two parts is or begins. -/
def begin? (c : Char) : Option (List Token × Mode) :=
  if isNumeral c then some ([], .number [c])
  else if c = '"' then some ([], .text [])
  else if c = ' ' || c = '\n' || c = '\r' || c = '\t' then some ([], .between)
  else (mark? c).map fun t => ([t], .between)

/-- One character: the parts that end with it, and where the machine stands then. -/
def Mode.step? : Mode → Char → Option (List Token × Mode)
  | .between, c => begin? c
  | .number digits, c =>
    if isNumeral c then some ([], .number (digits ++ [c]))
    else do
      let n ← integerOf? digits
      let (ts, mode) ← begin? c
      return (.integer n :: ts, mode)
  | .text units, c =>
    if c = '"' then (ofUnits? units).map fun cs => ([.text (String.ofList cs)], .between)
    else if c = '\\' then some ([], .escape units)
    else if c.toNat < 0x20 then none
    else some ([], .text (units ++ unitsOf c))
  | .escape units, c =>
    if c = 'u' then some ([], .unit units 4 0)
    else (escaped? c).map fun c => ([], .text (units ++ unitsOf c))
  | .unit units left value, c =>
    (Toml.hexValue? c).map fun digit =>
      if left = 1 then ([], .text (units ++ [16 * value + digit]))
      else ([], .unit units (left - 1) (16 * value + digit))

/-- The part that ends with the text. -/
def Mode.finish? : Mode → Option (List Token)
  | .between => some []
  | .number digits => (integerOf? digits).map fun n => [.integer n]
  | _ => none

/-- The parts of a text. -/
def lex? : Mode → List Char → Option (List Token)
  | mode, [] => mode.finish?
  | mode, c :: cs => (mode.step? c).bind fun next => (lex? next.2 cs).map (next.1 ++ ·)

section

variable {mode : Mode} {c : Char} (cs : List Char)

theorem lex?_of_step {mode' : Mode} {ts : List Token} (h : mode.step? c = some (ts, mode')) :
    lex? mode (c :: cs) = (lex? mode' cs).map (ts ++ ·) := by
  rw [lex?, h, Option.bind_some]

theorem lex?_of_silent (mode' : Mode) (h : mode.step? c = some ([], mode')) :
    lex? mode (c :: cs) = lex? mode' cs := by
  rw [lex?_of_step cs h]
  exact Option.map_id'

/-! ### Blanks and marks -/

theorem lex?_mark {t : Token} (h : begin? c = some ([t], .between)) :
    lex? .between (c :: cs) = (lex? .between cs).map (t :: ·) :=
  lex?_of_step cs (show Mode.between.step? c = _ from h)

theorem lex?_blanks : ∀ n : Nat, lex? .between (List.replicate n ' ' ++ cs) = lex? .between cs
  | 0 => rfl
  | n + 1 => by
    rw [List.replicate_succ, List.cons_append, lex?_of_silent _ .between rfl,
      lex?_blanks n]

theorem lex?_newLine (depth : Nat) : lex? .between (newLine depth ++ cs) = lex? .between cs := by
  rw [newLine, List.cons_append, lex?_of_silent _ .between rfl, lex?_blanks]

/-! ### Numbers -/

/-- Whether a number ends before the characters. -/
def EndsNumber (cs : List Char) : Prop := ∀ c ∈ cs.head?, isNumeral c = false

variable {cs} in
theorem lex?_number_of_ends {digits : List Char} {n : Int} (hdigits : integerOf? digits = some n)
    (h : EndsNumber cs) :
    lex? (.number digits) cs = (lex? .between cs).map (.integer n :: ·) := by
  cases cs with
  | nil => simp [lex?, Mode.finish?, hdigits]
  | cons c cs =>
    have hc : isNumeral c = false := h c rfl
    have hstep : (Mode.number digits).step? c =
        (begin? c).map fun next => (.integer n :: next.1, next.2) := by
      simp only [Mode.step?, hc, hdigits, Bool.false_eq_true, if_false, Option.bind_eq_bind,
        Option.bind_some]
      cases begin? c <;> rfl
    rw [lex?, lex?, hstep]
    show _ = Option.map _ ((begin? c).bind _)
    cases begin? c with
    | none => rfl
    | some next => simp [Option.map_map, Function.comp_def]

theorem lex?_numerals : ∀ {ds : List Char} (digits : List Char), (∀ d ∈ ds, isNumeral d = true) →
    lex? (.number digits) (ds ++ cs) = lex? (.number (digits ++ ds)) cs
  | [], digits, _ => by rw [List.nil_append, List.append_nil]
  | d :: ds, digits, h => by
    have hstep : (Mode.number digits).step? d = some ([], .number (digits ++ [d])) :=
      if_pos (h d List.mem_cons_self)
    rw [List.cons_append, lex?_of_silent _ _ hstep,
      lex?_numerals _ fun e he => h e (List.mem_cons_of_mem d he), List.append_assoc,
      List.singleton_append]

variable {cs} in
/-- An integer is found in front of what ends a number. -/
theorem lex?_integer (n : Int) (h : EndsNumber cs) :
    lex? .between ((toString n).toList ++ cs) = (lex? .between cs).map (.integer n :: ·) := by
  have hread := integerOf?_toString n
  have hnumerals : ∀ d ∈ (toString n).toList, isNumeral d = true := fun d hd => by
    simpa [isNumeral] using isDigit_of_mem_toString hd
  generalize (toString n).toList = digits at hread hnumerals
  cases digits with
  | nil => nomatch hread
  | cons d ds =>
    have hstep : Mode.between.step? d = some ([], .number [d]) :=
      if_pos (hnumerals d List.mem_cons_self)
    rw [List.cons_append, lex?_of_silent _ _ hstep,
      lex?_numerals _ _ fun e he => hnumerals e (List.mem_cons_of_mem d he),
      List.singleton_append, lex?_number_of_ends hread h]

/-! ### Texts -/

variable (us : List Nat)

theorem lex?_escaped {e : Char} (he : e ≠ 'u') (h : escaped? e = some c) :
    lex? (.text us) ('\\' :: e :: cs) = lex? (.text (us ++ unitsOf c)) cs := by
  have hstep : (Mode.escape us).step? e = some ([], .text (us ++ unitsOf c)) := by
    rw [Mode.step?, if_neg he, h, Option.map_some]
  rw [lex?_of_silent _ (.escape us) rfl, lex?_of_silent _ _ hstep]

theorem hexValue?_hexDigit : ∀ digit < 16, Toml.hexValue? (Text.hexDigit digit) = some digit := by
  decide

theorem step?_unit (left value n : Nat) :
    (Mode.unit us left value).step? (Text.hexDigit (n % 16)) =
      some (if left = 1 then ([], .text (us ++ [16 * value + n % 16]))
        else ([], .unit us (left - 1) (16 * value + n % 16))) := by
  rw [Mode.step?, hexValue?_hexDigit _ (Nat.mod_lt n (by decide)), Option.map_some]

/-- A unit of four digits is read back. -/
theorem lex?_escapeUnit {n : Nat} (hn : n < 0x10000) :
    lex? (.text us) (escapeUnit n ++ cs) = lex? (.text (us ++ [n])) cs := by
  have hdigits : escapeUnit n = ['\\', 'u', Text.hexDigit (n / 16 / 16 / 16 % 16),
      Text.hexDigit (n / 16 / 16 % 16), Text.hexDigit (n / 16 % 16), Text.hexDigit (n % 16)] := rfl
  have hvalue : 16 * (16 * (16 * (16 * 0 + n / 16 / 16 / 16 % 16) + n / 16 / 16 % 16) +
      n / 16 % 16) + n % 16 = n := by omega
  simp only [hdigits, List.cons_append, List.nil_append]
  rw [lex?_of_silent _ (.escape us) rfl, lex?_of_silent _ (.unit us 4 0) rfl,
    lex?_of_silent _ _ (step?_unit us 4 _ _), lex?_of_silent _ _ (step?_unit us 3 _ _),
    lex?_of_silent _ _ (step?_unit us 2 _ _), lex?_of_silent _ _ (step?_unit us 1 _ _), hvalue]

/-- **A character is read back from its escape.** -/
theorem lex?_escapeChar (c : Char) :
    lex? (.text us) (escapeChar c ++ cs) = lex? (.text (us ++ unitsOf c)) cs := by
  have hvalid : c.toNat < 0xd800 ∨ 0xdfff < c.toNat ∧ c.toNat < 0x110000 := c.valid
  unfold escapeChar
  split
  case isTrue h =>
    obtain rfl | rfl : c = '"' ∨ c = '\\' := by simpa using h
    · exact lex?_escaped cs us (by decide) rfl
    · exact lex?_escaped cs us (by decide) rfl
  case isFalse hmarks =>
  -- the five characters that have a letter
  split
  case isTrue h => exact lex?_escaped cs us (by decide) (h ▸ rfl)
  split
  case isTrue h => exact lex?_escaped cs us (by decide) (h ▸ rfl)
  split
  case isTrue h => exact lex?_escaped cs us (by decide) (h ▸ rfl)
  split
  case isTrue h => exact lex?_escaped cs us (by decide) (h ▸ rfl)
  split
  case isTrue h => exact lex?_escaped cs us (by decide) (h ▸ rfl)
  -- the others are written as they are, by one unit, or by two
  simp only
  split
  case isTrue hplain =>
    obtain ⟨hquote, hbackslash⟩ : c ≠ '"' ∧ c ≠ '\\' := by simpa using hmarks
    obtain ⟨hlow, -⟩ : 0x20 ≤ c.toNat ∧ c.toNat ≤ 0x7e := by simpa using hplain
    have hstep : (Mode.text us).step? c = some ([], .text (us ++ unitsOf c)) := by
      rw [Mode.step?, if_neg hquote, if_neg hbackslash, if_neg (by omega)]
    exact lex?_of_silent cs _ hstep
  split
  case isTrue hone => rw [unitsOf, if_pos hone, lex?_escapeUnit cs us hone]
  case isFalse htwo =>
    rw [unitsOf, if_neg htwo, List.append_assoc, lex?_escapeUnit _ us (by omega),
      lex?_escapeUnit cs _ (by omega), List.append_assoc, List.singleton_append]

theorem lex?_flatMap_escapeChar : ∀ (ds : List Char) (us : List Nat),
    lex? (.text us) (ds.flatMap escapeChar ++ cs) = lex? (.text (us ++ ds.flatMap unitsOf)) cs
  | [], us => by rw [List.flatMap_nil, List.flatMap_nil, List.nil_append, List.append_nil]
  | d :: ds, us => by
    rw [List.flatMap_cons, List.append_assoc, lex?_escapeChar, lex?_flatMap_escapeChar ds,
      List.flatMap_cons, List.append_assoc]

/-- **A text is found between its quotes**, whatever characters it holds. -/
theorem lex?_quote (s : String) :
    lex? .between (quote s ++ cs) = (lex? .between cs).map (.text s :: ·) := by
  have hclose : (Mode.text (s.toList.flatMap unitsOf)).step? '"' = some ([.text s], .between) := by
    rw [Mode.step?, if_pos rfl, ofUnits?_flatMap_unitsOf, Option.map_some, String.ofList_toList]
  rw [quote, List.cons_append, List.cons_append, List.append_assoc,
    lex?_of_silent _ (.text []) rfl, lex?_flatMap_escapeChar, List.nil_append,
    List.singleton_append, lex?_of_step cs hclose]
  rfl

end

/-! ### The parts of a document -/

mutual

/-- The parts of a document. -/
def tokens : Json → List Token
  | integer n => [.integer n]
  | text s => [.text s]
  | list [] => [.openList, .closeList]
  | list (x :: xs) => .openList :: tokens x ++ itemTokens xs ++ [.closeList]
  | object [] => [.openObject, .closeObject]
  | object ((key, x) :: members) =>
    .openObject :: .text key :: .colon :: tokens x ++ memberTokens members ++ [.closeObject]

/-- The parts of the elements of a list after the first. -/
def itemTokens : List Json → List Token
  | [] => []
  | x :: xs => .comma :: tokens x ++ itemTokens xs

/-- The parts of the members of an object after the first. -/
def memberTokens : List (String × Json) → List Token
  | [] => []
  | (key, x) :: members => .comma :: .text key :: .colon :: tokens x ++ memberTokens members

end

theorem EndsNumber.newLine (depth : Nat) (cs : List Char) : EndsNumber (newLine depth ++ cs) := by
  rintro c ⟨⟩
  rfl

theorem EndsNumber.renderItems (depth : Nat) {cs : List Char} (h : EndsNumber cs) :
    ∀ xs : List Json, EndsNumber (renderItems depth xs ++ cs)
  | [] => h
  | _ :: _ => by
    rintro c ⟨⟩
    rfl

theorem EndsNumber.renderMembers (depth : Nat) {cs : List Char} (h : EndsNumber cs) :
    ∀ members : List (String × Json), EndsNumber (renderMembers depth members ++ cs)
  | [] => h
  | _ :: _ => by
    rintro c ⟨⟩
    rfl

mutual

/-- **The parts of a printed document are found**, at any depth and before anything that ends a
number. -/
theorem lex?_renderAt : ∀ (x : Json) (depth : Nat) {cs : List Char}, EndsNumber cs →
    lex? .between (renderAt depth x ++ cs) = (lex? .between cs).map (tokens x ++ ·)
  | integer n, depth, cs, h => lex?_integer n h
  | text s, depth, cs, _ => lex?_quote cs s
  | list [], depth, cs, _ => by
    rw [renderAt, tokens, List.cons_append, List.singleton_append,
      lex?_mark (t := .openList) _ rfl, lex?_mark (t := .closeList) _ rfl, Option.map_map]
    rfl
  | list (x :: xs), depth, cs, _ => by
    simp only [renderAt, tokens, List.cons_append, List.append_assoc, List.nil_append]
    rw [lex?_mark (t := .openList) _ rfl, lex?_newLine,
      lex?_renderAt x (depth + 1) (EndsNumber.renderItems _ (EndsNumber.newLine _ _) xs),
      lex?_renderItems xs (depth + 1) (EndsNumber.newLine _ _), lex?_newLine,
      lex?_mark (t := .closeList) _ rfl]
    simp only [Option.map_map, Function.comp_def]
  | object [], depth, cs, _ => by
    rw [renderAt, tokens, List.cons_append, List.singleton_append,
      lex?_mark (t := .openObject) _ rfl, lex?_mark (t := .closeObject) _ rfl, Option.map_map]
    rfl
  | object ((key, x) :: members), depth, cs, _ => by
    simp only [renderAt, tokens, List.cons_append, List.append_assoc, List.nil_append]
    rw [lex?_mark (t := .openObject) _ rfl, lex?_newLine, lex?_quote,
      lex?_mark (t := .colon) _ rfl, lex?_of_silent _ .between rfl,
      lex?_renderAt x (depth + 1) (EndsNumber.renderMembers _ (EndsNumber.newLine _ _) members),
      lex?_renderMembers members (depth + 1) (EndsNumber.newLine _ _), lex?_newLine,
      lex?_mark (t := .closeObject) _ rfl]
    simp only [Option.map_map, Function.comp_def]

theorem lex?_renderItems : ∀ (xs : List Json) (depth : Nat) {cs : List Char}, EndsNumber cs →
    lex? .between (renderItems depth xs ++ cs) = (lex? .between cs).map (itemTokens xs ++ ·)
  | [], depth, cs, _ => by
    rw [renderItems, itemTokens]
    exact Option.map_id'.symm
  | x :: xs, depth, cs, h => by
    simp only [renderItems, itemTokens, List.cons_append, List.append_assoc]
    rw [lex?_mark (t := .comma) _ rfl, lex?_newLine,
      lex?_renderAt x depth (EndsNumber.renderItems _ h xs), lex?_renderItems xs depth h]
    simp only [Option.map_map, Function.comp_def]

theorem lex?_renderMembers : ∀ (members : List (String × Json)) (depth : Nat) {cs : List Char},
    EndsNumber cs → lex? .between (renderMembers depth members ++ cs) =
      (lex? .between cs).map (memberTokens members ++ ·)
  | [], depth, cs, _ => by
    rw [renderMembers, memberTokens]
    exact Option.map_id'.symm
  | (key, x) :: members, depth, cs, h => by
    simp only [renderMembers, memberTokens, List.cons_append, List.append_assoc, List.nil_append]
    rw [lex?_mark (t := .comma) _ rfl, lex?_newLine, lex?_quote, lex?_mark (t := .colon) _ rfl,
      lex?_of_silent _ .between rfl,
      lex?_renderAt x depth (EndsNumber.renderMembers _ h members),
      lex?_renderMembers members depth h]
    simp only [Option.map_map, Function.comp_def]

end

/-! ### The second machine -/

/-- A list or an object that is still open, with what stands in it so far; of the member that is
being read, an object has the key. -/
inductive Frame where
  | items (before : List Json)
  | member (before : List (String × Json)) (key : String)

/-- Where the second machine stands: before a value, the first element or the first key, before
a later key or its colon, or after a value. -/
inductive State where
  | value (frames : List Frame)
  | firstItem (frames : List Frame)
  | firstKey (frames : List Frame)
  | laterKey (before : List (String × Json)) (frames : List Frame)
  | colon (before : List (String × Json)) (key : String) (frames : List Frame)
  | complete (x : Json) (frames : List Frame)

/-- The first part of a value. -/
def value? (frames : List Frame) : Token → Option State
  | .openList => some (.firstItem frames)
  | .openObject => some (.firstKey frames)
  | .text s => some (.complete (text s) frames)
  | .integer n => some (.complete (integer n) frames)
  | _ => none

/-- One part. -/
def State.step? : State → Token → Option State
  | .value frames, t => value? frames t
  | .firstItem frames, .closeList => some (.complete (list []) frames)
  | .firstItem frames, t => value? (.items [] :: frames) t
  | .firstKey frames, .closeObject => some (.complete (object []) frames)
  | .firstKey frames, .text key => some (.colon [] key frames)
  | .laterKey before frames, .text key => some (.colon before key frames)
  | .colon before key frames, .colon => some (.value (.member before key :: frames))
  | .complete x (.items before :: frames), .comma =>
    some (.value (.items (before ++ [x]) :: frames))
  | .complete x (.items before :: frames), .closeList =>
    some (.complete (list (before ++ [x])) frames)
  | .complete x (.member before key :: frames), .comma =>
    some (.laterKey (before ++ [(key, x)]) frames)
  | .complete x (.member before key :: frames), .closeObject =>
    some (.complete (object (before ++ [(key, x)])) frames)
  | _, _ => none

/-- The parts one after another. -/
def run? (s : State) (ts : List Token) : Option State := ts.foldlM State.step? s

theorem run?_cons {s : State} (s' : State) {t : Token} (h : s.step? t = some s') (ts : List Token) :
    run? s (t :: ts) = run? s' ts := by
  rw [run?, List.foldlM_cons, h]
  rfl

/-- The first element of a list is read as any value is. -/
theorem run?_firstItem (frames : List Frame) (ts : List Token) : ∀ x : Json,
    run? (.firstItem frames) (tokens x ++ ts) = run? (.value (.items [] :: frames)) (tokens x ++ ts)
  | integer _ => rfl
  | text _ => rfl
  | list [] => rfl
  | list (_ :: _) => rfl
  | object [] => rfl
  | object (_ :: _) => rfl

mutual

/-- **The parts of a document are read as the document**, whatever is open around it. -/
theorem run?_tokens : ∀ (x : Json) (frames : List Frame) (ts : List Token),
    run? (.value frames) (tokens x ++ ts) = run? (.complete x frames) ts
  | integer n, frames, ts => rfl
  | text s, frames, ts => rfl
  | list [], frames, ts => rfl
  | list (x :: xs), frames, ts => by
    simp only [tokens, List.cons_append, List.append_assoc, List.nil_append]
    rw [run?_cons (.firstItem frames) rfl, run?_firstItem, run?_tokens x,
      run?_itemTokens xs, List.nil_append]
  | object [], frames, ts => rfl
  | object ((key, x) :: members), frames, ts => by
    simp only [tokens, List.cons_append, List.append_assoc, List.nil_append]
    rw [run?_cons (.firstKey frames) rfl, run?_cons (.colon [] key frames) rfl,
      run?_cons (.value (.member [] key :: frames)) rfl, run?_tokens x,
      run?_memberTokens members, List.nil_append]

theorem run?_itemTokens : ∀ (xs : List Json) (x : Json) (before : List Json)
    (frames : List Frame) (ts : List Token),
    run? (.complete x (.items before :: frames)) (itemTokens xs ++ .closeList :: ts) =
      run? (.complete (list (before ++ x :: xs)) frames) ts
  | [], x, before, frames, ts => rfl
  | y :: ys, x, before, frames, ts => by
    simp only [itemTokens, List.cons_append, List.append_assoc]
    rw [run?_cons (.value (.items (before ++ [x]) :: frames)) rfl, run?_tokens y,
      run?_itemTokens ys, List.append_assoc, List.singleton_append]

theorem run?_memberTokens : ∀ (members : List (String × Json)) (key : String) (x : Json)
    (before : List (String × Json)) (frames : List Frame) (ts : List Token),
    run? (.complete x (.member before key :: frames))
        (memberTokens members ++ .closeObject :: ts) =
      run? (.complete (object (before ++ (key, x) :: members)) frames) ts
  | [], key, x, before, frames, ts => rfl
  | (key', y) :: members, key, x, before, frames, ts => by
    simp only [memberTokens, List.cons_append, List.append_assoc]
    rw [run?_cons (.laterKey (before ++ [(key, x)]) frames) rfl,
      run?_cons (.colon (before ++ [(key, x)]) key' frames) rfl,
      run?_cons (.value (.member (before ++ [(key, x)]) key' :: frames)) rfl, run?_tokens y,
      run?_memberTokens members, List.append_assoc, List.singleton_append]

end

/-! ### Documents -/

/-- The document of parts. -/
def ofTokens? (ts : List Token) : Option Json :=
  match run? (.value []) ts with
  | some (.complete x []) => some x
  | _ => none

/-- The document of a text. -/
def ofText? (s : String) : Option Json := (lex? .between s.toList).bind ofTokens?

/-- **A document is read back from its text.** -/
theorem ofText?_render (x : Json) : ofText? x.render = some x := by
  have hends : EndsNumber [] := nofun
  have htokens : lex? .between (renderAt 0 x) = some (tokens x) := by
    have hlex := lex?_renderAt x 0 hends
    rwa [List.append_nil, lex?, Mode.finish?, Option.map_some, List.append_nil] at hlex
  have hrun : run? (.value []) (tokens x) = some (.complete x []) := by
    have hrun := run?_tokens x [] []
    rwa [List.append_nil] at hrun
  rw [ofText?, render, String.toList_ofList, htokens, Option.bind_some, ofTokens?, hrun]

end GoComplexity.Json
