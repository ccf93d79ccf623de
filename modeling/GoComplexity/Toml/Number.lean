/-
# Numbers, dates and times of a configuration file

An integer is decimal, without zeros in front, or hexadecimal, octal or binary;
with a fraction or an exponent it is a floating-point number.  Single low lines
may stand between digits.  A date has four, two and two digits; a time of day
after it may have an offset from universal time.

Key definitions: `number?`, `moment?`.
-/
import GoComplexity.Toml.Reader
import GoComplexity.Value

namespace GoComplexity.Toml

/-! ### Numbers -/

/-- The longest run of digits of a kind between which single low lines may
stand: the digits, and the text after them. -/
def digitRun (kind : Char → Bool) : List Char → List Char × List Char
  | c :: '_' :: d :: rest =>
    if kind c then
      if kind d then
        let (digits, left) := digitRun kind (d :: rest)
        (c :: digits, left)
      else ([c], '_' :: d :: rest)
    else ([], c :: '_' :: d :: rest)
  | c :: rest =>
    if kind c then
      let (digits, left) := digitRun kind rest
      (c :: digits, left)
    else ([], c :: rest)
  | [] => ([], [])

/-- The value of a digit in bases up to sixteen. -/
def digitValue (c : Char) : Nat :=
  if c.isDigit then c.toNat - 0x30 else if c.isUpper then c.toNat - 0x37 else c.toNat - 0x57

/-- A digit of a base. -/
def isDigitOf (base : Nat) (c : Char) : Bool :=
  (c.isDigit || ('a' ≤ c && c ≤ 'f') || ('A' ≤ c && c ≤ 'F')) && digitValue c < base

/-- The number of digits in a base. -/
def ofBase (base : Nat) (digits : List Char) : Nat :=
  digits.foldl (fun n c => base * n + digitValue c) 0

/-- The base of a letter after a zero. -/
def base? : Char → Option Nat
  | 'x' => some 16
  | 'o' => some 8
  | 'b' => some 2
  | _ => none

/-- An integer with the letter of its base, and the text after it. -/
def basedInteger? : List Char → Option (Value × List Char)
  | '0' :: letter :: rest => do
    let base ← base? letter
    let (digits, left) := digitRun (isDigitOf base) rest
    if digits.isEmpty then none else some (.int (ofBase base digits), left)
  | _ => none

/-- The digits after a point, and the text after them; none if there are none. -/
def fractionPart (cs : List Char) : List Char × List Char :=
  match cs with
  | '.' :: rest =>
    let (digits, left) := digitRun Char.isDigit rest
    if digits.isEmpty then ([], cs) else (digits, left)
  | _ => ([], cs)

/-- A sign, and the text after it. -/
def signPart : List Char → Bool × List Char
  | '-' :: rest => (true, rest)
  | '+' :: rest => (false, rest)
  | cs => (false, cs)

/-- The exponent of a number, and the text after it. -/
def exponentPart (cs : List Char) : Option Int × List Char :=
  match cs with
  | e :: rest =>
    if e = 'e' || e = 'E' then
      let (negative, rest) := signPart rest
      let (digits, left) := digitRun Char.isDigit rest
      let n := ofBase 10 digits
      if digits.isEmpty then (none, cs) else (some (if negative then -(n : Int) else n), left)
    else (none, cs)
  | [] => (none, cs)

/-- A decimal number, and the text after it. -/
def decimal? (cs : List Char) : Option (Except Fault Value × List Char) :=
  let (negative, rest) := signPart cs
  let (whole, rest) : List Char × List Char :=
    match rest with
    | '0' :: left => (['0'], left)
    | _ => digitRun Char.isDigit rest
  if whole.isEmpty then none
  else
    let (fraction, rest) := fractionPart rest
    let (exponent, rest) := exponentPart rest
    if fraction.isEmpty && exponent.isNone then
      let n := ofBase 10 whole
      let value : Except Fault Value :=
        if digitLimit < whole.length then .error (.number (.tooLong whole.length))
        else .ok (.int (if negative then -(n : Int) else n))
      some (value, rest)
    else
      let digits := ofBase 10 (whole ++ fraction)
      let x := Binary64.ofDecimal negative digits (exponent.getD 0 - fraction.length)
      some (.ok (.float x), rest)

/-- A number that is infinite or none, and the text after it. -/
def special? (cs : List Char) : Option (Value × List Char) :=
  let (negative, rest) := signPart cs
  match rest with
  | 'i' :: 'n' :: 'f' :: left => some (.float (.infinite negative), left)
  | 'n' :: 'a' :: 'n' :: left => some (.float .nan, left)
  | _ => none

/-- A number, and the text after it. -/
def number? (cs : List Char) : Option (Except Fault Value × List Char) :=
  match basedInteger? cs with
  | some (v, rest) => some (.ok v, rest)
  | none =>
    match decimal? cs with
    | some r => some r
    | none => (special? cs).map fun r => (.ok r.1, r.2)

/-! ### Dates and times -/

/-- A number of exactly so many decimal digits, and the text after it. -/
def fixedDigits? (width : Nat) (cs : List Char) : Option (Nat × List Char) :=
  let digits := cs.take width
  if digits.length = width && digits.all Char.isDigit then some (ofBase 10 digits, cs.drop width)
  else none

/-- The text after a given character. -/
def after? (c : Char) : List Char → Option (List Char)
  | d :: rest => if d = c then some rest else none
  | [] => none

/-- The fraction of a second in millionths, further digits left out, and the
text after it. -/
def microseconds (cs : List Char) : Nat × List Char :=
  match cs with
  | '.' :: rest =>
    let digits := rest.takeWhile Char.isDigit
    if digits.isEmpty then (0, cs)
    else
      let kept := digits.take 6
      (ofBase 10 (kept ++ List.replicate (6 - kept.length) '0'), rest.dropWhile Char.isDigit)
  | _ => (0, cs)

/-- A time of day, and the text after it. -/
def clock? (cs : List Char) : Option (Clock × List Char) := do
  let (hour, cs) ← fixedDigits? 2 cs
  let (minute, cs) ← fixedDigits? 2 (← after? ':' cs)
  let (second, cs) ← fixedDigits? 2 (← after? ':' cs)
  if 24 ≤ hour || 60 ≤ minute || 60 ≤ second then none
  else
    let (micros, cs) := microseconds cs
    some (⟨hour, minute, second, micros⟩, cs)

/-- A date whose month and day lie in their ranges, and the text after it. -/
def date? (cs : List Char) : Option (Date × List Char) := do
  let (year, cs) ← fixedDigits? 4 cs
  let (month, cs) ← fixedDigits? 2 (← after? '-' cs)
  let (day, cs) ← fixedDigits? 2 (← after? '-' cs)
  if month = 0 || 12 < month || day = 0 || 31 < day then none else some (⟨year, month, day⟩, cs)

/-- An offset from universal time in minutes, and the text after it. -/
def offset? (cs : List Char) : Option Int × List Char :=
  let numeric : Option (Int × List Char) := do
    let (sign, rest) ← cs.head?.map fun c => (c, cs.drop 1)
    if sign ≠ '+' && sign ≠ '-' then none
    let (hour, rest) ← fixedDigits? 2 rest
    let (minute, rest) ← fixedDigits? 2 (← after? ':' rest)
    if 24 ≤ hour || 60 ≤ minute then none
    else
      let total : Int := (hour * 60 + minute : Nat)
      some (if sign = '-' then -total else total, rest)
  match cs with
  | 'Z' :: rest | 'z' :: rest => (some 0, rest)
  | _ =>
    match numeric with
    | some (minutes, rest) => (some minutes, rest)
    | none => (none, cs)

/-- The time of day after a date, if a separator and a time follow. -/
def timeAfter? : List Char → Option (Clock × List Char)
  | c :: rest => if c = 'T' || c = 't' || c = ' ' then clock? rest else none
  | [] => none

/-- A date or a time, and the text after it; none of a date that the calendar
does not have. -/
def moment? (cs : List Char) : Option (Option Moment × List Char) :=
  match date? cs with
  | some (d, rest) =>
    match timeAfter? rest with
    | some (t, rest) =>
      let (offset, rest) := offset? rest
      some (if d.isValid then some (.both d t offset) else none, rest)
    | none => some (if d.isValid then some (.date d) else none, rest)
  | none => (clock? cs).map fun r => (some (.time r.1), r.2)

end GoComplexity.Toml
