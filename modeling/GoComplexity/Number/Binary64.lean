/-
# Binary floating-point numbers of 64 bits

A finite number is a sign, a significand below 2⁵³ and an exponent of two of at
least -1074; it is written in one way only, with the significand at least 2⁵²
unless the exponent is the least one.  Numbers are read and printed through
exact arithmetic on natural numbers: a quotient is rounded to the nearest
number, half-way cases to the even significand, and the text of a number has
the fewest digits that read back.

Key definitions: `Binary64`, `Binary64.ofRatio`, `Binary64.ofDecimal`,
`Binary64.compareInt`, `Binary64.shortest`, `Binary64.render`,
`Binary64.renderDigits`.
-/
namespace GoComplexity

/-- A floating-point number of 64 bits. -/
inductive Binary64 where
  | finite (negative : Bool) (significand : Nat) (exponent : Int)
  | infinite (negative : Bool)
  | nan
deriving DecidableEq, Repr, Inhabited

/-- The quotient rounded to the nearest natural number, a half to the even one. -/
def roundHalfEven (num den : Nat) : Nat :=
  let q := num / den
  let twice := 2 * (num % den)
  if twice < den then q
  else if den < twice then q + 1
  else if q % 2 = 0 then q else q + 1

/-- The quotient `num * base ^ k / den` as a fraction, for an exponent of either
sign. -/
def scaled (base num den : Nat) (k : Int) : Nat × Nat :=
  if 0 ≤ k then (num * Nat.pow base k.toNat, den) else (num, den * Nat.pow base (-k).toNat)

namespace Binary64

def zero (negative : Bool) : Binary64 := .finite negative 0 (-1074)

/-- Two to the 52nd, the least significand of a normal number. -/
def half : Nat := 0x10000000000000

/-- Puts a significand into place after rounding, which may have carried. -/
def pack (negative : Bool) (significand : Nat) (exponent : Int) : Binary64 :=
  let (m, e) := if significand = 2 * half then (half, exponent + 1) else (significand, exponent)
  if 971 < e then .infinite negative else .finite negative m e

/-- The number nearest to a fraction. -/
def ofRatio (negative : Bool) (num den : Nat) : Binary64 :=
  if num = 0 || den = 0 then zero negative
  else
    let rough : Int := (num.log2 : Int) - den.log2 - 53
    let (n, d) := scaled 2 num den (-rough)
    let exponent : Int := max (-1074) (if n / d < 2 * half then rough else rough + 1)
    let (n, d) := scaled 2 num den (-exponent)
    pack negative (roundHalfEven n d) exponent

/-- The number nearest to `digits * 10 ^ exponent`. -/
def ofDecimal (negative : Bool) (digits : Nat) (exponent : Int) : Binary64 :=
  let size : Int := (Nat.toDigits 10 digits).length
  if digits = 0 then zero negative
  else if 400 < size + exponent then .infinite negative
  else if size + exponent < -400 then zero negative
  else
    let (n, d) := scaled 10 digits 1 exponent
    ofRatio negative n d

/-- The size of a finite number as a fraction. -/
def fraction (significand : Nat) (exponent : Int) : Nat × Nat := scaled 2 significand 1 exponent

/-- How a number compares with a fraction with a positive denominator; not a
number compares with nothing. -/
def compareRatio (x : Binary64) (num : Int) (den : Nat) : Option Ordering :=
  match x with
  | .nan => none
  | .infinite negative => some (if negative then .lt else .gt)
  | .finite negative m e =>
    let (n, d) := fraction m e
    let signed : Int := if negative then -(n : Int) else n
    some (compare (signed * den) (num * d))

/-- How a number compares with an integer. -/
def compareInt (x : Binary64) (n : Int) : Option Ordering := x.compareRatio n 1

/-- The integer that a number equals, if there is one. -/
def toInt? (x : Binary64) : Option Int :=
  match x with
  | .finite negative m e =>
    let (n, d) := fraction m e
    if n % d = 0 then some (if negative then -(n / d : Nat) else (n / d : Nat)) else none
  | _ => none

/-- The greatest integer at or below a finite number. -/
def floor? (x : Binary64) : Option Int :=
  match x with
  | .finite negative m e =>
    let (n, d) := fraction m e
    some (Int.fdiv (if negative then -(n : Int) else n) d)
  | _ => none

/-! ### The decimal digits of a number -/

/-- The exponent of ten of the leading digit of a positive fraction, sought
upwards from a lower bound. -/
def leadingExponent (num den : Nat) : Nat → Int → Int
  | 0, k => k
  | fuel + 1, k =>
    let (n, d) := scaled 10 num den (-(k + 1))
    if d ≤ n then leadingExponent num den fuel (k + 1) else k

/-- The exponent of ten of the leading digit of a positive fraction. -/
def decimalExponent (num den : Nat) : Int :=
  let bits : Int := (num.log2 : Int) - den.log2
  leadingExponent num den 8 (Int.fdiv (bits * 30103) 100000 - 3)

/-- The first of the two neighbours of a fraction on the grid of `10 ^ place`,
the nearer one first, that reads back as the number. -/
def hit? (x : Binary64) (num den : Nat) (place : Int) : Option Nat :=
  let (n, d) := scaled 10 num den (-place)
  let below := n / d
  let nearest := roundHalfEven n d
  let other := if nearest = below then below + 1 else below
  [nearest, other].find? fun digits => decide (0 < digits) && ofDecimal false digits place == x

/-- The digits of a positive number: the coarsest grid with a point that reads
back, from `k` digits on. -/
def shortestFrom (x : Binary64) (num den : Nat) (lead : Int) : Nat → Nat → Nat × Int
  | 0, _ => (roundHalfEven num den, 0)
  | fuel + 1, k =>
    let place := lead - k + 1
    match hit? x num den place with
    | some digits => (digits, place)
    | none => shortestFrom x num den lead fuel (k + 1)

/-- The fewest digits that read back as a positive number, and the exponent of
ten of the last one. -/
def shortest (significand : Nat) (exponent : Int) : Nat × Int :=
  let (n, d) := fraction significand exponent
  shortestFrom (.finite false significand exponent) n d (decimalExponent n d) 17 1

/-- Removes the zeros at the end of a list of digits. -/
def dropZeros (digits : List Char) : List Char :=
  (digits.reverse.dropWhile (· = '0')).reverse

/-- A decimal exponent with its sign and at least two digits. -/
def renderExponent (e : Int) : List Char :=
  let digits := Nat.toDigits 10 e.natAbs
  let padded := if digits.length < 2 then '0' :: digits else digits
  'e' :: (if e < 0 then '-' else '+') :: padded

/-- Digits with the point after the first `k`, zeros filled in on either side. -/
def positional (digits : List Char) (k : Int) : List Char × List Char :=
  if k ≤ 0 then (['0'], List.replicate (-k).toNat '0' ++ digits)
  else
    let n := k.toNat
    (digits.take n ++ List.replicate (n - digits.length) '0', digits.drop n)

/-- Scientific notation: one digit, the others after a point, and the exponent. -/
def scientific (digits : List Char) (lead : Int) : List Char :=
  let tail := digits.drop 1
  digits.take 1 ++ (if tail.isEmpty then [] else '.' :: tail) ++ renderExponent lead

/-- The text of a number: the fewest digits that read back, positional from
10⁻⁴ to below 10¹⁶, always with a point or an exponent. -/
def render (x : Binary64) : String :=
  match x with
  | .nan => "nan"
  | .infinite negative => if negative then "-inf" else "inf"
  | .finite negative m e =>
    let sign := if negative then ['-'] else []
    if m = 0 then String.ofList (sign ++ ['0', '.', '0'])
    else
      let (digits, place) := shortest m e
      let cs := Nat.toDigits 10 digits
      let lead : Int := place + cs.length - 1
      let kept := dropZeros cs
      if -4 ≤ lead && lead < 16 then
        let (whole, part) := positional kept (lead + 1)
        String.ofList (sign ++ whole ++ '.' :: (if part.isEmpty then ['0'] else part))
      else String.ofList (sign ++ scientific kept lead)

/-- The text of a number with at most `precision` digits, a half to the even
digit: positional while the leading digit stands within the precision and not
below 10⁻⁴, no zeros at the end of the part after the point. -/
def renderDigits (precision : Nat) (x : Binary64) : String :=
  match x with
  | .nan => "nan"
  | .infinite negative => if negative then "-inf" else "inf"
  | .finite negative m e =>
    let sign := if negative then ['-'] else []
    if m = 0 then String.ofList (sign ++ ['0'])
    else
      let (n, d) := fraction m e
      let lead := decimalExponent n d
      let (n, d) := scaled 10 n d (precision - 1 - lead)
      let rounded := Nat.toDigits 10 (roundHalfEven n d)
      let lead := if precision < rounded.length then lead + 1 else lead
      let kept := dropZeros (rounded.take precision)
      if -4 ≤ lead && lead < precision then
        let (whole, part) := positional kept (lead + 1)
        String.ofList (sign ++ whole ++ (if part.isEmpty then [] else '.' :: part))
      else String.ofList (sign ++ scientific kept lead)

end Binary64

end GoComplexity
