/-
# Integers from text

An integer is read from decimal digits of any script, with blanks around them,
a sign in front, and single low lines between digits.  Texts of more than 4300
digits are refused.

Key definitions: `readInteger`, `IntegerFault`, `digitLimit`.
-/
import GoComplexity.Text.Blank
import GoComplexity.Text.Digit
import GoComplexity.Text.Quoted

namespace GoComplexity

/-- Why a text is no integer. -/
inductive IntegerFault where
  /-- The text has the wrong form. -/
  | malformed (text : String)
  /-- The text has too many digits. -/
  | tooLong (digits : Nat)
deriving DecidableEq, Repr, Inhabited

/-- The most digits that an integer may have. -/
def digitLimit : Nat := 4300

/-- The wording of an integer fault. -/
def IntegerFault.message : IntegerFault → String
  | .malformed text => s!"invalid literal for int() with base 10: {Text.quote text}"
  | .tooLong digits =>
    s!"Exceeds the limit ({digitLimit} digits) for integer string conversion: " ++
      s!"value has {digits} digits; use sys.set_int_max_str_digits() to increase the limit"

/-- The digits of a text in which single low lines may stand between digits. -/
def digitsOf? : List Char → Option (List Nat)
  | [] => none
  | [c] => (Text.decimalValue? c).map ([·])
  | c :: '_' :: rest => do return (← Text.decimalValue? c) :: (← digitsOf? rest)
  | c :: rest => do return (← Text.decimalValue? c) :: (← digitsOf? rest)

/-- The number that decimal digits stand for, the first one the highest. -/
def ofDigits (digits : List Nat) : Nat := digits.foldl (fun n d => 10 * n + d) 0

/-- The integer that a text stands for. -/
def readInteger (s : String) : Except IntegerFault Int :=
  let cs := Text.trimChars s.toList
  let (negative, digits) : Bool × List Char :=
    match cs with
    | '-' :: rest => (true, rest)
    | '+' :: rest => (false, rest)
    | _ => (false, cs)
  match digitsOf? digits with
  | none => .error (.malformed s)
  | some ds =>
    if digitLimit < ds.length then .error (.tooLong ds.length)
    else .ok (if negative then -(ofDigits ds : Int) else ofDigits ds)

end GoComplexity
