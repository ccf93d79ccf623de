/-
# Values of settings

A setting comes from a file, the environment, the command line or a caller,
and its value may be of any type that these can give.  A value has a plain
text, a text for messages (quoted and with brackets), a type name and a truth;
numbers can be compared with integers, and a comparison of anything else fails.

Key definitions: `Value`, `Value.render`, `Value.describe`, `Value.truthy`,
`Value.compareInt`, `TypeFault`.
-/
import GoComplexity.Moment
import GoComplexity.Number.Binary64
import GoComplexity.Text.Quoted

namespace GoComplexity

/-- A value of a setting. -/
inductive Value where
  | none
  | bool (b : Bool)
  | int (n : Int)
  | float (x : Binary64)
  | text (s : String)
  | list (xs : List Value)
  | table (entries : List (String × Value))
  | moment (m : Moment)
deriving Inhabited

/-- Why a value of the wrong type cannot be used. -/
inductive TypeFault where
  /-- The two types have no order. -/
  | notOrdered (operator left right : String)
  /-- The value has no elements. -/
  | notIterable (type : String)
  /-- The value cannot be looked up. -/
  | unhashable (type : String)
  /-- The value is no pattern. -/
  | notPattern
  /-- The value is no path. -/
  | notPath (type : String)
  /-- The value is no suffix of a name. -/
  | notSuffix (type : String)
deriving DecidableEq, Repr, Inhabited

/-- The wording of a type fault. -/
def TypeFault.message : TypeFault → String
  | .notOrdered operator left right =>
    s!"'{operator}' not supported between instances of '{left}' and '{right}'"
  | .notIterable type => s!"'{type}' object is not iterable"
  | .unhashable type => s!"unhashable type: '{type}'"
  | .notPattern => "first argument must be string or compiled pattern"
  | .notPath type => s!"expected str, bytes or os.PathLike object, not {type}"
  | .notSuffix type => s!"tuple for endswith must only contain str, not {type}"

namespace Value

/-- The name of a value's type in messages. -/
def typeName : Value → String
  | .none => "NoneType"
  | .bool _ => "bool"
  | .int _ => "int"
  | .float _ => "float"
  | .text _ => "str"
  | .list _ => "list"
  | .table _ => "dict"
  | .moment m => m.typeName

/-- A value is true unless it is absent, false, zero or empty. -/
def truthy : Value → Bool
  | .none => false
  | .bool b => b
  | .int n => n ≠ 0
  | .float x => x.compareInt 0 ≠ some .eq
  | .text s => s ≠ ""
  | .list xs => !xs.isEmpty
  | .table entries => !entries.isEmpty
  | .moment _ => true

/-- The text of a value that is no list or table, in a message. -/
def describeAtom : Value → String
  | .none => "None"
  | .bool b => if b then "True" else "False"
  | .int n => toString n
  | .float x => x.render
  | .text s => Text.quote s
  | .moment m => m.describe
  | .list _ | .table _ => ""

mutual

/-- The text of a value in a message. -/
def describe : Value → String
  | .list xs => "[" ++ ", ".intercalate (describeAll xs) ++ "]"
  | .table entries => "\x7b" ++ ", ".intercalate (describeEntries entries) ++ "\x7d"
  | .none => describeAtom .none
  | .bool b => describeAtom (.bool b)
  | .int n => describeAtom (.int n)
  | .float x => describeAtom (.float x)
  | .text s => describeAtom (.text s)
  | .moment m => describeAtom (.moment m)

def describeAll : List Value → List String
  | [] => []
  | v :: vs => describe v :: describeAll vs

def describeEntries : List (String × Value) → List String
  | [] => []
  | (key, v) :: rest => (Text.quote key ++ ": " ++ describe v) :: describeEntries rest

end

/-- The plain text of a value: texts and dates as they are. -/
def render : Value → String
  | .text s => s
  | .moment m => m.render
  | v => v.describe

/-- The number that a value is, truth values counting as zero and one. -/
def number? : Value → Option Binary64
  | .float x => some x
  | _ => Option.none

/-- The integer that a value is, truth values counting as zero and one. -/
def integer? : Value → Option Int
  | .int n => some n
  | .bool b => some (if b then 1 else 0)
  | _ => Option.none

/-- How a value compares with an integer: not at all for a number that is none,
and a fault for a value that is no number. -/
def compareInt (operator : String) (v : Value) (n : Int) : Except TypeFault (Option Ordering) :=
  match v.integer?, v.number? with
  | some k, _ => .ok (some (compare k n))
  | _, some x => .ok (x.compareInt n)
  | _, _ => .error (.notOrdered operator v.typeName "int")

/-- Whether a value is below an integer. -/
def isBelow (v : Value) (n : Int) : Except TypeFault Bool :=
  (v.compareInt "<" n).map (· == some .lt)

/-- Whether a value is above an integer. -/
def isAbove (v : Value) (n : Int) : Except TypeFault Bool :=
  (v.compareInt ">" n).map (· == some .gt)

/-- The integer that a value equals, if there is one. -/
def equalInt? (v : Value) : Option Int :=
  match v.integer?, v.number? with
  | some k, _ => some k
  | _, some x => x.toInt?
  | _, _ => Option.none

end Value

end GoComplexity
