/-
# Dates and times of a configuration file

A date, a time of day, or both with an optional offset from universal time.
Each has two texts: the plain one, and the one that names its parts, which
stands in messages.

Key definitions: `Moment`, `Moment.render`, `Moment.describe`.
-/
namespace GoComplexity

/-- A day of the calendar. -/
structure Date where
  year : Nat
  month : Nat
  day : Nat
deriving DecidableEq, Repr, Inhabited

/-- A time of day. -/
structure Clock where
  hour : Nat
  minute : Nat
  second : Nat
  microsecond : Nat
deriving DecidableEq, Repr, Inhabited

/-- A date, a time or both; the offset is counted in minutes. -/
inductive Moment where
  | date (d : Date)
  | time (t : Clock)
  | both (d : Date) (t : Clock) (offset : Option Int)
deriving DecidableEq, Repr, Inhabited

/-- A number with zeros in front up to a width. -/
def padZero (width n : Nat) : String :=
  let digits := Nat.toDigits 10 n
  String.ofList (List.replicate (width - digits.length) '0' ++ digits)

namespace Date

def isLeap (year : Nat) : Bool := year % 4 == 0 && (year % 100 != 0 || year % 400 == 0)

def daysIn (year month : Nat) : Nat :=
  match month with
  | 2 => if isLeap year then 29 else 28
  | 4 | 6 | 9 | 11 => 30
  | _ => 31

/-- A day that the calendar has, in the years 1 to 9999. -/
def isValid (d : Date) : Bool :=
  1 ≤ d.year && d.year ≤ 9999 && 1 ≤ d.month && d.month ≤ 12 && 1 ≤ d.day &&
    d.day ≤ daysIn d.year d.month

def render (d : Date) : String := s!"{padZero 4 d.year}-{padZero 2 d.month}-{padZero 2 d.day}"

end Date

namespace Clock

/-- A time with a fraction of a second if it has one. -/
def render (t : Clock) : String :=
  let whole := s!"{padZero 2 t.hour}:{padZero 2 t.minute}:{padZero 2 t.second}"
  if t.microsecond = 0 then whole else s!"{whole}.{padZero 6 t.microsecond}"

end Clock

namespace Moment

/-- An offset of so many minutes, as hours and minutes. -/
def renderOffset (minutes : Int) : String :=
  let sign := if minutes < 0 then "-" else "+"
  s!"{sign}{padZero 2 (minutes.natAbs / 60)}:{padZero 2 (minutes.natAbs % 60)}"

/-- The plain text. -/
def render : Moment → String
  | .date d => d.render
  | .time t => t.render
  | .both d t offset => d.render ++ " " ++ t.render ++ (offset.map renderOffset).getD ""

/-- The name of the kind of a moment in messages. -/
def typeName : Moment → String
  | .date _ => "datetime.date"
  | .time _ => "datetime.time"
  | .both .. => "datetime.datetime"

/-- The second and its fraction without zeros at the end. -/
def describeSeconds (t : Clock) : List Nat :=
  if t.microsecond ≠ 0 then [t.second, t.microsecond]
  else if t.second ≠ 0 then [t.second]
  else []

/-- An offset by its parts: days may be negative, seconds are not. -/
def describeOffset (minutes : Int) : String :=
  if minutes = 0 then "datetime.timezone.utc"
  else
    let seconds := Int.emod (minutes * 60) 86400
    let days := Int.ediv (minutes * 60) 86400
    let parts := (if days = 0 then [] else [s!"days={days}"]) ++
      (if seconds = 0 then [] else [s!"seconds={seconds}"])
    "datetime.timezone(datetime.timedelta(" ++ ", ".intercalate parts ++ "))"

/-- The text that names the parts. -/
def describe (m : Moment) : String :=
  let numbers : List Nat :=
    match m with
    | .date d => [d.year, d.month, d.day]
    | .time t => [t.hour, t.minute] ++ describeSeconds t
    | .both d t _ => [d.year, d.month, d.day, t.hour, t.minute] ++ describeSeconds t
  let zone :=
    match m with
    | .both _ _ (some offset) => [s!"tzinfo={describeOffset offset}"]
    | _ => []
  m.typeName ++ "(" ++ ", ".intercalate (numbers.map toString ++ zone) ++ ")"

end Moment

end GoComplexity
