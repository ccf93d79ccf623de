/-
# Ranking and aggregates

A report ranks scores by descending value, equal values in the order in which
they come, keeps those above a bar and cuts the list at a length.

Key definitions: `Bar`, `ranked`, `select`, `total`, `slice`.
-/
import GoComplexity.Score.Stat

namespace GoComplexity

/-- What a score has to exceed to be kept: nothing, a value, or more than any
score has. -/
inductive Bar where
  | open
  | above (value : Int)
  | shut
deriving DecidableEq, Repr, Inhabited

namespace Bar

/-- The bar of a bound; a bound of zero or less keeps everything. -/
def ofInt (bound : Int) : Bar := if 0 < bound then .above bound else .open

/-- Whether a score passes the bar. -/
def passes (b : Bar) (score : Int) : Bool :=
  match b with
  | .open => true
  | .above value => value < score
  | .shut => false

end Bar

/-- The scores by descending value, equal ones in the order in which they come. -/
def ranked (m : Metric) (stats : List Stat) : List Stat :=
  stats.mergeSort fun a b => b.value m ≤ a.value m

/-- Cuts a ranked list at a length, and before the first score that does not
pass the bar; a negative length keeps all. -/
def cut (m : Metric) (bar : Bar) : Int → List Stat → List Stat
  | _, [] => []
  | top, s :: rest =>
    if top = 0 then []
    else if bar.passes (s.value m) then s :: cut m bar (top - 1) rest
    else []

/-- The scores above the bar, ranked, at most `top` of them. -/
def select (m : Metric) (top : Int) (bar : Bar) (stats : List Stat) : List Stat :=
  cut m bar top (ranked m stats)

/-- The sum of a measure. -/
def total (m : Metric) (stats : List Stat) : Int :=
  stats.foldr (fun s sum => s.value m + sum) 0

/-- The element at a place; a negative place counts from the end. -/
def elementAt? {α : Type} (xs : List α) (i : Int) : Option α :=
  if 0 ≤ i then xs[i.toNat]?
  else if -i ≤ xs.length then xs[(xs.length + i).toNat]?
  else none

/-- The bounds of a slice with their defaults filled in, clipped to a list of
`n` elements; a negative bound counts from the end. -/
def sliceBounds (n : Nat) (start stop : Option Int) (step : Int) : Int × Int :=
  let (least, most) : Int × Int := if 0 < step then (0, n) else (-1, n - 1)
  let clip (bound : Option Int) (default : Int) : Int :=
    match bound with
    | none => default
    | some b => if b < 0 then max least (b + n) else min most b
  if 0 < step then (clip start least, clip stop most) else (clip start most, clip stop least)

/-- The places of a slice: from `start` by steps, before `stop`. -/
def slicePlaces (n : Nat) (start stop : Option Int) (step : Int) : List Nat :=
  let (first, last) := sliceBounds n start stop step
  let count : Int :=
    if 0 < step then (last - first + step - 1) / step else (first - last + -step - 1) / -step
  (List.range count.toNat).map fun (k : Nat) => (first + (k : Int) * step).toNat

/-- Every `step`-th element from `start` on and before `stop`; a step of zero
is none. -/
def slice {α : Type} (xs : List α) (start stop : Option Int) (step : Int) : Option (List α) :=
  if step = 0 then none
  else some ((slicePlaces xs.length start stop step).filterMap (xs[·]?))

end GoComplexity
