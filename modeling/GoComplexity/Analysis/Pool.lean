/-
# Tasks that finish in any order

Tasks may be worked on at the same time and finish in any order.  Their results
are kept by place and read in the order of the tasks, so that the first problem
in that order ends the run.

Key definitions: `runPool`.
-/
import GoComplexity.Analysis.Run

namespace GoComplexity

/-- Finishes tasks in an order given by their places; each result is kept with
its place. -/
def finishAll {α : Type} (tasks : List (Run α)) : List Nat → Run (List (Nat × Except Problem α))
  | [] => return []
  | i :: order =>
    match tasks[i]? with
    | none => finishAll tasks order
    | some task => do
      let result ← task.capture
      return (i, result) :: (← finishAll tasks order)

/-- The results of tasks that finish in an order. -/
def runPool {α : Type} (order : List Nat) (tasks : List (Run α)) : Run (List α) := do
  let finished ← finishAll tasks order
  (List.range tasks.length).filterMapM fun i =>
    match finished.lookup i with
    | some (.ok a) => return some a
    | some (.error problem) => throw problem
    | none => return none

end GoComplexity
