/-
# Runs

A run writes log records as it goes and may end early with a problem; the
records written up to then remain.

Key definitions: `Run`, `Run.log`, `Run.capture`, `Run.records`.
-/
import GoComplexity.Log
import GoComplexity.Problem

namespace GoComplexity

/-- A computation that logs and may end with a problem. -/
abbrev Run := ExceptT Problem (StateM (List Record))

namespace Run

/-- Writes a record. -/
def log (level : Level) (origin : Origin) (message : String) : Run Unit :=
  modify fun records => records ++ [⟨level, origin, message⟩]

/-- Writes records. -/
def logAll (records : List Record) : Run Unit := modify fun before => before ++ records

/-- Runs a computation whose problem is a result like any other. -/
def capture {α : Type} (r : Run α) : Run (Except Problem α) := ExceptT.lift r.run

/-- What a computation comes to, and what it logs. -/
def records {α : Type} (r : Run α) : Except Problem α × List Record := r.run.run []

end Run

end GoComplexity
