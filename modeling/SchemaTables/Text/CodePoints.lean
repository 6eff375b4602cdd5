/-
  SchemaTables.Text.CodePoints
  ────────────────────────────
  **SETS OF CODE POINTS.**

  The character classes of Unicode are unions of ranges.  A range has both
  its ends; a run `(first, last, step)` has every `step`-th code point from
  `first` up to `last`.
-/

namespace SchemaTables.Text

/-- Does one of the ranges hold `n`? -/
def inRanges (ranges : Array (Nat × Nat)) (n : Nat) : Bool :=
  ranges.any fun r => r.1 ≤ n && n ≤ r.2

/-- Does the run hold `n`? -/
def inRun (run : Nat × Nat × Nat) (n : Nat) : Bool :=
  run.1 ≤ n && n ≤ run.2.1 && (n - run.1) % run.2.2 = 0

/-- Does one of the runs hold `n`? -/
def inRuns (runs : Array (Nat × Nat × Nat)) (n : Nat) : Bool :=
  runs.any fun r => inRun r n

end SchemaTables.Text
