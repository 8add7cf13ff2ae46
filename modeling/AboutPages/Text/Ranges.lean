/-!
# Sets and maps of code points

A property of characters is a list of closed code-point ranges. A one-to-one map between characters
is a list of runs, each of which moves every `step`-th code point of an interval by the same amount.
-/

namespace AboutPages.Text

abbrev CodeRanges := List (Nat × Nat)

def CodeRanges.holds (ranges : CodeRanges) (n : Nat) : Bool :=
  ranges.any fun range => decide (range.1 ≤ n ∧ n ≤ range.2)

theorem CodeRanges.holds_iff (ranges : CodeRanges) (n : Nat) :
    CodeRanges.holds ranges n = true ↔ ∃ range ∈ ranges, range.1 ≤ n ∧ n ≤ range.2 := by
  simp [CodeRanges.holds]

/-- Every `step`-th code point from `first` to `last` moves so that `first` lands on `image`. -/
structure CodeRun where
  first : Nat
  last : Nat
  step : Nat
  image : Nat
  deriving DecidableEq, Repr

def CodeRun.covers (run : CodeRun) (n : Nat) : Bool :=
  decide (run.first ≤ n ∧ n ≤ run.last ∧ (n - run.first) % run.step = 0)

def CodeRun.apply (run : CodeRun) (n : Nat) : Nat :=
  run.image + (n - run.first)

/-- The image of a code point under the first run that covers it. -/
def CodeRun.image? (runs : List CodeRun) (n : Nat) : Option Nat :=
  (runs.find? (·.covers n)).map (·.apply n)

theorem CodeRun.image?_eq_none_iff (runs : List CodeRun) (n : Nat) :
    CodeRun.image? runs n = none ↔ ∀ run ∈ runs, run.covers n = false := by
  simp [CodeRun.image?]

end AboutPages.Text
