/-!
# Code point ranges

A character property is a list of closed code point ranges. Membership is one scan of the
list, so a property is exactly the union of its ranges.
-/

namespace GoAddress.Text

/-- A closed range of code points. -/
abbrev CodeRange := Nat × Nat

/-- Whether the character lies in one of the ranges. -/
def inRanges (ranges : List CodeRange) (c : Char) : Bool :=
  ranges.any fun r => r.1 ≤ c.toNat && c.toNat ≤ r.2

/-- Membership is membership in some range. -/
theorem inRanges_iff (ranges : List CodeRange) (c : Char) :
    inRanges ranges c = true ↔ ∃ r ∈ ranges, r.1 ≤ c.toNat ∧ c.toNat ≤ r.2 := by
  simp [inRanges]

/-- Every `step`-th code point from `first` to `last`. -/
structure CodeRun where
  /-- The first code point of the run. -/
  first : Nat
  /-- The last code point of the run. -/
  last : Nat
  /-- The distance between neighbours. -/
  step : Nat

/-- Whether the code point belongs to the run. -/
def CodeRun.contains (run : CodeRun) (n : Nat) : Bool :=
  run.first ≤ n && n ≤ run.last && (n - run.first) % run.step == 0

end GoAddress.Text
