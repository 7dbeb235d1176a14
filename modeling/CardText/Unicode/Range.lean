/-! Tables of code points. A property of characters is a list of closed ranges in
ascending order, or of runs that step over every second code point, as the
alternating capital and small letters of many scripts do. -/
namespace CardText.Unicode

/-- The table ascends, so the search ends at the first range above `n`. -/
def inRanges : List (Nat × Nat) → Nat → Bool
  | [], _ => false
  | (first, last) :: rest, n =>
      if n < first then false else if n ≤ last then true else inRanges rest n

/-- A run `(first, last, step)` holds `first`, `first + step`, … up to `last`; runs do not
overlap. -/
def inRuns : List (Nat × Nat × Nat) → Nat → Bool
  | [], _ => false
  | (first, last, step) :: rest, n =>
      if n < first then false
      else if n ≤ last then (n - first) % step == 0
      else inRuns rest n

end CardText.Unicode
