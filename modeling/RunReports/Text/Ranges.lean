/-! # Ranges

Sets of numbers as tables of ranges, in ascending order and with gaps between them. -/
namespace RunReports.Text

/-- Binary search for a range that holds the code point, among the ranges from `low` on and
before `high`; every step halves the distance, so `steps` bounds the search. -/
def searchRanges (ranges : Array (Nat × Nat)) (n : Nat) : Nat → Nat → Nat → Bool
  | 0, _, _ => false
  | steps + 1, low, high =>
    if low < high then
      let middle := (low + high) / 2
      match ranges[middle]? with
      | none => false
      | some (first, last) =>
        if n < first then searchRanges ranges n steps low middle
        else if last < n then searchRanges ranges n steps (middle + 1) high
        else true
    else false

/-- Whether one of the ranges holds a number. A table has fewer than 65536 ranges. -/
def inRanges (ranges : Array (Nat × Nat)) (n : Nat) : Bool :=
  searchRanges ranges n 16 0 ranges.size

end RunReports.Text
