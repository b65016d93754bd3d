/-!
Sets of characters given as lists of intervals of scalar values. A character belongs to the set
when some interval of the list holds its value.
-/
namespace LineShell.Text

/-- An interval of scalar values, both ends included. -/
abbrev Range := Nat × Nat

/-- Whether a scalar value lies in one of the intervals. -/
def inRanges (ranges : List Range) (value : Nat) : Bool :=
  ranges.any fun range => range.1 ≤ value && value ≤ range.2

end LineShell.Text
