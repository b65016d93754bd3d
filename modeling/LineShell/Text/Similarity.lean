import LineShell.Text.Utf8

/-!
Jaro similarity of two texts: how many characters they share at nearly the same places, and how
many of those are out of order. It is measured in floating point, which settles what comes out
even.
-/
namespace LineShell.Text

/-- The first place from `low` on and below `high` at which `c` stands and has not been taken. -/
def freePlace (c : Char) (low high : Nat) (text : Text) (taken : List Nat) : Option Nat :=
  (List.range text.length).find? fun place =>
    low ≤ place && place < high && text[place]? == some c && !taken.contains place

/-- The places in `second` that the characters of `first` are matched with, in the order of
`first`. -/
def matchedPlaces (first second : Text) : List (Char × Nat) :=
  let reach := max first.length second.length / 2 - 1
  (first.zipIdx.foldl (fun (matched : List (Char × Nat)) (c, place) =>
    match freePlace c (place - reach) (place + reach + 1) second (matched.map (·.2)) with
    | some other => (c, other) :: matched
    | none => matched) []).reverse

/-- How many of the matched characters are in order; of those that are not, half are counted. -/
def keptInOrder (second : Text) (matched : List (Char × Nat)) : Nat :=
  let inOrder := (matched.map (·.2)).mergeSort (· ≤ ·)
  let moved := ((matched.map (·.1)).zip (inOrder.map fun place => second[place]?)).countP
    fun (c, other) => some c != other
  matched.length - moved / 2

/-- The similarity, from 0 for nothing in common to 1 for the same text: the mean of the shares
of both texts that match and of the matches that are in order. -/
def similarity (first second : Text) : Float :=
  let matched := matchedPlaces first second
  let share := fun (part whole : Nat) => Float.ofNat part / Float.ofNat whole
  if first = [] ∧ second = [] then 1
  else if matched = [] then 0
  else
    (share matched.length first.length + share matched.length second.length +
      share (keptInOrder second matched) matched.length) / 3

end LineShell.Text
