import LineShell.Fault
import LineShell.Text.Pieces

/-!
The arguments of a command line: the longest stretches of bytes that hold no delimiter. They are
kept in storage for 64 arguments that doubles whenever it is full, and a reservation may be
refused.
-/
namespace LineShell

/-- Space, tab, line feed, carriage return and bell. -/
def delimiters : Bytes := [0x20, 0x09, 0x0A, 0x0D, 0x07]

def isDelimiter (b : UInt8) : Bool := delimiters.contains b

/-- The words of a line: what lies between delimiters, where that is not empty. -/
def words (line : Bytes) : List Bytes :=
  (Text.pieces isDelimiter line).filter fun word => !word.isEmpty

/-- Arguments in their storage, with the capacities it passed through. -/
structure Arguments where
  tokens : Array Bytes
  capacity : Nat
  growth : List (Nat × Nat)
  fits : tokens.size ≤ capacity
  positive : 0 < capacity

namespace Arguments

def initialCapacity : Nat := 64

/-- Storage for `capacity` arguments in all, unless that is more than the limit. -/
def reserve (limit : Option Nat) (capacity : Nat) : Except Fault Unit :=
  if limit.all (capacity ≤ ·) then .ok () else .error { cause := .storageExhausted capacity }

def empty : Arguments := ⟨#[], initialCapacity, [], Nat.zero_le _, by decide⟩

/-- One more argument. Full storage doubles first. -/
def push (limit : Option Nat) (arguments : Arguments) (token : Bytes) : Except Fault Arguments :=
  if room : arguments.tokens.size < arguments.capacity then
    .ok { arguments with
      tokens := arguments.tokens.push token
      fits := by simpa using Nat.succ_le_of_lt room }
  else do
    let doubled := arguments.capacity * 2
    reserve limit doubled
    return {
      tokens := arguments.tokens.push token
      capacity := doubled
      growth := arguments.growth ++ [(arguments.capacity, doubled)]
      fits := by
        have := arguments.fits
        have := arguments.positive
        simp only [Array.size_push]
        omega
      positive := Nat.mul_pos arguments.positive (by decide) }

/-- The arguments of a line. -/
def ofLine (limit : Option Nat) (line : Bytes) : Except Fault Arguments := do
  reserve limit initialCapacity
  (words line).foldlM (push limit) empty

/-- All arguments, the command's name first. -/
def toList (arguments : Arguments) : List Bytes := arguments.tokens.toList

def name? (arguments : Arguments) : Option Bytes := arguments.toList.head?

/-- The arguments after the name. -/
def parameters (arguments : Arguments) : List Bytes := arguments.toList.tail

theorem toList_of_push {limit : Option Nat} {arguments longer : Arguments} {token : Bytes}
    (pushed : arguments.push limit token = .ok longer) :
    longer.toList = arguments.toList ++ [token] := by
  unfold push at pushed
  split at pushed
  · cases pushed
    simp [toList]
  · cases reserved : reserve limit (arguments.capacity * 2) with
    | error fault => simp [reserved, bind, Except.bind] at pushed
    | ok _ =>
      simp only [reserved, bind, Except.bind, pure, Except.pure, Except.ok.injEq] at pushed
      subst pushed
      simp [toList]

theorem toList_of_foldlM {limit : Option Nat} {tokens : List Bytes} :
    ∀ {arguments longer : Arguments}, tokens.foldlM (push limit) arguments = .ok longer →
      longer.toList = arguments.toList ++ tokens := by
  induction tokens with
  | nil => intro arguments longer folded; cases folded; simp
  | cons token rest ih =>
    intro arguments longer folded
    rw [List.foldlM_cons] at folded
    cases pushed : arguments.push limit token with
    | error fault => simp [pushed, bind, Except.bind] at folded
    | ok next =>
      simp only [pushed, bind, Except.bind] at folded
      rw [ih folded, toList_of_push pushed, List.append_assoc, List.singleton_append]

/-- No word is lost, added or moved. -/
theorem toList_of_ofLine {limit : Option Nat} {line : Bytes} {arguments : Arguments}
    (read : ofLine limit line = .ok arguments) : arguments.toList = words line := by
  unfold ofLine at read
  cases reserved : reserve limit initialCapacity with
  | error fault => simp [reserved, bind, Except.bind] at read
  | ok _ =>
    simp only [reserved, bind, Except.bind] at read
    simpa [empty, toList] using toList_of_foldlM read

end Arguments

end LineShell
