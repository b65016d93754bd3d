import LineShell.Text.Utf8

/-!
What is printed, piece by piece in order, with where it comes from.
-/
namespace LineShell

inductive Channel where
  | prompt
  | builtin
  | program
  | programError
  | diagnostic
  deriving DecidableEq, Repr

/-- Diagnostics and a program's complaints go to the error stream, all else to the output
stream. -/
def Channel.isError : Channel → Bool
  | .programError | .diagnostic => true
  | _ => false

structure Printed where
  channel : Channel
  bytes : Bytes
  deriving DecidableEq, Repr

namespace Printed

/-- All bytes of the pieces whose channel is chosen. -/
def select (chosen : Channel → Bool) (pieces : List Printed) : Bytes :=
  (pieces.filter fun piece => chosen piece.channel).flatMap (·.bytes)

def output (pieces : List Printed) : Bytes := select (!·.isError) pieces

def errors (pieces : List Printed) : Bytes := select (·.isError) pieces

/-- The pieces of one text, none if it is empty. -/
def of (channel : Channel) (bytes : Bytes) : List Printed :=
  if bytes = [] then [] else [⟨channel, bytes⟩]

theorem select_append (chosen : Channel → Bool) (first second : List Printed) :
    select chosen (first ++ second) = select chosen first ++ select chosen second := by
  simp [select]

/-- A text is all that is chosen of its pieces, if its channel is. -/
theorem select_of {chosen : Channel → Bool} {channel : Channel} (within : chosen channel = true)
    (bytes : Bytes) : select chosen (of channel bytes) = bytes := by
  unfold of
  split
  · next empty => simp [select, empty]
  · simp [select, within]

/-- Nothing of it is, if its channel is not. -/
theorem select_of_other {chosen : Channel → Bool} {channel : Channel}
    (other : chosen channel = false) (bytes : Bytes) : select chosen (of channel bytes) = [] := by
  unfold of
  split
  · rfl
  · simp [select, other]

end Printed

end LineShell
