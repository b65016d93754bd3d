import LineShell.Text.Utf8

/-!
A place that output goes to. It may hold only so many bytes in all, and may fail to pass on what
it holds; before that it may do as it likes for a while. A write that does not fit is cut, and what
fits is taken.
-/
namespace LineShell

/-- How a place treats one request: the bytes it takes if that is a write, and whether it passes
on what it holds if that is a flush. -/
structure Writer.Reply where
  takes : Nat
  flushes : Bool
  deriving DecidableEq, Repr

/-- The replies are used up first, one for each write and each flush. -/
structure Writer where
  room : Option Nat := none
  flushFails : Bool := false
  replies : List Writer.Reply := []
  deriving DecidableEq, Repr

/-- What came of a write: the bytes taken, whether those were all, and the writer afterwards. -/
structure Written where
  taken : Bytes
  whole : Bool
  writer : Writer

namespace Writer

def write (writer : Writer) (bytes : Bytes) : Written :=
  match writer.replies with
  | reply :: later =>
    ⟨bytes.take reply.takes, bytes.length ≤ reply.takes, { writer with replies := later }⟩
  | [] =>
    match writer.room with
    | none => ⟨bytes, true, writer⟩
    | some room =>
      ⟨bytes.take room, bytes.length ≤ room, { writer with room := some (room - bytes.length) }⟩

/-- Writes one after the other, up to the first that fails. -/
def writeEach (writer : Writer) : List Bytes → Written
  | [] => ⟨[], true, writer⟩
  | bytes :: rest =>
    let first := writer.write bytes
    if first.whole then
      let others := first.writer.writeEach rest
      ⟨first.taken ++ others.taken, others.whole, others.writer⟩
    else first

/-- Whether what has been taken is passed on, and the writer afterwards. -/
def flush (writer : Writer) : Bool × Writer :=
  match writer.replies with
  | reply :: later => (reply.flushes, { writer with replies := later })
  | [] => (!writer.flushFails, writer)

theorem taken_write_isPrefix (writer : Writer) (bytes : Bytes) :
    (writer.write bytes).taken <+: bytes := by
  unfold write
  split
  · exact List.take_prefix ..
  · split
    · exact List.prefix_rfl
    · exact List.take_prefix ..

/-- A write that is not cut takes all there is. -/
theorem taken_of_whole {writer : Writer} {bytes : Bytes} (whole : (writer.write bytes).whole = true) :
    (writer.write bytes).taken = bytes := by
  unfold write at whole ⊢
  split at whole
  · exact List.take_of_length_le (of_decide_eq_true whole)
  · split at whole
    · rfl
    · exact List.take_of_length_le (of_decide_eq_true whole)

/-- Several writes take a first piece of all their bytes. -/
theorem taken_writeEach_isPrefix (writer : Writer) (all : List Bytes) :
    (writer.writeEach all).taken <+: all.flatten := by
  induction all generalizing writer with
  | nil => exact List.prefix_rfl
  | cons bytes rest ih =>
    simp only [writeEach, List.flatten_cons]
    split
    · next whole =>
      rw [taken_of_whole whole]
      exact (List.prefix_append_right_inj bytes).mpr (ih _)
    · exact (taken_write_isPrefix writer bytes).trans (List.prefix_append ..)

end Writer

end LineShell
