import LineShell.Input.Source
import LineShell.Text.Lines
import LineShell.Writer

/-!
Lines of a stream, as they stand: a line keeps its line feed and need not be text. Prompts are
written all the same, and a prompt that cannot be written changes nothing.
-/
namespace LineShell

/-- What is left of a stream. A stream that breaks off does so with the text of an error. -/
structure Stream where
  input : Bytes
  failure : Option String := none
  prompts : Writer := {}

namespace Stream

/-- The next line and the bytes after it. An unfinished line before a break is lost. -/
def next (stream : Stream) : Except Fault (Option Bytes) × Bytes :=
  let (line, rest) := Text.cutLine stream.input
  match stream.failure with
  | some reason =>
    if line.getLast? = some Text.lineFeed then (.ok (some line), rest)
    else (.error { cause := .lineNotRead reason }, rest)
  | none => if line = [] then (.ok none, []) else (.ok (some line), rest)

def read (stream : Stream) (prompt : String) (world : World) : Reading Stream :=
  let written := stream.prompts.write (Bytes.ofString prompt)
  let prompts := if written.whole then written.writer.flush.2 else written.writer
  let (answer, rest) := stream.next
  { answer
    source := { stream with input := rest, prompts }
    files := world.files
    printed := Printed.of .prompt written.taken
    warnings := [] }

theorem length_next_lt {stream : Stream} {line : Bytes} (given : stream.next.1 = .ok (some line)) :
    stream.next.2.length < stream.input.length := by
  have shorter : stream.input ≠ [] → (Text.cutLine stream.input).2.length < stream.input.length :=
    Text.length_cutLine_lt
  unfold next at given ⊢
  rcases h : stream.input with _ | ⟨first, others⟩
  · rw [h] at given
    cases failing : stream.failure <;> simp [failing, Text.cutLine] at given
  · rw [h] at shorter given
    have := shorter (by simp)
    cases failing : stream.failure with
    | some reason => simp only; split <;> exact this
    | none =>
      simp only
      split
      · exact Nat.zero_lt_succ _
      · exact this

/-- No program reads from a stream. -/
instance : LineSource Stream where
  read := read
  supply _ := {}
  restock stream _ := stream
  size stream := stream.input.length
  size_read given := length_next_lt given
  size_restock _ := Nat.le_refl _

end Stream

end LineShell
