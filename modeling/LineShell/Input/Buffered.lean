import LineShell.Input.Stream

/-!
Lines of a stream that is read through a buffer. An empty buffer is filled with as much of the stream
as it has room for; a line is put together from as many fillings as it needs, and what follows it
stays in the buffer for the next one.
-/
namespace LineShell

/-- A stream, and what has been taken of it ahead. -/
structure BufferedStream where
  held : Bytes := []
  stream : Stream
  room : Nat := 8192
  positive : 0 < room := by decide

namespace BufferedStream

/-- How much can still be read. -/
def size (buffered : BufferedStream) : Nat := buffered.held.length + buffered.stream.input.length

/-- Takes bytes ahead if none are held. -/
def fill (buffered : BufferedStream) : BufferedStream :=
  if buffered.held = [] then
    { buffered with
      held := buffered.stream.input.take buffered.room
      stream := { buffered.stream with input := buffered.stream.input.drop buffered.room } }
  else buffered

theorem size_fill (buffered : BufferedStream) : buffered.fill.size = buffered.size := by
  unfold fill
  split
  · next empty =>
    simp only [size, empty, List.length_take, List.length_drop, List.length_nil]
    omega
  · rfl

/-- The rest of a line of which some bytes have been gathered, and what is left after it. A line that
the end of the stream cuts off is handed over, and one that is cut off where the stream breaks off is
lost. -/
def gather (gathered : Bytes) (buffered : BufferedStream) :
    Except Fault (Option Bytes) × BufferedStream :=
  if buffered.fill.held = [] then
    match buffered.stream.failure with
    | some reason => (.error { cause := .lineNotRead reason }, buffered.fill)
    | none => (.ok (if gathered = [] then none else some gathered), buffered.fill)
  else if buffered.fill.held.contains Text.lineFeed then
    (.ok (some (gathered ++ (Text.cutLine buffered.fill.held).1)),
      { buffered.fill with held := (Text.cutLine buffered.fill.held).2 })
  else gather (gathered ++ buffered.fill.held) { buffered.fill with held := [] }
termination_by buffered.size
decreasing_by
  rename_i more _
  have := List.length_pos_iff.mpr more
  rw [← size_fill buffered]
  simp only [size, List.length_nil]
  omega

/-- The next line, or that there is none. The prompt is written all the same. -/
def read (buffered : BufferedStream) (prompt : String) (world : World) : Reading BufferedStream :=
  let written := buffered.stream.prompts.write (Bytes.ofString prompt)
  let prompts := if written.whole then written.writer.flush.2 else written.writer
  let (answer, rest) := buffered.gather []
  { answer
    source := { rest with stream := { rest.stream with prompts } }
    files := world.files
    printed := Printed.of .prompt written.taken
    warnings := [] }

/-- Less is left than there was with what had been gathered. -/
theorem size_gather_lt {gathered line : Bytes} {buffered : BufferedStream}
    (given : (buffered.gather gathered).1 = .ok (some line)) :
    (buffered.gather gathered).2.size < gathered.length + buffered.size := by
  fun_induction gather gathered buffered with
  | case1 => simp at given
  | case2 gathered buffered _ _ =>
    have some : gathered ≠ [] := by
      rintro rfl
      simp at given
    have := List.length_pos_iff.mpr some
    rw [size_fill]
    omega
  | case3 gathered buffered filled _ =>
    have := Text.length_cutLine_lt filled
    rw [← size_fill buffered]
    simp only [size]
    omega
  | case4 gathered buffered _ _ ih =>
    have later := ih given
    rw [← size_fill buffered]
    simp only [size, List.length_append, List.length_nil] at later ⊢
    omega

/-- No program reads from a stream. -/
instance : LineSource BufferedStream where
  read := read
  supply _ := {}
  restock buffered _ := buffered
  size := size
  size_read given := Nat.lt_of_lt_of_eq (size_gather_lt given) (Nat.zero_add _)
  size_restock _ := Nat.le_refl _

end BufferedStream

end LineShell
