import LineShell.Text.Pieces
import LineShell.Text.Utf8

/-!
The lines of a file. A line ends in a line feed, and a carriage return right before that belongs
to the ending; the last line may go without.
-/
namespace LineShell.Text

abbrev lineFeed : UInt8 := 0x0A
abbrev carriageReturn : UInt8 := 0x0D

/-- A line without a carriage return at its end. -/
def withoutReturn (line : Bytes) : Bytes :=
  if line.getLast? = some carriageReturn then line.dropLast else line

/-- The lines without their endings. -/
def lines (content : Bytes) : List Bytes :=
  let cut := pieces (· == lineFeed) content
  let last := (cut.getLast?.getD [])
  cut.dropLast.map withoutReturn ++ (if last.isEmpty then [] else [last])

/-- The first line with its line feed, and what follows it. -/
def cutLine (bytes : Bytes) : Bytes × Bytes :=
  match bytes.dropWhile (· != lineFeed) with
  | [] => (bytes, [])
  | feed :: rest => (bytes.takeWhile (· != lineFeed) ++ [feed], rest)

/-- Cutting loses nothing. -/
theorem append_cutLine (bytes : Bytes) : (cutLine bytes).1 ++ (cutLine bytes).2 = bytes := by
  unfold cutLine
  split
  · simp
  · next feed rest cut =>
    rw [List.append_assoc, List.singleton_append, ← cut]
    exact List.takeWhile_append_dropWhile

/-- Something is cut off whatever is not empty. -/
theorem length_cutLine_lt {bytes : Bytes} (nonempty : bytes ≠ []) :
    (cutLine bytes).2.length < bytes.length := by
  have whole := congrArg List.length (append_cutLine bytes)
  rw [List.length_append] at whole
  have cut : (cutLine bytes).1 ≠ [] := by
    unfold cutLine
    split
    · exact nonempty
    · simp
  have := List.length_pos_iff.mpr cut
  omega

end LineShell.Text
