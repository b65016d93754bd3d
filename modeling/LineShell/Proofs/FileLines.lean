import LineShell.Proofs.Encoding
import LineShell.Proofs.Layout
import Mathlib.Data.List.Basic

/-!
# The lines of a file

A file is cut at its line feeds, and a carriage return right before one goes with it; a last line
may go without (`lines_append_feed`, `lines_unique`). The marks that are dropped are ASCII, so a
file is text exactly if each of its lines is (`valid_iff_lines`).
-/
namespace LineShell.Text

/-- A line without its carriage return, if it ends in one. -/
theorem withoutReturn_cases (line : Bytes) :
    withoutReturn line = line ∨ line = withoutReturn line ++ [carriageReturn] := by
  unfold withoutReturn
  split
  · next ends => exact .inr (List.dropLast_append_getLast? _ ends).symm
  · exact .inl rfl

/-- A line that does not end in a carriage return is kept as it is. -/
theorem withoutReturn_of_last {line : Bytes} (plain : line.getLast? ≠ some carriageReturn) :
    withoutReturn line = line :=
  if_neg plain

/-- The carriage return is ASCII, so a line is text with it or without. -/
theorem valid_withoutReturn (line : Bytes) :
    Utf8.valid (withoutReturn line) = Utf8.valid line := by
  rcases withoutReturn_cases line with same | ended
  · rw [same]
  · have cut := Utf8.valid_append_ascii (by decide : carriageReturn < 0x80) (withoutReturn line) []
    rw [← ended] at cut
    rw [cut]
    exact (Bool.and_true _).symm

theorem pieces_of_noFeed {line : Bytes} (noFeed : lineFeed ∉ line) :
    pieces (· == lineFeed) line = [line] := by
  apply pieces_of_noMark
  intro byte within
  exact beq_eq_false_iff_ne.mpr fun same => noFeed (same ▸ within)

/-- Up to its first line feed, a file is one line. -/
theorem lines_append_feed {front : Bytes} (noFeed : lineFeed ∉ front) (back : Bytes) :
    lines (front ++ lineFeed :: back) = withoutReturn front :: lines back := by
  obtain ⟨first, others, rest⟩ := List.exists_cons_of_ne_nil (pieces_ne_nil (· == lineFeed) back)
  have cut : pieces (· == lineFeed) (front ++ lineFeed :: back) = front :: first :: others := by
    have parted := @pieces_append_mark _ (· == lineFeed) lineFeed rfl front back
    rw [parted, pieces_of_noFeed noFeed, rest, List.singleton_append]
  simp [lines, cut, rest]

/-- Without a line feed there is nothing but the last line. -/
theorem lines_of_noFeed {line : Bytes} (noFeed : lineFeed ∉ line) :
    lines line = if line = [] then [] else [line] := by
  simp [lines, pieces_of_noFeed noFeed]

/-- Only these lines give a file: those that are ended, and then what stands after the last line
feed. -/
theorem lines_unique {ended : List Bytes} {last : Bytes} (noFeed : ∀ line ∈ ended, lineFeed ∉ line)
    (lastNoFeed : lineFeed ∉ last) :
    lines (ended.flatMap (· ++ [lineFeed]) ++ last) =
      ended.map withoutReturn ++ if last = [] then [] else [last] := by
  induction ended with
  | nil => exact lines_of_noFeed lastNoFeed
  | cons line rest ih =>
    have tail := ih fun other within => noFeed other (List.mem_cons_of_mem _ within)
    have first := noFeed line (List.mem_cons_self ..)
    rw [List.flatMap_cons, List.append_assoc, List.append_assoc, List.singleton_append,
      lines_append_feed first, tail, List.map_cons, List.cons_append]

/-- A file is text exactly if each of its lines is. -/
theorem valid_iff_lines (content : Bytes) :
    Utf8.valid content = true ↔ ∀ line ∈ lines content, Utf8.valid line = true := by
  induction content using line_induction with
  | last line noFeed =>
    rw [lines_of_noFeed noFeed]
    by_cases empty : line = []
    · simp [empty, Utf8.valid, Utf8.units, Utf8.finish]
    · simp [empty]
  | ended front back noFeed ih =>
    rw [lines_append_feed noFeed, Utf8.valid_append_ascii (by decide), Bool.and_eq_true, ih,
      List.forall_mem_cons, valid_withoutReturn]

end LineShell.Text
