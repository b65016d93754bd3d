import LineShell.Input.Stream
import Mathlib.Data.List.TakeWhile

/-!
# The lines of a stream

A byte string is cut into lines that keep their line feeds, and the cut is the only one there is
(`endedLines_unique`). A stream hands over these lines one after the other; where it breaks off, a
line without an end is not among them.
-/
namespace LineShell

namespace Text

/-- The lines of a byte string, each with its line feed. The last one may lack that. -/
def endedLines : Bytes → List Bytes
  | [] => []
  | byte :: rest =>
    if byte = lineFeed then [byte] :: endedLines rest
    else match endedLines rest with
      | [] => [[byte]]
      | first :: others => (byte :: first) :: others

@[simp] theorem endedLines_nil : endedLines [] = [] := rfl

/-- Up to its first line feed, a byte string is one line. -/
theorem endedLines_append_feed {front : Bytes} (noFeed : lineFeed ∉ front) (back : Bytes) :
    endedLines (front ++ lineFeed :: back) = (front ++ [lineFeed]) :: endedLines back := by
  induction front with
  | nil => simp [endedLines]
  | cons byte front ih =>
    have plain : byte ≠ lineFeed := fun same => noFeed (by simp [same])
    have rest := ih fun within => noFeed (List.mem_cons_of_mem _ within)
    simp [endedLines, plain, rest]

/-- Without a line feed there is nothing but the last line. -/
theorem endedLines_of_noFeed {line : Bytes} (noFeed : lineFeed ∉ line) (nonempty : line ≠ []) :
    endedLines line = [line] := by
  induction line with
  | nil => exact absurd rfl nonempty
  | cons byte rest ih =>
    have plain : byte ≠ lineFeed := fun same => noFeed (by simp [same])
    cases rest with
    | nil => simp [endedLines, plain]
    | cons next later =>
      have tail := ih (fun within => noFeed (List.mem_cons_of_mem _ within)) (by simp)
      rw [endedLines, if_neg plain, tail]

/-- Induction along the lines of a byte string, from the last one on. -/
theorem line_induction {motive : Bytes → Prop} (last : ∀ line, lineFeed ∉ line → motive line)
    (ended : ∀ front back, lineFeed ∉ front → motive back → motive (front ++ lineFeed :: back))
    (bytes : Bytes) : motive bytes := by
  induction size : bytes.length using Nat.strongRecOn generalizing bytes with
  | ind size ih =>
    by_cases feed : lineFeed ∈ bytes
    · obtain ⟨front, back, rfl, noFeed⟩ := List.eq_append_cons_of_mem feed
      refine ended front back noFeed (ih back.length ?_ back rfl)
      rw [← size, List.length_append, List.length_cons]
      omega
    · exact last bytes feed

/-- A line with its line feed and no other. -/
def IsEnded (line : Bytes) : Prop := ∃ front, lineFeed ∉ front ∧ line = front ++ [lineFeed]

/-- Only one list of lines gives a byte string: lines with their line feeds and, at the end, one
that lacks it and is not empty. -/
theorem endedLines_unique {ended : List Bytes} {last : Bytes}
    (feeds : ∀ line ∈ ended, IsEnded line) (noFeed : lineFeed ∉ last) :
    endedLines (ended.flatten ++ last) = ended ++ if last = [] then [] else [last] := by
  induction ended with
  | nil =>
    by_cases empty : last = []
    · simp [empty]
    · simp [endedLines_of_noFeed noFeed empty, empty]
  | cons line rest ih =>
    obtain ⟨front, frontNoFeed, rfl⟩ := feeds line (List.mem_cons_self ..)
    have tail := ih fun line within => feeds line (List.mem_cons_of_mem _ within)
    rw [List.flatten_cons, List.append_assoc, List.append_assoc, List.singleton_append,
      endedLines_append_feed frontNoFeed, tail, List.cons_append]

theorem cutLine_append_feed {front : Bytes} (noFeed : lineFeed ∉ front) (back : Bytes) :
    cutLine (front ++ lineFeed :: back) = (front ++ [lineFeed], back) := by
  have plain : ∀ byte ∈ front, (byte != lineFeed) = true := fun byte within =>
    bne_iff_ne.mpr fun same => noFeed (same ▸ within)
  unfold cutLine
  rw [List.dropWhile_append_of_pos plain, List.takeWhile_append_of_pos plain]
  simp

theorem cutLine_of_noFeed {line : Bytes} (noFeed : lineFeed ∉ line) :
    cutLine line = (line, []) := by
  have plain : ∀ byte ∈ line, (byte != lineFeed) = true := fun byte within =>
    bne_iff_ne.mpr fun same => noFeed (same ▸ within)
  unfold cutLine
  rw [List.dropWhile_eq_nil_iff.mpr plain]

end Text

namespace Stream

/-- The lines that a stream hands over. -/
def lines (stream : Stream) : List Bytes :=
  match stream.failure with
  | none => Text.endedLines stream.input
  | some _ => (Text.endedLines stream.input).filter fun line =>
      line.getLast? == some Text.lineFeed

/-- What a stream answers after its last line. -/
def closing (stream : Stream) : Except Fault (Option Bytes) :=
  match stream.failure with
  | none => .ok none
  | some reason => .error { cause := .lineNotRead reason }

/-- A line without its end is handed over where the input ends, and lost where it breaks off. -/
theorem lines_eq {stream : Stream} {ended : List Bytes} {last : Bytes}
    (feeds : ∀ line ∈ ended, Text.IsEnded line) (noFeed : Text.lineFeed ∉ last)
    (cut : stream.input = ended.flatten ++ last) :
    stream.lines = ended ++ if last = [] ∨ stream.failure ≠ none then [] else [last] := by
  have ends : ∀ line ∈ ended, (line.getLast? == some Text.lineFeed) = true := by
    intro line within
    obtain ⟨front, _, rfl⟩ := feeds line within
    simp
  have lasts : last.getLast? ≠ some Text.lineFeed := fun ends => noFeed (List.mem_of_getLast? ends)
  unfold lines
  rw [cut, Text.endedLines_unique feeds noFeed]
  cases stream.failure with
  | none => simp
  | some reason =>
    rw [List.filter_append, List.filter_eq_self.mpr ends]
    by_cases empty : last = [] <;> simp [empty, lasts]

section Feed

variable {stream : Stream} {front back : Bytes} (noFeed : Text.lineFeed ∉ front)
  (cut : stream.input = front ++ Text.lineFeed :: back)

include noFeed cut

/-- Up to its first line feed, what is left of a stream is its first line, -/
theorem lines_of_feed (prompts : Writer) :
    stream.lines =
      (front ++ [Text.lineFeed]) :: ({ stream with input := back, prompts } : Stream).lines := by
  unfold lines
  rw [cut, Text.endedLines_append_feed noFeed]
  cases stream.failure <;> simp

/-- and that is what it hands over. -/
theorem next_of_feed : stream.next = (.ok (some (front ++ [Text.lineFeed])), back) := by
  unfold next
  rw [cut, Text.cutLine_append_feed noFeed]
  cases stream.failure <;> simp

end Feed

section NoFeed

variable {stream : Stream} (noFeed : Text.lineFeed ∉ stream.input)

include noFeed

theorem lines_of_noFeed :
    stream.lines = if stream.input = [] ∨ stream.failure ≠ none then [] else [stream.input] :=
  lines_eq (List.forall_mem_nil _) noFeed rfl

/-- Without a line feed it is a line if the stream ends there, and it is lost if the stream breaks
off. -/
theorem next_of_noFeed :
    stream.next =
      (match stream.failure with
        | some reason => .error { cause := .lineNotRead reason }
        | none => .ok (if stream.input = [] then none else some stream.input), []) := by
  have unended : stream.input.getLast? ≠ some Text.lineFeed := fun ends =>
    noFeed (List.mem_of_getLast? ends)
  unfold next
  rw [Text.cutLine_of_noFeed noFeed]
  cases stream.failure with
  | some reason => exact if_neg unended
  | none =>
    simp only
    split <;> rfl

end NoFeed

/-- A stream without lines is closed and stays so. -/
theorem next_of_lines_nil {stream : Stream} (spent : stream.lines = []) :
    stream.next.1 = stream.closing ∧
      ∀ prompts, ({ stream with input := stream.next.2, prompts } : Stream).lines = [] := by
  by_cases feed : Text.lineFeed ∈ stream.input
  · obtain ⟨front, back, cut, noFeed⟩ := List.eq_append_cons_of_mem feed
    rw [lines_of_feed noFeed cut stream.prompts] at spent
    cases spent
  · rw [lines_of_noFeed feed] at spent
    rw [next_of_noFeed feed, closing]
    cases failing : stream.failure with
    | none =>
      have empty : stream.input = [] := by simpa [failing] using spent
      simp [empty, lines]
    | some reason => simp [lines]

/-- A stream with lines hands over the first and keeps the others. -/
theorem next_of_lines_cons {stream : Stream} {line : Bytes} {rest : List Bytes}
    (ready : stream.lines = line :: rest) :
    stream.next.1 = .ok (some line) ∧
      ∀ prompts, ({ stream with input := stream.next.2, prompts } : Stream).lines = rest := by
  by_cases feed : Text.lineFeed ∈ stream.input
  · obtain ⟨front, back, cut, noFeed⟩ := List.eq_append_cons_of_mem feed
    have parted (prompts : Writer) := List.cons.inj
      ((lines_of_feed noFeed cut prompts).symm.trans ready)
    rw [next_of_feed noFeed cut, (parted stream.prompts).1]
    exact ⟨rfl, fun prompts => (parted prompts).2⟩
  · rw [lines_of_noFeed feed] at ready
    split at ready
    · cases ready
    · next last =>
      obtain ⟨rfl, rfl⟩ := List.cons.inj ready
      obtain ⟨some, ends⟩ := not_or.mp last
      rw [next_of_noFeed feed, not_not.mp ends]
      simp [some, lines]

end Stream

end LineShell
