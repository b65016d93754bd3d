import LineShell.Arguments
import LineShell.Proofs.Lines

/-!
# Spellings of the same words

A delimiter parts the words before it from those after it (`words_append_delimiter`), and nothing
else about delimiters counts. What a whole input says is the words of its lines without the lines
that have none (`vectors`), and respelling an input leaves that alone (`Respelled.vectors_eq`).
-/
namespace LineShell

/-- Delimiters and nothing else. -/
def IsGap (gap : Bytes) : Prop := ∀ byte ∈ gap, isDelimiter byte = true

instance (gap : Bytes) : Decidable (IsGap gap) :=
  List.decidableBAll (fun byte => isDelimiter byte = true) gap

theorem IsGap.tail {byte : UInt8} {gap : Bytes} (blank : IsGap (byte :: gap)) : IsGap gap :=
  fun other within => blank other (List.mem_cons_of_mem _ within)

@[simp] theorem words_nil : words [] = [] := rfl

/-- A delimiter parts the words before it from those after it. -/
theorem words_append_delimiter {byte : UInt8} (delimits : isDelimiter byte = true)
    (front back : Bytes) : words (front ++ byte :: back) = words front ++ words back := by
  rw [words, Text.pieces_append_mark delimits, List.filter_append]
  rfl

/-- A delimiter at the end is in no word. -/
theorem words_concat_delimiter {byte : UInt8} (delimits : isDelimiter byte = true)
    (front : Bytes) : words (front ++ [byte]) = words front := by
  rw [words_append_delimiter delimits, words_nil, List.append_nil]

theorem words_gap_append {gap : Bytes} (blank : IsGap gap) (back : Bytes) :
    words (gap ++ back) = words back := by
  induction gap with
  | nil => rfl
  | cons byte gap ih =>
    have delimits := blank byte (List.mem_cons_self ..)
    exact (words_append_delimiter delimits [] (gap ++ back)).trans (ih blank.tail)

/-- Any delimiters part words as well as one. -/
theorem words_append_gap {gap : Bytes} (blank : IsGap gap) (nonempty : gap ≠ [])
    (front back : Bytes) : words (front ++ gap ++ back) = words front ++ words back := by
  obtain ⟨byte, others, rfl⟩ := List.exists_cons_of_ne_nil nonempty
  have delimits := blank byte (List.mem_cons_self ..)
  rw [List.append_assoc, List.cons_append, words_append_delimiter delimits,
    words_gap_append blank.tail]

theorem isDelimiter_lineFeed : isDelimiter Text.lineFeed = true := rfl

/-- The words of the lines of an input, without the lines that have none. -/
def vectors (input : Bytes) : List (List Bytes) :=
  ((Text.endedLines input).map words).filter (· ≠ [])

@[simp] theorem vectors_nil : vectors [] = [] := rfl

/-- Up to its first line feed, an input says what its first line does. -/
theorem vectors_first_line {front : Bytes} (noFeed : Text.lineFeed ∉ front) (back : Bytes) :
    vectors (front ++ Text.lineFeed :: back) = [words front].filter (· ≠ []) ++ vectors back := by
  have line : words (front ++ [Text.lineFeed]) = words front :=
    words_concat_delimiter isDelimiter_lineFeed front
  rw [vectors, Text.endedLines_append_feed noFeed, List.map_cons, line, ← List.singleton_append,
    List.filter_append]
  rfl

theorem vectors_of_noFeed {line : Bytes} (noFeed : Text.lineFeed ∉ line) :
    vectors line = [words line].filter (· ≠ []) := by
  by_cases empty : line = []
  · simp [empty]
  · rw [vectors, Text.endedLines_of_noFeed noFeed empty]
    rfl

/-- What is before a line feed and what is after it have nothing to do with each other. -/
theorem vectors_append_feed (front back : Bytes) :
    vectors (front ++ Text.lineFeed :: back) = vectors front ++ vectors back := by
  induction front using Text.line_induction with
  | last line noFeed => rw [vectors_first_line noFeed, vectors_of_noFeed noFeed]
  | ended line later noFeed ih =>
    rw [List.append_assoc, List.cons_append, vectors_first_line noFeed, ih,
      vectors_first_line noFeed, List.append_assoc]

/-- What makes no difference to the words of a line makes none to those of an input. -/
theorem vectors_congr {middle other : Bytes} (noFeed : Text.lineFeed ∉ middle)
    (otherNoFeed : Text.lineFeed ∉ other)
    (same : ∀ front back, words (front ++ middle ++ back) = words (front ++ other ++ back))
    (front back : Bytes) :
    vectors (front ++ middle ++ back) = vectors (front ++ other ++ back) := by
  induction front using Text.line_induction with
  | last start startNoFeed =>
    have whole {line : Bytes} (within : Text.lineFeed ∉ line) (more : Bytes)
        (moreNoFeed : Text.lineFeed ∉ more) : Text.lineFeed ∉ start ++ line ++ more := by
      simp [startNoFeed, within, moreNoFeed]
    by_cases feed : Text.lineFeed ∈ back
    · obtain ⟨more, later, rfl, moreNoFeed⟩ := List.eq_append_cons_of_mem feed
      rw [← List.append_assoc, ← List.append_assoc, vectors_append_feed, vectors_append_feed,
        vectors_of_noFeed (whole noFeed more moreNoFeed),
        vectors_of_noFeed (whole otherNoFeed more moreNoFeed), same]
    · rw [vectors_of_noFeed (whole noFeed back feed),
        vectors_of_noFeed (whole otherNoFeed back feed), same]
  | ended line later _ ih =>
    have apart (rest : Bytes) : line ++ Text.lineFeed :: later ++ rest ++ back =
        line ++ Text.lineFeed :: (later ++ rest ++ back) := by simp
    rw [apart, apart, vectors_append_feed, vectors_append_feed, ih]

theorem vectors_cons_delimiter {byte : UInt8} (delimits : isDelimiter byte = true)
    (input : Bytes) : vectors (byte :: input) = vectors input := by
  by_cases feed : byte = Text.lineFeed
  · rw [feed]
    exact vectors_append_feed [] input
  · have first (line : Bytes) (noFeed : Text.lineFeed ∉ line) :
        vectors (byte :: line) = vectors line := by
      have longer : Text.lineFeed ∉ byte :: line := by simp [noFeed, Ne.symm feed]
      have same : words (byte :: line) = words line := words_append_delimiter delimits [] line
      rw [vectors_of_noFeed longer, vectors_of_noFeed noFeed, same]
    induction input using Text.line_induction with
    | last line noFeed => exact first line noFeed
    | ended line later noFeed _ =>
      rw [← List.cons_append, vectors_append_feed, vectors_append_feed, first line noFeed]

theorem vectors_concat_delimiter {byte : UInt8} (delimits : isDelimiter byte = true)
    (input : Bytes) : vectors (input ++ [byte]) = vectors input := by
  by_cases feed : byte = Text.lineFeed
  · rw [feed, vectors_append_feed, vectors_nil, List.append_nil]
  · induction input using Text.line_induction with
    | last line noFeed =>
      have longer : Text.lineFeed ∉ line ++ [byte] := by simp [noFeed, Ne.symm feed]
      rw [vectors_of_noFeed longer, vectors_of_noFeed noFeed, words_concat_delimiter delimits]
    | ended line later _ ih =>
      rw [List.append_assoc, List.cons_append, vectors_append_feed, vectors_append_feed, ih]

/-- Delimiters before the first word of an input say nothing, whatever lines they make up. -/
theorem vectors_gap_append {gap : Bytes} (blank : IsGap gap) (input : Bytes) :
    vectors (gap ++ input) = vectors input := by
  induction gap with
  | nil => rfl
  | cons byte gap ih =>
    have delimits := blank byte (List.mem_cons_self ..)
    exact (vectors_cons_delimiter delimits (gap ++ input)).trans (ih blank.tail)

/-- Nor do delimiters after the last word. -/
theorem vectors_append_gap {gap : Bytes} (blank : IsGap gap) (input : Bytes) :
    vectors (input ++ gap) = vectors input := by
  induction gap generalizing input with
  | nil => rw [List.append_nil]
  | cons byte gap ih =>
    have delimits := blank byte (List.mem_cons_self ..)
    rw [List.append_cons, ih blank.tail, vectors_concat_delimiter delimits]

/-- Inputs that differ in their delimiters only, and not in which words are on one line. -/
inductive Respelled : Bytes → Bytes → Prop where
  | refl (input : Bytes) : Respelled input input
  | symm {input other : Bytes} (same : Respelled input other) : Respelled other input
  | trans {input middle other : Bytes} (first : Respelled input middle)
      (second : Respelled middle other) : Respelled input other
  /-- Delimiters within a line stand for any others, if there are some in both cases. -/
  | between (front back : Bytes) {gap other : Bytes} (blank : IsGap gap)
      (otherBlank : IsGap other) (nonempty : gap ≠ []) (otherNonempty : other ≠ [])
      (noFeed : Text.lineFeed ∉ gap) (otherNoFeed : Text.lineFeed ∉ other) :
      Respelled (front ++ gap ++ back) (front ++ other ++ back)
  /-- Delimiters, and with them blank lines, come in at the start of any line. -/
  | before {front : Bytes} (start : front = [] ∨ ∃ earlier, front = earlier ++ [Text.lineFeed])
      {gap : Bytes} (blank : IsGap gap) (back : Bytes) :
      Respelled (front ++ back) (front ++ gap ++ back)
  /-- They come in at the end of any line as well, and at the end of the input. -/
  | after (front : Bytes) {gap : Bytes} (blank : IsGap gap) {back : Bytes}
      (stop : back = [] ∨ ∃ later, back = Text.lineFeed :: later) :
      Respelled (front ++ back) (front ++ gap ++ back)

namespace Respelled

/-- Respelling leaves alone what is said. -/
theorem vectors_eq {input other : Bytes} (same : Respelled input other) :
    vectors input = vectors other := by
  induction same with
  | refl => rfl
  | symm _ ih => exact ih.symm
  | trans _ _ first second => exact first.trans second
  | between front back blank otherBlank nonempty otherNonempty noFeed otherNoFeed =>
    refine vectors_congr noFeed otherNoFeed (fun front back => ?_) front back
    rw [words_append_gap blank nonempty, words_append_gap otherBlank otherNonempty]
  | before start blank back =>
    rcases start with rfl | ⟨earlier, rfl⟩
    · exact (vectors_gap_append blank back).symm
    · simp only [List.append_assoc, List.cons_append, List.nil_append]
      rw [vectors_append_feed, vectors_append_feed, vectors_gap_append blank]
  | after front blank stop =>
    rcases stop with rfl | ⟨later, rfl⟩
    · rw [List.append_nil, List.append_nil, vectors_append_gap blank]
    · rw [vectors_append_feed, vectors_append_feed, vectors_append_gap blank]

end Respelled

/-- A carriage return before each line feed. -/
def withReturns (input : Bytes) : Bytes :=
  input.flatMap fun byte => if byte = Text.lineFeed then [0x0D, Text.lineFeed] else [byte]

/-- Carriage returns before the line feeds are spelling. -/
theorem respelled_withReturns (input : Bytes) : Respelled input (withReturns input) := by
  suffices ∀ front, Respelled (front ++ input) (front ++ withReturns input) from this []
  induction input with
  | nil => exact fun front => .refl _
  | cons byte rest ih =>
    intro front
    have later := ih (front ++ if byte = Text.lineFeed then [0x0D, Text.lineFeed] else [byte])
    have whole : withReturns (byte :: rest) =
        (if byte = Text.lineFeed then [0x0D, Text.lineFeed] else [byte]) ++ withReturns rest := rfl
    rw [whole, ← List.append_assoc]
    refine .trans ?_ later
    split
    · next feed =>
      subst feed
      have blank : IsGap [0x0D] := by decide
      simpa using Respelled.after front blank (.inr ⟨rest, rfl⟩)
    · simpa using Respelled.refl (front ++ byte :: rest)

/-- So is a line feed at the end. -/
theorem respelled_concat_feed (input : Bytes) : Respelled input (input ++ [Text.lineFeed]) := by
  have blank : IsGap [Text.lineFeed] := by decide
  simpa using Respelled.after input blank (.inl rfl)

end LineShell
