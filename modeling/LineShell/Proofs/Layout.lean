import LineShell.Proofs.Storage
import LineShell.Proofs.Words

/-!
# Lines laid out as words and gaps

Every line is laid out in one way and no other: a gap, and then words, each with the gap after it
(`exists_line_eq`, `line_injective`). These words, of whatever bytes they are made, are what the line
is split into (`words_line`).
-/
namespace LineShell

/-- A word: some bytes, none of which is a delimiter. -/
def IsWord (word : Bytes) : Prop := word ≠ [] ∧ ∀ byte ∈ word, isDelimiter byte = false

/-- Words, each with the gap after it, which may be empty only after the last. -/
inductive IsRow : List (Bytes × Bytes) → Prop where
  | nil : IsRow []
  | cons {word gap : Bytes} {items : List (Bytes × Bytes)} (isWord : IsWord word)
      (isGap : IsGap gap) (parted : items ≠ [] → gap ≠ []) (others : IsRow items) :
      IsRow ((word, gap) :: items)

/-- The bytes of some words and gaps, one after the other. -/
def spelled (items : List (Bytes × Bytes)) : Bytes := items.flatMap fun item => item.1 ++ item.2

/-- A line laid out: the gap before its first word, and its words with the gaps after them. -/
structure Layout where
  lead : Bytes
  items : List (Bytes × Bytes)
  isGap : IsGap lead
  isRow : IsRow items

namespace Layout

def line (layout : Layout) : Bytes := layout.lead ++ spelled layout.items

def words (layout : Layout) : List Bytes := layout.items.map (·.1)

end Layout

theorem words_of_isWord {word : Bytes} (isWord : IsWord word) : words word = [word] := by
  rw [words, Text.pieces_of_noMark isWord.2]
  simp [isWord.1]

theorem spelled_cons (word gap : Bytes) (items : List (Bytes × Bytes)) :
    spelled ((word, gap) :: items) = word ++ (gap ++ spelled items) := by
  simp [spelled]

namespace IsRow

variable {items : List (Bytes × Bytes)}

theorem words_spelled (row : IsRow items) : words (spelled items) = items.map (·.1) := by
  induction row with
  | nil => rfl
  | @cons word gap items isWord isGap parted _ ih =>
    rw [spelled_cons, List.map_cons, ← ih]
    by_cases empty : gap = []
    · obtain rfl : items = [] := by_contra fun more => parted more empty
      simp [empty, spelled, words_of_isWord isWord]
    · rw [← List.append_assoc, words_append_gap isGap empty, words_of_isWord isWord]
      rfl

/-- A row does not begin with a delimiter. -/
theorem takeWhile_spelled (row : IsRow items) : (spelled items).takeWhile isDelimiter = [] := by
  cases row with
  | nil => rfl
  | @cons word gap items isWord =>
    obtain ⟨byte, rest, rfl⟩ := List.exists_cons_of_ne_nil isWord.1
    have plain : isDelimiter byte = false := isWord.2 byte (List.mem_cons_self ..)
    rw [spelled_cons, List.cons_append, List.takeWhile_cons_of_neg (by simp [plain])]

/-- A gap and the row after it are told apart by their bytes. -/
theorem append_spelled_inj {others : List (Bytes × Bytes)} {gap other : Bytes} (isGap : IsGap gap)
    (row : IsRow items) (otherIsGap : IsGap other) (otherRow : IsRow others)
    (same : other ++ spelled others = gap ++ spelled items) :
    other = gap ∧ spelled others = spelled items := by
  have stretch := congrArg (List.takeWhile isDelimiter) same
  rw [List.takeWhile_append_of_pos isGap, row.takeWhile_spelled,
    List.takeWhile_append_of_pos otherIsGap, otherRow.takeWhile_spelled,
    List.append_nil, List.append_nil] at stretch
  rw [stretch] at same
  exact ⟨stretch, List.append_cancel_left same⟩

/-- Only one row has these words and these bytes. -/
theorem eq_of_spelled_eq {others : List (Bytes × Bytes)} (row : IsRow items) (otherRow : IsRow others)
    (words : others.map (·.1) = items.map (·.1)) (same : spelled others = spelled items) :
    others = items := by
  induction row generalizing others with
  | nil => exact List.map_eq_nil_iff.mp words
  | @cons word gap items _ isGap _ row ih =>
    cases otherRow with
    | nil => simp at words
    | @cons _ other others _ otherIsGap _ otherRow =>
      obtain ⟨rfl, later⟩ := List.cons.inj words
      rw [spelled_cons, spelled_cons] at same
      obtain ⟨rfl, rest⟩ :=
        append_spelled_inj isGap row otherIsGap otherRow (List.append_cancel_left same)
      rw [ih otherRow later rest]

end IsRow

namespace Layout

/-- A line is split into the words it is laid out with. -/
theorem words_line (layout : Layout) : LineShell.words layout.line = layout.words :=
  (words_gap_append layout.isGap _).trans layout.isRow.words_spelled

/-- Every line has a layout. A byte at its beginning goes with the gap there, or with the word if
there is no gap, or is a new word. -/
theorem exists_line_eq (line : Bytes) : ∃ layout : Layout, layout.line = line := by
  induction line with
  | nil => exact ⟨⟨[], [], by simp [IsGap], .nil⟩, rfl⟩
  | cons byte rest ih =>
    obtain ⟨⟨lead, items, isGap, isRow⟩, rfl⟩ := ih
    cases delimits : isDelimiter byte with
    | true => exact ⟨⟨byte :: lead, items, by simpa [IsGap, delimits] using isGap, isRow⟩, rfl⟩
    | false =>
      have alone : IsWord [byte] := ⟨by simp, by simp [delimits]⟩
      have none : IsGap [] := by simp [IsGap]
      cases lead with
      | cons first others =>
        exact ⟨⟨[], ([byte], first :: others) :: items, none,
          .cons alone isGap (fun _ => by simp) isRow⟩, by simp [line, spelled]⟩
      | nil =>
        cases isRow with
        | nil => exact ⟨⟨[], [([byte], [])], none, .cons alone none (by simp) .nil⟩, rfl⟩
        | @cons word gap items isWord isGap parted others =>
          have longer : IsWord (byte :: word) := ⟨by simp, by simpa [delimits] using isWord.2⟩
          exact ⟨⟨[], (byte :: word, gap) :: items, none, .cons longer isGap parted others⟩,
            by simp [line, spelled]⟩

/-- No line has two layouts. -/
theorem line_injective {layout other : Layout} (same : other.line = layout.line) :
    other = layout := by
  have words : other.words = layout.words := by
    rw [← words_line, ← words_line, same]
  obtain ⟨lead, bytes⟩ :=
    IsRow.append_spelled_inj layout.isGap layout.isRow other.isGap other.isRow same
  have items := layout.isRow.eq_of_spelled_eq other.isRow words bytes
  cases layout
  cases other
  cases lead
  cases items
  rfl

end Layout

namespace Arguments

/-- How the arguments of a line are told by its layout. -/
structure GoByLayout (limit : Option Nat) (line : Bytes) : Prop where
  /-- A line has one layout and no other. -/
  laidOut : ∃! layout : Layout, layout.line = line
  /-- Arguments are found exactly if storage suffices for the words of that layout, -/
  found : ∀ layout : Layout, layout.line = line →
    ((∃ arguments, ofLine limit line = .ok arguments) ↔ Suffices limit layout.words.length)
  /-- which it always does if there is no limit, -/
  unlimited : ∃ arguments, ofLine none line = .ok arguments
  /-- and they are these words. -/
  words : ∀ layout : Layout, layout.line = line →
    ∀ arguments, ofLine limit line = .ok arguments → arguments.toList = layout.words

/-- **The arguments of a line are the words it is laid out with**, whatever the gaps are. -/
theorem ofLine_goesByLayout (limit : Option Nat) (line : Bytes) : GoByLayout limit line := by
  constructor
  case laidOut =>
    obtain ⟨layout, laid⟩ := Layout.exists_line_eq line
    exact ⟨layout, laid, fun other same => Layout.line_injective (same.trans laid.symm)⟩
  case found =>
    rintro layout rfl
    rw [ofLine_eq_ok_iff, layout.words_line]
  case unlimited => exact ofLine_eq_ok_iff.mpr (suffices_none _)
  case words =>
    rintro layout rfl arguments stored
    rw [toList_of_ofLine stored, layout.words_line]

/-- Bytes that are no text, and a NUL byte, are bytes of words. -/
example : words [0x07, 0x00, 0xE9, 0x20, 0x09, 0x61, 0x0A] = [[0x00, 0xE9], [0x61]] := by decide

end Arguments

end LineShell
