import LineShell.Text.Lines

/-!
What waits on an input that several programs read in turn. One reading hands over some of it; what
a reader has taken is gone for the others. A reading that is handed nothing has met the end, which
on a terminal may come more than once.
-/
namespace LineShell

/-- Bytes, and marks (`none`) at which one reader meets the end. A reading of a terminal gives no
more than one line. -/
structure Supply where
  items : List (Option UInt8) := []
  byLine : Bool := false
  deriving DecidableEq, Repr

namespace Supply

/-- The supply that a file or a pipe is. -/
def ofBytes (bytes : Bytes) : Supply := ⟨bytes.map some, false⟩

/-- Up to `limit` bytes of the items, and the items after them. A mark is used up. -/
def handFrom (byLine : Bool) : Nat → List (Option UInt8) → Bytes × List (Option UInt8)
  | 0, items => ([], items)
  | _, [] => ([], [])
  | _, none :: rest => ([], rest)
  | limit + 1, some byte :: rest =>
    if byLine && byte == Text.lineFeed then ([byte], rest)
    else
      let (bytes, rest) := handFrom byLine limit rest
      (byte :: bytes, rest)

/-- One reading of at most `limit` bytes. -/
def hand (limit : Nat) (supply : Supply) : Bytes × Supply :=
  let (bytes, items) := handFrom supply.byLine limit supply.items
  (bytes, { supply with items })

/-- The supply after the first items have been taken. -/
def drop (count : Nat) (supply : Supply) : Supply :=
  { supply with items := supply.items.drop count }

theorem length_handFrom (byLine : Bool) :
    ∀ limit items, (handFrom byLine limit items).1.length +
      (handFrom byLine limit items).2.length ≤ items.length := by
  intro limit items
  induction items generalizing limit with
  | nil => cases limit <;> simp [handFrom]
  | cons item rest ih =>
    cases limit with
    | zero => simp [handFrom]
    | succ limit =>
      cases item with
      | none => simp [handFrom]
      | some byte =>
        simp only [handFrom]
        split
        · simp; omega
        · have := ih limit
          simp only [List.length_cons]
          omega

/-- What is handed over and what is left are no more than there was. -/
theorem length_hand (limit : Nat) (supply : Supply) :
    (supply.hand limit).1.length + (supply.hand limit).2.items.length ≤ supply.items.length :=
  length_handFrom ..

/-- All that readings are handed up to the end, after what has been handed before. -/
def drain (limit : Nat) (before : Bytes) (supply : Supply) : Bytes × Supply :=
  if (supply.hand limit).1 = [] then (before, (supply.hand limit).2)
  else drain limit (before ++ (supply.hand limit).1) (supply.hand limit).2
termination_by supply.items.length
decreasing_by
  rename_i more
  have := length_hand limit supply
  have := List.length_pos_iff.mpr more
  omega

end Supply

/-- A reader of lines, with the bytes it has taken ahead. -/
structure Supply.Buffer where
  held : Bytes := []
  supply : Supply
  deriving DecidableEq, Repr

namespace Supply.Buffer

/-- As many bytes are taken ahead at once. -/
def room : Nat := 8192

/-- How much a reader and those after it can still get. -/
def size (buffer : Buffer) : Nat := buffer.held.length + buffer.supply.items.length

/-- The next line, which lacks its line feed where the input ends, and the buffer after it. -/
def line (buffer : Buffer) : Bytes × Buffer :=
  if buffer.held.contains Text.lineFeed then
    ((Text.cutLine buffer.held).1, { buffer with held := (Text.cutLine buffer.held).2 })
  else if (buffer.supply.hand room).1 = [] then
    (buffer.held, ⟨[], (buffer.supply.hand room).2⟩)
  else line ⟨buffer.held ++ (buffer.supply.hand room).1, (buffer.supply.hand room).2⟩
termination_by buffer.supply.items.length
decreasing_by
  rename_i more
  have := length_hand room buffer.supply
  have := List.length_pos_iff.mpr more
  omega

/-- A line and what is left after it are no more than there was. -/
theorem length_line (buffer : Buffer) :
    (buffer.line).1.length + (buffer.line).2.size ≤ buffer.size := by
  fun_induction line buffer with
  | case1 buffer _ =>
    have whole := congrArg List.length (Text.append_cutLine buffer.held)
    rw [List.length_append] at whole
    simp only [size]
    omega
  | case2 buffer _ _ =>
    have := length_hand room buffer.supply
    simp only [size, List.length_nil]
    omega
  | case3 buffer _ _ ih =>
    have := length_hand room buffer.supply
    simp only [size, List.length_append] at ih ⊢
    omega

end Supply.Buffer

end LineShell
