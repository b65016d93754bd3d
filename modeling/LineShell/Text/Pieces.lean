/-!
Cutting a list at marks and putting it together again. Cutting `n` marks gives `n + 1` pieces
(`length_pieces`), and joining them with a mark gives the list back (`joined_pieces`). Pieces that
hold no mark are those that the joined list is cut into (`pieces_joined`).
-/
namespace LineShell.Text

/-- The pieces of a list that lie before, between and after the elements that are marks. -/
def pieces (isMark : α → Bool) (items : List α) : List (List α) :=
  items.foldr (fun item cut =>
    if isMark item then [] :: cut
    else match cut with
      | [] => [[item]]
      | first :: others => (item :: first) :: others) [[]]

/-- The pieces with a mark between any two neighbours. -/
def joined (mark : α) : List (List α) → List α
  | [] => []
  | first :: others => first ++ others.flatMap (mark :: ·)

@[simp] theorem pieces_nil (isMark : α → Bool) : pieces isMark [] = [[]] := rfl

theorem pieces_cons_mark {isMark : α → Bool} {item : α} (mark : isMark item = true)
    (rest : List α) : pieces isMark (item :: rest) = [] :: pieces isMark rest := by
  simp [pieces, mark]

theorem pieces_ne_nil (isMark : α → Bool) (items : List α) : pieces isMark items ≠ [] := by
  cases items with
  | nil => simp
  | cons item rest =>
    simp only [pieces, List.foldr_cons]
    repeat' split
    all_goals simp

theorem pieces_cons {isMark : α → Bool} {item : α} (plain : isMark item = false)
    {rest first : List α} {others : List (List α)} (cut : pieces isMark rest = first :: others) :
    pieces isMark (item :: rest) = (item :: first) :: others := by
  simp only [pieces] at cut
  simp [pieces, plain, cut]

theorem joined_pieces [BEq α] [LawfulBEq α] (mark : α) (items : List α) :
    joined mark (pieces (· == mark) items) = items := by
  induction items with
  | nil => rfl
  | cons item rest ih =>
    obtain ⟨first, others, cut⟩ := List.exists_cons_of_ne_nil (pieces_ne_nil (· == mark) rest)
    rw [cut] at ih
    by_cases same : (item == mark) = true
    · have whole := @pieces_cons_mark α (· == mark) item same rest
      rw [whole, cut, eq_of_beq same]
      simpa [joined] using ih
    · have whole := @pieces_cons α (· == mark) item (by simpa using same) rest first others cut
      rw [whole]
      simpa [joined] using ih

/-- A mark parts the pieces before it from those after it. -/
theorem pieces_append_mark {isMark : α → Bool} {item : α} (mark : isMark item = true)
    (front back : List α) :
    pieces isMark (front ++ item :: back) = pieces isMark front ++ pieces isMark back := by
  induction front with
  | nil => exact pieces_cons_mark mark back
  | cons other front ih =>
    cases plain : isMark other with
    | true =>
      rw [List.cons_append, pieces_cons_mark plain, pieces_cons_mark plain, ih, List.cons_append]
    | false =>
      obtain ⟨first, others, cut⟩ := List.exists_cons_of_ne_nil (pieces_ne_nil isMark front)
      have whole : pieces isMark (front ++ item :: back) =
          first :: (others ++ pieces isMark back) := by rw [ih, cut, List.cons_append]
      rw [List.cons_append, pieces_cons plain whole, pieces_cons plain cut, List.cons_append]

/-- Without a mark there is one piece. -/
theorem pieces_of_noMark {isMark : α → Bool} {items : List α}
    (plain : ∀ item ∈ items, isMark item = false) : pieces isMark items = [items] := by
  induction items with
  | nil => rfl
  | cons item rest ih =>
    exact pieces_cons (plain item (List.mem_cons_self ..))
      (ih fun other within => plain other (List.mem_cons_of_mem _ within))

/-- No piece holds a mark. -/
theorem noMark_of_mem_pieces {isMark : α → Bool} {items piece : List α}
    (cut : piece ∈ pieces isMark items) : ∀ item ∈ piece, isMark item = false := by
  induction items generalizing piece with
  | nil =>
    intro item within
    rw [List.mem_singleton.mp cut] at within
    cases within
  | cons item rest ih =>
    cases mark : isMark item with
    | true =>
      rw [pieces_cons_mark mark] at cut
      rcases List.mem_cons.mp cut with rfl | later
      · intro other within
        cases within
      · exact ih later
    | false =>
      obtain ⟨first, others, parted⟩ := List.exists_cons_of_ne_nil (pieces_ne_nil isMark rest)
      rw [parted] at ih
      rw [pieces_cons mark parted] at cut
      rcases List.mem_cons.mp cut with rfl | later
      · intro other within
        rcases List.mem_cons.mp within with rfl | within
        · exact mark
        · exact ih (List.mem_cons_self ..) other within
      · exact ih (List.mem_cons_of_mem _ later)

theorem joined_cons_cons (mark : α) (first second : List α) (others : List (List α)) :
    joined mark (first :: second :: others) = first ++ mark :: joined mark (second :: others) := by
  simp [joined]

/-- Pieces before others are each ended by a mark, -/
theorem joined_append (mark : α) (front : List (List α)) {back : List (List α)}
    (nonempty : back ≠ []) :
    joined mark (front ++ back) = front.flatMap (· ++ [mark]) ++ joined mark back := by
  induction front with
  | nil => rfl
  | cons first rest ih =>
    obtain ⟨second, others, later⟩ :=
      List.exists_cons_of_ne_nil (List.append_ne_nil_of_right_ne_nil rest nonempty)
    rw [later] at ih
    rw [List.cons_append, later, joined_cons_cons, ih, List.flatMap_cons]
    simp

/-- and pieces after others are each begun by one. -/
theorem joined_append_marked (mark : α) {front : List (List α)} (nonempty : front ≠ [])
    (back : List (List α)) :
    joined mark (front ++ back) = joined mark front ++ back.flatMap (mark :: ·) := by
  obtain ⟨first, others, rfl⟩ := List.exists_cons_of_ne_nil nonempty
  simp [joined]

/-- There is one piece more than there are marks. -/
theorem length_pieces [BEq α] (mark : α) (items : List α) :
    (pieces (· == mark) items).length = items.count mark + 1 := by
  induction items with
  | nil => rfl
  | cons item rest ih =>
    cases same : item == mark with
    | true =>
      have cut := @pieces_cons_mark α (· == mark) item same rest
      rw [cut, List.length_cons, ih, List.count_cons, if_pos same]
    | false =>
      obtain ⟨first, others, parted⟩ :=
        List.exists_cons_of_ne_nil (pieces_ne_nil (· == mark) rest)
      have cut := @pieces_cons α (· == mark) item same rest first others parted
      have plain : ¬ (item == mark) = true := by simp [same]
      rw [parted, List.length_cons] at ih
      rw [cut, List.length_cons, ih, List.count_cons, if_neg plain]

section Mark

variable [BEq α] [LawfulBEq α] {mark : α}

theorem not_mem_of_mem_pieces {items piece : List α} (cut : piece ∈ pieces (· == mark) items) :
    mark ∉ piece := by
  intro within
  have plain : (mark == mark) = false := noMark_of_mem_pieces cut mark within
  rw [beq_self_eq_true] at plain
  cases plain

/-- Cutting undoes joining, where no piece holds the mark. -/
theorem pieces_joined {items : List (List α)} (nonempty : items ≠ [])
    (plain : ∀ piece ∈ items, mark ∉ piece) : pieces (· == mark) (joined mark items) = items := by
  induction items with
  | nil => exact absurd rfl nonempty
  | cons first others ih =>
    have noMark : ∀ item ∈ first, (item == mark) = false := by
      intro item within
      refine beq_eq_false_iff_ne.mpr ?_
      rintro rfl
      exact plain first (List.mem_cons_self ..) within
    have alone : pieces (· == mark) first = [first] := pieces_of_noMark noMark
    cases others with
    | nil => simpa [joined] using alone
    | cons second others =>
      have later := ih (List.cons_ne_nil _ _) fun piece within =>
        plain piece (List.mem_cons_of_mem _ within)
      have parted := @pieces_append_mark α (· == mark) mark (beq_self_eq_true mark) first
        (joined mark (second :: others))
      rw [joined_cons_cons, parted, alone, later, List.singleton_append]

end Mark

end LineShell.Text
