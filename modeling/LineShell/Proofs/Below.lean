import LineShell.Path
import Mathlib.Data.List.DropRight

/-!
# Paths below others

What is left of a path below one that begins with the same parts has the parts that the other one
lacks, and it is a stretch of the path: what stands before it has the parts of the other path, and
what comes after it says nothing (`Remains`). Such a rest is found exactly if the parts of the one
path begin with those of the other (`below?_eq_none_iff`, `remains_of_below`).
-/
namespace LineShell.Path

/-! ## Parts of segments -/

/-- The parts that some segments name. -/
def named (segments : List Bytes) : List Part := (segments.filter isPart).map partOfSegment

/-- The part that the opening of a path stands for, if there is one. -/
def leadParts (path : Bytes) : List Part :=
  match (opening path).1 with
  | [] => []
  | first :: _ => [if first = slash then .root else .here]

theorem parts_eq (path : Bytes) : parts path = leadParts path ++ named (segments path) := rfl

@[simp] theorem named_nil : named [] = [] := rfl

@[simp] theorem named_append (front back : List Bytes) :
    named (front ++ back) = named front ++ named back := by
  simp [named]

theorem named_cons_of_isPart {segment : Bytes} (isPart : isPart segment = true)
    (rest : List Bytes) : named (segment :: rest) = partOfSegment segment :: named rest := by
  rw [named, List.filter_cons_of_pos isPart]
  rfl

theorem named_cons_of_silent {segment : Bytes} (silent : isPart segment = false)
    (rest : List Bytes) : named (segment :: rest) = named rest := by
  rw [named, List.filter_cons_of_neg (by simp [silent])]
  rfl

theorem named_of_silent {segments : List Bytes}
    (silent : ∀ segment ∈ segments, isPart segment = false) : named segments = [] := by
  rw [named, List.filter_eq_nil_iff.mpr fun segment within => by simp [silent segment within]]
  rfl

/-- The beginning of what some segments name is named by the first of them. -/
theorem exists_named_eq {segments : List Bytes} {front : List Part}
    (begins : front <+: named segments) :
    ∃ before after, segments = before ++ after ∧ named before = front := by
  induction segments generalizing front with
  | nil => exact ⟨[], [], rfl, (List.prefix_nil.mp begins).symm⟩
  | cons segment rest ih =>
    cases isPart : isPart segment with
    | false =>
      rw [named_cons_of_silent isPart] at begins
      obtain ⟨before, after, rfl, same⟩ := ih begins
      exact ⟨segment :: before, after, rfl, (named_cons_of_silent isPart before).trans same⟩
    | true =>
      rw [named_cons_of_isPart isPart] at begins
      cases front with
      | nil => exact ⟨[], segment :: rest, rfl, rfl⟩
      | cons part front =>
        obtain ⟨rfl, later⟩ := List.cons_prefix_cons.mp begins
        obtain ⟨before, after, rfl, rfl⟩ := ih later
        exact ⟨segment :: before, after, rfl, named_cons_of_isPart isPart before⟩

/-! ## Segments that say nothing -/

/-- The first and the last of some segments name something. -/
def Ends (segments : List Bytes) : Prop :=
  ∀ segment, segments.head? = some segment ∨ segments.getLast? = some segment →
    isPart segment = true

/-- Segments without the silent ones at both ends. -/
def trim (segments : List Bytes) : List Bytes := trimBack (trimFront segments)

theorem trimFront_append_of_silent {silent : List Bytes}
    (quiet : ∀ segment ∈ silent, isPart segment = false) (segments : List Bytes) :
    trimFront (silent ++ segments) = trimFront segments :=
  List.dropWhile_append_of_pos fun segment within => by simp [quiet segment within]

theorem exists_trimFront (segments : List Bytes) :
    ∃ silent, (∀ segment ∈ silent, isPart segment = false) ∧
      segments = silent ++ trimFront segments := by
  refine ⟨segments.takeWhile (!isPart ·), ?_, List.takeWhile_append_dropWhile.symm⟩
  intro segment within
  simpa using List.mem_takeWhile_imp within

theorem exists_trimBack (segments : List Bytes) :
    ∃ silent, (∀ segment ∈ silent, isPart segment = false) ∧
      segments = trimBack segments ++ silent := by
  obtain ⟨silent, quiet, cut⟩ := exists_trimFront segments.reverse
  refine ⟨silent.reverse, fun segment within => quiet segment (List.mem_reverse.mp within), ?_⟩
  have turned := congrArg List.reverse cut
  rw [List.reverse_reverse, List.reverse_append] at turned
  exact turned

theorem exists_trim (segments : List Bytes) :
    ∃ front back, (∀ segment ∈ front, isPart segment = false) ∧
      (∀ segment ∈ back, isPart segment = false) ∧
      segments = front ++ (trim segments ++ back) := by
  obtain ⟨front, quiet, cut⟩ := exists_trimFront segments
  obtain ⟨back, still, rest⟩ := exists_trimBack (trimFront segments)
  refine ⟨front, back, quiet, still, ?_⟩
  rw [trim, ← rest, ← cut]

theorem named_trim (segments : List Bytes) : named (trim segments) = named segments := by
  obtain ⟨front, back, quiet, still, cut⟩ := exists_trim segments
  have whole := congrArg named cut
  rw [named_append, named_append, named_of_silent quiet, named_of_silent still] at whole
  simpa using whole.symm

theorem ends_trim (segments : List Bytes) : Ends (trim segments) := by
  rintro segment (heads | lasts)
  · obtain ⟨silent, _, cut⟩ := exists_trimBack (trimFront segments)
    have stopped := List.head?_dropWhile_not (!isPart ·) segments
    have first : (trimFront segments).head? = some segment := by
      rw [cut, List.head?_append]
      rw [trim] at heads
      rw [heads, Option.some_or]
    rw [trimFront] at first
    rw [first] at stopped
    simpa using stopped
  · obtain ⟨nonempty, rfl⟩ := List.mem_getLast?_eq_getLast lasts
    have stopped : ¬ (!isPart ((trim segments).getLast nonempty)) = true :=
      List.rdropWhile_last_not (!isPart ·) (trimFront segments) nonempty
    simpa using stopped

/-- Where both ends name something, nothing is trimmed. -/
theorem trim_of_ends {segments : List Bytes} (ends : Ends segments) : trim segments = segments := by
  have front : trimFront segments = segments := by
    refine List.dropWhile_eq_self_iff.mpr fun nonempty => ?_
    have first : segments.head? = some segments[0] :=
      List.head?_eq_getElem?.trans (List.getElem?_eq_getElem nonempty)
    simp [ends _ (.inl first)]
  have back : trimBack segments = segments := by
    refine List.rdropWhile_eq_self_iff.mpr fun nonempty => ?_
    simp [ends _ (.inr (List.getLast?_eq_some_getLast nonempty))]
  rw [trim, front, back]

theorem afterParts_zero (segments : List Bytes) : afterParts 0 segments = segments := by
  cases segments <;> rfl

/-- Past some segments there are those that come after them, but for silent ones in between. -/
theorem trimFront_afterParts (before after : List Bytes) :
    trimFront (afterParts (named before).length (before ++ after)) = trimFront after := by
  induction before with
  | nil => exact congrArg trimFront (afterParts_zero after)
  | cons segment before ih =>
    cases isPart : isPart segment with
    | true =>
      rw [named_cons_of_isPart isPart, List.length_cons, List.cons_append, afterParts,
        if_pos isPart, ih]
    | false =>
      rw [named_cons_of_silent isPart]
      cases count : (named before).length with
      | zero =>
        rw [count, afterParts_zero] at ih
        rw [← ih, afterParts_zero]
        exact @trimFront_append_of_silent [segment] (by simpa using isPart) (before ++ after)
      | succ more =>
        rw [count] at ih
        rw [List.cons_append, afterParts, if_neg (by simp [isPart]), ih]

/-! ## The opening of a path -/

theorem opening_append (path : Bytes) : (opening path).1 ++ (opening path).2 = path := by
  cases path with
  | nil => rfl
  | cons first rest =>
    simp only [opening]
    split
    · next root => rw [root]; rfl
    · split
      · next here => rw [here.1]; rfl
      · rfl

/-- A path opens with a root, or with a dot that stands alone, or with nothing. -/
theorem opening_cases (path : Bytes) :
    (opening path).1 = [] ∨ (opening path).1 = [slash] ∨
      (opening path).1 = [dot] ∧ ((opening path).2 = [] ∨ (opening path).2.head? = some slash) := by
  cases path with
  | nil => exact .inl rfl
  | cons first rest =>
    simp only [opening]
    split
    · exact .inr (.inl rfl)
    · split
      · next here => exact .inr (.inr ⟨rfl, here.2⟩)
      · exact .inl rfl

/-- What comes after a slash does not change how a path opens. -/
theorem opening_append_slash {front : Bytes} (nonempty : front ≠ []) (tail : Bytes) :
    opening (front ++ slash :: tail) = ((opening front).1, (opening front).2 ++ slash :: tail) := by
  obtain ⟨first, rest, rfl⟩ := List.exists_cons_of_ne_nil nonempty
  have same : rest ++ slash :: tail = [] ∨ (rest ++ slash :: tail).head? = some slash ↔
      rest = [] ∨ rest.head? = some slash := by
    cases rest <;> simp
  simp only [opening, List.cons_append, same]
  split
  · rfl
  · split <;> rfl

theorem leadParts_cases (path : Bytes) :
    (opening path).1 = [] ∧ leadParts path = [] ∨
      (opening path).1 = [slash] ∧ leadParts path = [.root] ∨
      (opening path).1 = [dot] ∧ leadParts path = [.here] := by
  unfold leadParts
  rcases opening_cases path with none | root | ⟨here, _⟩
  · exact .inl ⟨none, by rw [none]⟩
  · exact .inr (.inl ⟨root, by rw [root]; rfl⟩)
  · exact .inr (.inr ⟨here, by rw [here]; rfl⟩)

theorem length_leadParts (path : Bytes) : (leadParts path).length = (opening path).1.length := by
  rcases leadParts_cases path with ⟨opens, leads⟩ | ⟨opens, leads⟩ | ⟨opens, leads⟩ <;>
    rw [opens, leads] <;> rfl

/-- The opening of a path has its part and no other. -/
theorem parts_opening (path : Bytes) : parts (opening path).1 = leadParts path := by
  rcases leadParts_cases path with ⟨opens, leads⟩ | ⟨opens, leads⟩ | ⟨opens, leads⟩ <;>
    rw [opens, leads] <;> rfl

theorem segments_append_slash {front : Bytes} (nonempty : front ≠ []) (tail : Bytes) :
    segments (front ++ slash :: tail) = segments front ++ Text.pieces (· == slash) tail := by
  rw [segments, opening_append_slash nonempty]
  exact @Text.pieces_append_mark _ (· == slash) slash (beq_self_eq_true slash) _ tail

theorem leadParts_append_slash {front : Bytes} (nonempty : front ≠ []) (tail : Bytes) :
    leadParts (front ++ slash :: tail) = leadParts front := by
  simp only [leadParts, opening_append_slash nonempty]

/-- After a slash a path goes on with the parts that the next segments name. -/
theorem parts_append_slash {front : Bytes} (nonempty : front ≠ []) (tail : Bytes) :
    parts (front ++ slash :: tail) = parts front ++ named (Text.pieces (· == slash) tail) := by
  rw [parts_eq, parts_eq, segments_append_slash nonempty, leadParts_append_slash nonempty,
    named_append, List.append_assoc]

theorem parts_slash (tail : Bytes) :
    parts (slash :: tail) = .root :: named (Text.pieces (· == slash) tail) := rfl

/-- The same of a beginning that ends in a slash, be it the root itself. -/
theorem parts_append_of_getLast? {front : Bytes} (ends : front.getLast? = some slash)
    (tail : Bytes) :
    parts (front ++ tail) = parts front ++ named (Text.pieces (· == slash) tail) := by
  obtain ⟨before, rfl⟩ := List.getLast?_eq_some_iff.mp ends
  rw [List.append_assoc, List.singleton_append]
  by_cases root : before = []
  · rw [root]
    rfl
  · have alone : named (Text.pieces (· == slash) ([] : Bytes)) = [] := rfl
    rw [parts_append_slash root, parts_append_slash root, alone, List.append_nil]

/-- The first segment of some bytes is empty if they are, or begin with a slash. -/
theorem eq_nil_iff_of_pieces {bytes first : Bytes} {others : List Bytes}
    (cut : Text.pieces (· == slash) bytes = first :: others) :
    first = [] ↔ bytes = [] ∨ bytes.head? = some slash := by
  cases bytes with
  | nil => simpa using (List.cons.inj cut).1.symm
  | cons byte rest =>
    by_cases slashed : byte = slash
    · have marked := @Text.pieces_cons_mark _ (· == slash) byte (by simp [slashed]) rest
      rw [marked] at cut
      simp [slashed, (List.cons.inj cut).1.symm]
    · obtain ⟨segment, later, parted⟩ :=
        List.exists_cons_of_ne_nil (Text.pieces_ne_nil (· == slash) rest)
      have plain := @Text.pieces_cons _ (· == slash) byte (by simp [slashed]) rest _ _ parted
      rw [plain] at cut
      simp [slashed, (List.cons.inj cut).1.symm]

/-- A path that opens with nothing begins with a segment that names something. -/
theorem opening_fst_eq_nil_iff {path first : Bytes} {others : List Bytes} (nonempty : path ≠ [])
    (cut : Text.pieces (· == slash) path = first :: others) :
    (opening path).1 = [] ↔ isPart first = true := by
  obtain ⟨byte, rest, rfl⟩ := List.exists_cons_of_ne_nil nonempty
  by_cases root : byte = slash
  · have empty : first = [] := (eq_nil_iff_of_pieces cut).mpr (.inr (congrArg some root))
    simp [opening, root, empty, isPart]
  · obtain ⟨segment, later, parted⟩ :=
      List.exists_cons_of_ne_nil (Text.pieces_ne_nil (· == slash) rest)
    have plain := @Text.pieces_cons _ (· == slash) byte (by simp [root]) rest _ _ parted
    rw [plain] at cut
    obtain ⟨rfl, _⟩ := List.cons.inj cut
    simp only [opening, if_neg root, ← eq_nil_iff_of_pieces parted]
    by_cases here : byte = dot ∧ segment = []
    · rw [if_pos here]
      simp [isPart, here.1, here.2]
    · rw [if_neg here]
      simpa [isPart] using not_and_or.mp here

/-- Bytes whose segments begin with one that names something are read as these segments. -/
theorem parts_of_isPart {bytes first : Bytes} {others : List Bytes}
    (cut : Text.pieces (· == slash) bytes = first :: others) (begins : isPart first = true) :
    parts bytes = named (first :: others) := by
  have nonempty : bytes ≠ [] := by
    rintro rfl
    obtain ⟨rfl, _⟩ := List.cons.inj cut
    cases begins
  have opens := (opening_fst_eq_nil_iff nonempty cut).mpr begins
  have whole := opening_append bytes
  rw [opens, List.nil_append] at whole
  rw [parts_eq, leadParts, opens, segments, whole, cut]
  rfl

@[simp] theorem parts_eq_nil_iff {path : Bytes} : parts path = [] ↔ path = [] := by
  constructor
  · intro none
    by_contra nonempty
    obtain ⟨first, others, cut⟩ :=
      List.exists_cons_of_ne_nil (Text.pieces_ne_nil (· == slash) path)
    rw [parts_eq, List.append_eq_nil_iff] at none
    have opens : (opening path).1 = [] := by
      rw [← List.length_eq_zero_iff, ← length_leadParts, none.1]
      rfl
    have begins := (opening_fst_eq_nil_iff nonempty cut).mp opens
    have whole := parts_of_isPart cut begins
    rw [parts_eq, none.1, none.2, named_cons_of_isPart begins] at whole
    cases whole
  · rintro rfl
    rfl

/-! ## What is left below a path -/

/-- Bytes whose segments say nothing. -/
def Silent (bytes : Bytes) : Prop :=
  ∀ segment ∈ Text.pieces (· == slash) bytes, isPart segment = false

/-- What is left of a path below a base. -/
structure Remains (path base rest : Bytes) : Prop where
  /-- It has the parts that the base lacks. -/
  parts : parts path = parts base ++ parts rest
  /-- It is a stretch of the path. Before it there are the parts of the base, and after it none. -/
  place : ∃ front back, path = front ++ rest ++ back ∧ Path.parts front = Path.parts base ∧
    Silent back
  /-- Its first and last segment name something, unless there is no base or nothing is left. -/
  ends : base ≠ [] → rest ≠ [] → Ends (Text.pieces (· == slash) rest)

theorem not_mem_of_mem_segments {path segment : Bytes} (within : segment ∈ segments path) :
    slash ∉ segment :=
  Text.not_mem_of_mem_pieces within

/-- Silent segments after a slash, joined. -/
theorem silent_joined {quiet : List Bytes} (plain : ∀ segment ∈ quiet, slash ∉ segment)
    (silent : ∀ segment ∈ quiet, isPart segment = false) :
    Silent (quiet.flatMap (slash :: ·)) := by
  have joined : quiet.flatMap (slash :: ·) = Text.joined slash ([] :: quiet) := rfl
  rw [Silent, joined, Text.pieces_joined (List.cons_ne_nil _ _)]
  · rintro segment (_ | ⟨_, within⟩)
    · rfl
    · exact silent segment within
  · rintro segment (_ | ⟨_, within⟩)
    · exact List.not_mem_nil
    · exact plain segment within

theorem silent_nil : Silent [] := by
  rintro segment (_ | ⟨_, ⟨⟩⟩)
  rfl

theorem Silent.named_eq_nil {bytes : Bytes} (silent : Silent bytes) :
    named (Text.pieces (· == slash) bytes) = [] :=
  named_of_silent silent

/-- Bytes whose ends name something are read as their segments. -/
theorem parts_of_ends {bytes : Bytes} (ends : Ends (Text.pieces (· == slash) bytes)) :
    parts bytes = named (Text.pieces (· == slash) bytes) := by
  obtain ⟨first, others, cut⟩ := List.exists_cons_of_ne_nil (Text.pieces_ne_nil (· == slash) bytes)
  rw [cut] at ends ⊢
  exact parts_of_isPart cut (ends first (.inl rfl))

/-- So are segments after they are joined. -/
theorem parts_joined {names : List Bytes} (plain : ∀ segment ∈ names, slash ∉ segment)
    (ends : Ends names) : parts (Text.joined slash names) = named names := by
  by_cases none : names = []
  · rw [none]
    rfl
  · have cut := Text.pieces_joined none plain
    rw [← cut] at ends
    rw [parts_of_ends ends, cut]

section Stretch

variable {path : Bytes} {before kept back : List Bytes}

/-- The bytes of a path up to some of its segments. -/
def upTo (path : Bytes) (before : List Bytes) : Bytes :=
  (opening path).1 ++ before.flatMap (· ++ [slash])

theorem upTo_nil (path : Bytes) : upTo path [] = (opening path).1 := List.append_nil _

theorem eq_stretch (cut : segments path = before ++ (kept ++ back)) (nonempty : kept ≠ []) :
    path = upTo path before ++ Text.joined slash (kept ++ back) := by
  have more : kept ++ back ≠ [] := List.append_ne_nil_of_left_ne_nil nonempty back
  have body : (opening path).2 = Text.joined slash (segments path) :=
    (Text.joined_pieces slash _).symm
  rw [cut, Text.joined_append slash before more] at body
  calc
    path = (opening path).1 ++ (opening path).2 := (opening_append path).symm
    _ = upTo path before ++ Text.joined slash (kept ++ back) := by
      rw [body, upTo, List.append_assoc]

theorem upTo_cases (cut : segments path = before ++ (kept ++ back)) (nonempty : kept ≠ [])
    (ends : Ends kept) :
    (opening path).1 = [] ∧ before = [] ∨ (upTo path before).getLast? = some slash := by
  rcases List.eq_nil_or_concat before with rfl | ⟨others, last, rfl⟩
  · rcases opening_cases path with none | root | ⟨_, parted⟩
    · exact .inl ⟨none, rfl⟩
    · refine .inr ?_
      rw [upTo, root]
      rfl
    · -- After a dot there is a slash, and so an empty segment, which is not the first that is kept.
      obtain ⟨first, others, rfl⟩ := List.exists_cons_of_ne_nil nonempty
      have empty : first = [] := (eq_nil_iff_of_pieces cut).mpr parted
      have begins := ends first (.inl rfl)
      rw [empty] at begins
      cases begins
  · refine .inr ?_
    simp [upTo]

/-- A path up to some of its segments has the parts that these name. -/
theorem parts_upTo (cut : segments path = before ++ (kept ++ back)) (nonempty : kept ≠ [])
    (ends : Ends kept) : parts (upTo path before) = leadParts path ++ named before := by
  rcases upTo_cases cut nonempty ends with ⟨none, rfl⟩ | slashed
  · rw [upTo, leadParts, none]
    rfl
  · have plain : ∀ segment ∈ kept ++ back, slash ∉ segment := by
      intro segment within
      have inPath : segment ∈ segments path := cut ▸ List.mem_append_right before within
      exact not_mem_of_mem_segments inPath
    have later := parts_append_of_getLast? slashed (Text.joined slash (kept ++ back))
    rw [← eq_stretch cut nonempty, Text.pieces_joined (by simp [nonempty]) plain, parts_eq, cut,
      named_append, ← List.append_assoc] at later
    exact (List.append_cancel_right later).symm

end Stretch

/-- What is left of a path after the segments that name the parts of a base. -/
theorem remains_of_split {path base : Bytes} {before after : List Bytes}
    (cut : segments path = before ++ after) (same : parts base = leadParts path ++ named before) :
    Remains path base (Text.joined slash (trim after)) := by
  obtain ⟨front, back, quiet, silent, whole⟩ := exists_trim after
  have ends := ends_trim after
  have names := named_trim after
  generalize trim after = kept at *
  subst whole
  have plain : ∀ segment ∈ before ++ (front ++ (kept ++ back)), slash ∉ segment := by
    intro segment within
    rw [← cut] at within
    exact not_mem_of_mem_segments within
  have total : parts path = parts base ++ named kept := by
    rw [parts_eq, cut, named_append, ← names, same, List.append_assoc]
  have rest : parts (Text.joined slash kept) = named kept :=
    parts_joined (fun segment within => plain segment (by simp [within])) ends
  by_cases none : kept = []
  · subst none
    rw [named_nil, List.append_nil] at total
    constructor
    case parts => rw [rest, named_nil, List.append_nil, total]
    case ends => exact fun _ some => absurd rfl some
    case place => exact ⟨path, [], by simp [Text.joined], total, silent_nil⟩
  · rw [← List.append_assoc] at cut
    constructor
    case parts => rw [rest, total]
    case ends =>
      intro _ _
      rw [Text.pieces_joined none fun segment within => plain segment (by simp [within])]
      exact ends
    case place =>
      refine ⟨upTo path (before ++ front), back.flatMap (slash :: ·), ?_, ?_, ?_⟩
      · rw [List.append_assoc, ← Text.joined_append_marked slash none]
        exact eq_stretch cut none
      · rw [parts_upTo cut none ends, named_append, named_of_silent quiet, List.append_nil, same]
      · exact silent_joined (fun segment within => plain segment (by simp [within])) silent

/-- So much is left after a base that takes up some segments of a path. -/
theorem below?_of_split {path base : Bytes} {before after : List Bytes} (nonempty : base ≠ [])
    (cut : segments path = before ++ after) (same : parts base = leadParts path ++ named before) :
    below? path base = some (Text.joined slash (trim after)) := by
  have begins : (parts base).isPrefixOf (parts path) = true := by
    rw [List.isPrefixOf_iff_prefix, parts_eq path, cut, named_append, same, ← List.append_assoc]
    exact List.prefix_append _ _
  have count : (parts base).length - (opening path).1.length = (named before).length := by
    rw [same, ← length_leadParts, List.length_append, Nat.add_sub_cancel_left]
  rw [below?, if_pos begins, if_neg (by simp [nonempty]), cut]
  simp only [count, trimFront_afterParts, trim]

/-- The parts of a base that a path begins with are taken up by some segments of it. -/
theorem exists_split {path base : Bytes} (nonempty : base ≠ [])
    (begins : parts base <+: parts path) :
    ∃ before after, segments path = before ++ after ∧
      parts base = leadParts path ++ named before := by
  have some : parts base ≠ [] := by simp [nonempty]
  obtain ⟨first, more, same⟩ := List.exists_cons_of_ne_nil some
  rw [parts_eq path, same] at begins
  have few : leadParts path = [] ∨ ∃ part, leadParts path = [part] := by
    rcases leadParts_cases path with ⟨_, leads⟩ | ⟨_, leads⟩ | ⟨_, leads⟩ <;> simp [leads]
  rcases few with none | ⟨part, one⟩
  · rw [none, List.nil_append] at begins
    obtain ⟨before, after, cut, names⟩ := exists_named_eq begins
    exact ⟨before, after, cut, by rw [none, names, same, List.nil_append]⟩
  · rw [one, List.singleton_append] at begins
    obtain ⟨rfl, later⟩ := List.cons_prefix_cons.mp begins
    obtain ⟨before, after, cut, names⟩ := exists_named_eq later
    exact ⟨before, after, cut, by rw [one, names, same, List.singleton_append]⟩

/-- Silent segments at the end of a path add no part to it. -/
theorem parts_append_silent {front : Bytes} {quiet : List Bytes}
    (opens : front = [] → (opening (front ++ quiet.flatMap (slash :: ·))).1 = [])
    (silent : Silent (quiet.flatMap (slash :: ·))) :
    parts (front ++ quiet.flatMap (slash :: ·)) = parts front := by
  cases quiet with
  | nil => rw [List.flatMap_nil, List.append_nil]
  | cons first others =>
    have marked : (first :: others).flatMap (slash :: ·) =
        slash :: (first ++ others.flatMap (slash :: ·)) := rfl
    rw [marked] at opens silent ⊢
    have nonempty : front ≠ [] := by
      rintro rfl
      cases opens rfl
    have quiet := silent.named_eq_nil
    rw [Text.pieces_cons_mark (by rfl), named_cons_of_silent (by rfl)] at quiet
    rw [parts_append_slash nonempty, quiet, List.append_nil]

/-- Below nothing there is all of a path, but for what says nothing at its end. -/
theorem remains_of_nil (path : Bytes) :
    Remains path [] ((opening path).1 ++ Text.joined slash (trimBack (segments path))) := by
  obtain ⟨quiet, silent, cut⟩ := exists_trimBack (segments path)
  by_cases none : trimBack (segments path) = []
  · rw [none]
    have still : Silent (opening path).2 := by
      intro segment within
      apply silent segment
      rw [none, List.nil_append] at cut
      exact cut ▸ within
    constructor
    case parts =>
      have nothing : named (segments path) = [] := still.named_eq_nil
      rw [parts_eq, nothing, ← parts_opening]
      simp [Text.joined]
    case ends => exact fun some => absurd rfl some
    case place =>
      refine ⟨[], (opening path).2, ?_, rfl, still⟩
      simp [Text.joined, opening_append]
  · have stretch := @eq_stretch path [] _ _ cut none
    rw [upTo_nil, Text.joined_append_marked slash none, ← List.append_assoc] at stretch
    have plain : ∀ segment ∈ quiet, slash ∉ segment := by
      intro segment within
      have inPath : segment ∈ segments path := by
        rw [cut]
        exact List.mem_append_right _ within
      exact not_mem_of_mem_segments inPath
    have still := silent_joined plain silent
    have kept : parts path =
        parts ((opening path).1 ++ Text.joined slash (trimBack (segments path))) := by
      conv_lhs => rw [stretch]
      refine parts_append_silent (fun empty => ?_) still
      rw [← stretch]
      exact (List.append_eq_nil_iff.mp empty).1
    constructor
    case parts => exact kept
    case ends => exact fun some => absurd rfl some
    case place => exact ⟨[], _, stretch, rfl, still⟩

/-- What is found below a base is what is left of the path there. -/
theorem remains_of_below {path base rest : Bytes} (below : below? path base = some rest) :
    Remains path base rest := by
  have begins : parts base <+: parts path := by
    rw [below?] at below
    split at below
    · next begins => exact List.isPrefixOf_iff_prefix.mp begins
    · cases below
  by_cases empty : base = []
  · subst empty
    have whole : below? path [] =
        some ((opening path).1 ++ Text.joined slash (trimBack (segments path))) := rfl
    rw [whole, Option.some.injEq] at below
    exact below ▸ remains_of_nil path
  · obtain ⟨before, after, cut, same⟩ := exists_split empty begins
    rw [below?_of_split empty cut same, Option.some.injEq] at below
    exact below ▸ remains_of_split cut same

/-- Nothing is found exactly if the path does not begin with the parts of the base. -/
theorem below?_eq_none_iff {path base : Bytes} :
    below? path base = none ↔ ¬ parts base <+: parts path := by
  rw [← List.isPrefixOf_iff_prefix, below?]
  split
  · next begins => split <;> simp [begins]
  · next apart => simp [apart]

end LineShell.Path
