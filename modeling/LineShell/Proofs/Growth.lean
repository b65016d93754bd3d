import LineShell.Proofs.Storage
import Mathlib.Order.Bounds.Basic
import Mathlib.Order.Nat

/-!
# How storage grows

Storage is doubled when an argument comes that finds it full, and at no other time. So it has always
been doubled as often as the arguments in it need and no more (`Doubled`), and the first capacity
that is not granted is the one that a refusal names (`ofLine_growsByDoubling`).
-/
namespace LineShell.Arguments

variable {limit : Option Nat} {arguments longer roomy : Arguments} {token : Bytes} {fault : Fault}

/-! ## One argument -/

theorem size_le_double (arguments : Arguments) :
    arguments.tokens.size ≤ arguments.capacity * 2 :=
  Nat.le_trans arguments.fits (Nat.le_mul_of_pos_right _ Nat.two_pos)

theorem double_pos (arguments : Arguments) : 0 < arguments.capacity * 2 :=
  Nat.mul_pos arguments.positive Nat.two_pos

/-- Storage of twice the capacity, with the same arguments in it. -/
def doubled (arguments : Arguments) : Arguments where
  tokens := arguments.tokens
  capacity := arguments.capacity * 2
  growth := arguments.growth ++ [(arguments.capacity, arguments.capacity * 2)]
  fits := size_le_double arguments
  positive := double_pos arguments

/-- Storage with a free place, which full storage has after it is doubled. -/
def withRoom (limit : Option Nat) (arguments : Arguments) : Except Fault Arguments :=
  if arguments.tokens.size < arguments.capacity then .ok arguments
  else do
    reserve limit (arguments.capacity * 2)
    return arguments.doubled

theorem size_push_le (arguments : Arguments) (token : Bytes)
    (free : arguments.tokens.size < arguments.capacity) :
    (arguments.tokens.push token).size ≤ arguments.capacity := by
  rw [Array.size_push]
  exact free

/-- An argument put into a free place. Storage does not grow by that. -/
def put (arguments : Arguments) (token : Bytes)
    (free : arguments.tokens.size < arguments.capacity) : Arguments :=
  { arguments with
    tokens := arguments.tokens.push token
    fits := size_push_le arguments token free }

/-- Room is made by doubling storage, if the limit grants that, and only where it is full. -/
theorem withRoom_cases (made : withRoom limit arguments = .ok roomy) :
    (arguments.tokens.size < arguments.capacity ∧ roomy = arguments) ∨
      (arguments.tokens.size = arguments.capacity ∧ Grants limit (arguments.capacity * 2) ∧
        roomy = arguments.doubled) := by
  unfold withRoom at made
  split at made
  · next room =>
    cases made
    exact .inl ⟨room, rfl⟩
  · next full =>
    obtain ⟨_, reserved, grown⟩ := bind_eq_ok.mp made
    cases grown
    have same := Nat.le_antisymm arguments.fits (Nat.not_lt.mp full)
    exact .inr ⟨same, reserve_eq_ok_iff.mp reserved, rfl⟩

/-- Where room has been made there is some. -/
theorem free_of_withRoom (made : withRoom limit arguments = .ok roomy) :
    roomy.tokens.size < roomy.capacity := by
  rcases withRoom_cases made with ⟨room, rfl⟩ | ⟨full, _, rfl⟩
  · exact room
  · have positive := arguments.positive
    simp only [doubled]
    omega

/-- An argument is added by making room and putting it there: no free place is ever missing. -/
theorem push_eq_ok_iff :
    arguments.push limit token = .ok longer ↔
      ∃ roomy, withRoom limit arguments = .ok roomy ∧
        ∃ free : roomy.tokens.size < roomy.capacity, longer = roomy.put token free := by
  by_cases room : arguments.tokens.size < arguments.capacity
  · have found : withRoom limit arguments = .ok arguments := if_pos room
    rw [push, dif_pos room, found]
    constructor
    · intro pushed
      cases pushed
      exact ⟨arguments, rfl, room, rfl⟩
    · rintro ⟨_, made, _, rfl⟩
      cases made
      rfl
  · have grown : withRoom limit arguments =
        reserve limit (arguments.capacity * 2) >>= fun _ => pure arguments.doubled := if_neg room
    rw [push, dif_neg room]
    constructor
    · intro pushed
      obtain ⟨_, reserved, made⟩ := bind_eq_ok.mp pushed
      cases made
      have made : withRoom limit arguments = .ok arguments.doubled :=
        grown.trans (bind_eq_ok.mpr ⟨(), reserved, rfl⟩)
      exact ⟨arguments.doubled, made, free_of_withRoom made, rfl⟩
    · rintro ⟨_, made, _, rfl⟩
      obtain ⟨_, reserved, same⟩ := bind_eq_ok.mp (grown.symm.trans made)
      cases same
      exact bind_eq_ok.mpr ⟨(), reserved, rfl⟩

/-- An argument is refused where the double of the capacity is not granted. -/
theorem push_refused (refused : arguments.push limit token = .error fault) :
    ¬ Grants limit (arguments.capacity * 2) ∧
      fault = { cause := .storageExhausted (arguments.capacity * 2) } := by
  unfold push at refused
  split at refused
  · cases refused
  · rcases bind_eq_error.mp refused with reserved | ⟨_, _, made⟩
    · refine ⟨fun granted => ?_, reserve_error reserved⟩
      rw [reserve_eq_ok_iff.mpr granted] at reserved
      cases reserved
    · cases made

/-! ## Several arguments -/

/-- Storage that has been doubled as often as the arguments in it need. -/
structure Doubled (arguments : Arguments) (doublings : Nat) : Prop where
  capacity : arguments.capacity = capacityAfter doublings
  /-- It has passed through every capacity before. -/
  growth : arguments.growth =
    (List.range doublings).map fun few => (capacityAfter few, capacityAfter (few + 1))
  /-- None of these would have held the arguments. -/
  needed : ∀ few < doublings, capacityAfter few < arguments.tokens.size

theorem doubled_empty : Doubled empty 0 where
  capacity := rfl
  growth := rfl
  needed := fun _ less => absurd less (Nat.not_lt_zero _)

namespace Doubled

variable {doublings : Nat}

/-- Fewer doublings would not do. -/
theorem isLeast (grown : Doubled arguments doublings) :
    IsLeast {few | arguments.tokens.size ≤ capacityAfter few} doublings := by
  constructor
  · have fits := arguments.fits
    rw [grown.capacity] at fits
    exact fits
  · intro few enough
    by_contra less
    have short := grown.needed few (Nat.not_le.mp less)
    exact Nat.not_le.mpr short enough

/-- One argument more needs one doubling more, or none. -/
theorem push (grown : Doubled arguments doublings)
    (pushed : arguments.push limit token = .ok longer) : ∃ more, Doubled longer more := by
  obtain ⟨roomy, made, free, rfl⟩ := push_eq_ok_iff.mp pushed
  have size : (roomy.put token free).tokens.size = roomy.tokens.size + 1 := Array.size_push ..
  rcases withRoom_cases made with ⟨_, rfl⟩ | ⟨full, _, rfl⟩
  · refine ⟨doublings, grown.capacity, grown.growth, ?_⟩
    intro few less
    rw [size]
    exact Nat.lt_succ_of_lt (grown.needed few less)
  · refine ⟨doublings + 1, ?_, ?_, ?_⟩
    · rw [capacityAfter_succ, ← grown.capacity]
      rfl
    · rw [List.range_succ, List.map_append, ← grown.growth, List.map_singleton, capacityAfter_succ,
        ← grown.capacity]
      rfl
    · intro few less
      have below := capacityAfter_mono (Nat.le_of_lt_succ less)
      rw [← grown.capacity, ← full] at below
      exact size ▸ Nat.lt_succ_of_le below

theorem foldlM {tokens : List Bytes} (grown : Doubled arguments doublings)
    (folded : tokens.foldlM (Arguments.push limit) arguments = .ok longer) :
    ∃ more, Doubled longer more := by
  refine foldlM_keeps (fun arguments => ∃ few, Doubled arguments few) ?_ ⟨doublings, grown⟩ folded
  rintro before token after ⟨few, grown⟩ pushed
  exact grown.push pushed

end Doubled

/-- The least capacity reached by doublings that a limit does not grant. -/
def FirstRefused (limit : Option Nat) (capacity : Nat) : Prop :=
  IsLeast {refused | ¬ Grants limit refused ∧ ∃ doublings, refused = capacityAfter doublings}
    capacity

/-- A limit, where there is one, grants what is not above it. -/
theorem grants_iff {capacity : Nat} :
    Grants limit capacity ↔ ∀ bound ∈ limit, capacity ≤ bound := by
  cases limit <;> simp [Grants]

/-- Under a limit the first capacity that is refused is the first above it. -/
theorem FirstRefused.isLeast {bound capacity : Nat} (first : FirstRefused (some bound) capacity) :
    IsLeast {more | bound < more ∧ ∃ few, more = capacityAfter few} capacity := by
  have above (more : Nat) : ¬ Grants (some bound) more ↔ bound < more := by
    rw [grants_iff]
    simp
  simpa only [FirstRefused, above] using first

theorem firstRefused_of_grants {doublings : Nat}
    (refused : ¬ Grants limit (capacityAfter doublings))
    (granted : ∀ few < doublings, Grants limit (capacityAfter few)) :
    FirstRefused limit (capacityAfter doublings) := by
  refine ⟨⟨refused, doublings, rfl⟩, ?_⟩
  rintro _ ⟨other, few, rfl⟩
  by_contra below
  exact other (granted few (capacityAfter_lt_iff.mp (Nat.not_le.mp below)))

/-- What is refused at last is the first capacity that is not granted. -/
theorem Granted.foldlM_refused {tokens : List Bytes} (granted : Granted limit arguments)
    (refused : tokens.foldlM (Arguments.push limit) arguments = .error fault) :
    ∃ requested, FirstRefused limit requested ∧
      fault = { cause := .storageExhausted requested } := by
  obtain ⟨full, token, ⟨doublings, capacity, within⟩, pushed⟩ :=
    foldlM_fails (Granted limit) Granted.push granted refused
  obtain ⟨above, named⟩ := push_refused pushed
  rw [capacity, ← capacityAfter_succ] at above named
  refine ⟨capacityAfter (doublings + 1), firstRefused_of_grants above ?_, named⟩
  intro few less
  exact within.of_le (capacityAfter_mono (Nat.le_of_lt_succ less))

theorem ofLine_refused {line : Bytes} (refused : ofLine limit line = .error fault) :
    ∃ requested, FirstRefused limit requested ∧
      fault = { cause := .storageExhausted requested } := by
  rcases bind_eq_error.mp refused with reserved | ⟨_, reserved, folded⟩
  · refine ⟨capacityAfter 0, firstRefused_of_grants ?_ ?_, reserve_error reserved⟩
    · intro granted
      have first : reserve limit initialCapacity = .ok () := reserve_eq_ok_iff.mpr granted
      rw [first] at reserved
      cases reserved
    · exact fun few less => absurd less (Nat.not_lt_zero few)
  · have start : Granted limit empty := ⟨0, rfl, reserve_eq_ok_iff.mp reserved⟩
    exact start.foldlM_refused folded

/-! ## The arguments of a line -/

/-- Storage after some of the words of a line have been put into it. -/
structure HoldsFirst (limit : Option Nat) (line : Bytes) (earlier : List Bytes)
    (arguments : Arguments) : Prop where
  begins : earlier <+: words line
  reserved : reserve limit initialCapacity = .ok ()
  stored : earlier.foldlM (push limit) empty = .ok arguments

/-- After all the words it is what a line finds. -/
theorem ofLine_eq_ok_iff_holdsFirst {line : Bytes} :
    ofLine limit line = .ok arguments ↔ HoldsFirst limit line (words line) arguments := by
  constructor
  · intro stored
    obtain ⟨_, reserved, folded⟩ := bind_eq_ok.mp stored
    exact ⟨List.prefix_refl _, reserved, folded⟩
  · rintro ⟨_, reserved, folded⟩
    exact bind_eq_ok.mpr ⟨(), reserved, folded⟩

theorem HoldsFirst.toList_eq {line : Bytes} {earlier : List Bytes}
    (holds : HoldsFirst limit line earlier arguments) : arguments.toList = earlier :=
  (toList_of_foldlM holds.stored).trans (List.nil_append _)

/-- At any time storage has been doubled as often as the words in it need. -/
theorem HoldsFirst.exists_doubled {line : Bytes} {earlier : List Bytes}
    (holds : HoldsFirst limit line earlier arguments) :
    ∃ doublings, Doubled arguments doublings ∧
      IsLeast {few | earlier.length ≤ capacityAfter few} doublings := by
  obtain ⟨doublings, grown⟩ := doubled_empty.foldlM holds.stored
  have least := grown.isLeast
  rw [← Array.length_toList] at least
  have tokens : arguments.tokens.toList = earlier := holds.toList_eq
  rw [tokens] at least
  exact ⟨doublings, grown, least⟩

/-- How storage grows over the words of a line. -/
structure GrowsByDoubling (limit : Option Nat) (line : Bytes) (doublings : Nat) : Prop where
  /-- So many doublings do for the words, and no fewer. -/
  least : IsLeast {few | (words line).length ≤ capacityAfter few} doublings
  /-- Storage is found exactly if the limit, where there is one, is no less than that. -/
  found : (∃ arguments, ofLine limit line = .ok arguments) ↔
    ∀ bound ∈ limit, capacityAfter doublings ≤ bound
  /-- Then it has been doubled so often, step by step, and it holds all the words in order. -/
  grown : ∀ arguments, ofLine limit line = .ok arguments →
    arguments.capacity = capacityAfter doublings ∧
    arguments.growth =
      ((List.range doublings).map fun few => (capacityAfter few, capacityAfter (few + 1))) ∧
    arguments.toList = words line
  /-- Otherwise the line ends in a fatal fault, which names the first capacity above the limit. -/
  refused : ∀ bound ∈ limit, bound < capacityAfter doublings →
    ∃ requested fault, IsLeast {more | bound < more ∧ ∃ few, more = capacityAfter few} requested ∧
      ofLine limit line = .error fault ∧ fault.isFatal = true ∧
      fault = { cause := .storageExhausted requested }
  /-- At any time there are no more words in storage than it has places, -/
  within : ∀ earlier arguments, HoldsFirst limit line earlier arguments →
    arguments.toList = earlier ∧ earlier.length ≤ arguments.capacity ∧
    ∃ few, IsLeast {few | earlier.length ≤ capacityAfter few} few ∧
      arguments.capacity = capacityAfter few
  /-- and one more is put there only after room has been made. -/
  free : ∀ earlier arguments token longer, HoldsFirst limit line earlier arguments →
    arguments.push limit token = .ok longer →
    ∃ roomy, withRoom limit arguments = .ok roomy ∧ roomy.toList = earlier ∧
      ∃ room : roomy.tokens.size < roomy.capacity, longer = roomy.put token room

/-- **Storage grows by doubling, as often as the words of a line need**, and a refusal names the
first capacity that the limit excludes. -/
theorem ofLine_growsByDoubling (limit : Option Nat) (line : Bytes) :
    ∃ doublings, GrowsByDoubling limit line doublings := by
  have enough : ∃ few, (words line).length ≤ capacityAfter few := by
    obtain ⟨few, fit, _⟩ := suffices_none (words line).length
    exact ⟨few, fit⟩
  have least := Nat.isLeast_find enough
  refine ⟨Nat.find enough, ?_⟩
  generalize Nat.find enough = doublings at least
  have granted : (∃ arguments, ofLine limit line = .ok arguments) ↔
      Grants limit (capacityAfter doublings) := by
    rw [ofLine_eq_ok_iff]
    constructor
    · rintro ⟨few, fit, within⟩
      exact within.of_le (capacityAfter_mono (least.2 fit))
    · exact fun within => ⟨doublings, least.1, within⟩
  constructor
  case least => exact least
  case found => rw [granted, grants_iff]
  case grown =>
    intro arguments stored
    have holds := ofLine_eq_ok_iff_holdsFirst.mp stored
    obtain ⟨few, grown, same⟩ := holds.exists_doubled
    obtain rfl := same.unique least
    exact ⟨grown.capacity, grown.growth, holds.toList_eq⟩
  case refused =>
    rintro bound ⟨⟩ below
    cases read : ofLine (some bound) line with
    | ok arguments =>
      have within := grants_iff.mp (granted.mp ⟨arguments, read⟩) bound rfl
      exact absurd within (Nat.not_le.mpr below)
    | error fault =>
      obtain ⟨requested, first, rfl⟩ := ofLine_refused read
      exact ⟨requested, _, first.isLeast, rfl, rfl, rfl⟩
  case within =>
    intro earlier arguments holds
    obtain ⟨few, grown, least⟩ := holds.exists_doubled
    have fits : earlier.length ≤ capacityAfter few := least.1
    rw [← grown.capacity] at fits
    exact ⟨holds.toList_eq, fits, few, least, grown.capacity⟩
  case free =>
    intro earlier arguments token longer holds pushed
    obtain ⟨roomy, made, put⟩ := push_eq_ok_iff.mp pushed
    have same : roomy.toList = arguments.toList := by
      rcases withRoom_cases made with ⟨_, rfl⟩ | ⟨_, _, rfl⟩
      · rfl
      · rfl
    exact ⟨roomy, made, same.trans holds.toList_eq, put⟩

/-- Even an empty line needs the storage that is there at first. -/
example : ofLine (some 63) [] = .error { cause := .storageExhausted 64 } := rfl

end LineShell.Arguments
