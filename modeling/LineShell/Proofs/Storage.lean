import LineShell.Proofs.Command
import Mathlib.Algebra.Group.Nat.Defs

/-!
# Where storage suffices

Storage begins with room for 64 arguments and doubles whenever it is full, so its capacity is always
one that was reached by doublings and granted (`Granted`). A line finds storage exactly if a capacity
of this kind holds all its words (`ofLine_eq_ok_iff`).
-/
namespace LineShell.Arguments

/-- The capacity after so many doublings. -/
def capacityAfter (doublings : Nat) : Nat := initialCapacity * 2 ^ doublings

theorem capacityAfter_succ (doublings : Nat) :
    capacityAfter (doublings + 1) = capacityAfter doublings * 2 := by
  rw [capacityAfter, capacityAfter, Nat.pow_succ, Nat.mul_assoc]

theorem capacityAfter_lt_iff {few many : Nat} :
    capacityAfter few < capacityAfter many ↔ few < many := by
  unfold capacityAfter
  rw [Nat.mul_lt_mul_left (by decide), Nat.pow_lt_pow_iff_right (by decide)]

theorem capacityAfter_mono {few many : Nat} (less : few ≤ many) :
    capacityAfter few ≤ capacityAfter many :=
  Nat.mul_le_mul_left _ (Nat.pow_le_pow_right (by decide) less)

/-- A limit grants a capacity that is not above it. -/
def Grants (limit : Option Nat) (capacity : Nat) : Prop := limit.all (capacity ≤ ·) = true

/-- What is less than a granted capacity is granted as well. -/
theorem Grants.of_le {limit : Option Nat} {few many : Nat} (granted : Grants limit many)
    (less : few ≤ many) : Grants limit few := by
  cases limit with
  | none => rfl
  | some bound =>
    have within : many ≤ bound := of_decide_eq_true granted
    exact decide_eq_true (Nat.le_trans less within)

theorem reserve_eq_ok_iff {limit : Option Nat} {capacity : Nat} :
    reserve limit capacity = .ok () ↔ Grants limit capacity := by
  unfold reserve Grants
  split <;> simp_all

/-- Storage suffices for so many arguments if they fit into a capacity that is reached by doublings
and granted. -/
def Suffices (limit : Option Nat) (count : Nat) : Prop :=
  ∃ doublings, count ≤ capacityAfter doublings ∧ Grants limit (capacityAfter doublings)

theorem suffices_none (count : Nat) : Suffices none count := by
  refine ⟨count, ?_, rfl⟩
  have := @Nat.lt_two_pow_self count
  unfold capacityAfter initialCapacity
  omega

/-- The capacity of some arguments has been reached by doublings and granted. -/
def Granted (limit : Option Nat) (arguments : Arguments) : Prop :=
  ∃ doublings, arguments.capacity = capacityAfter doublings ∧
    Grants limit (capacityAfter doublings)

section Push

variable {limit : Option Nat} {arguments longer : Arguments} {token : Bytes}

theorem size_of_push (pushed : arguments.push limit token = .ok longer) :
    longer.tokens.size = arguments.tokens.size + 1 := by
  have tokens := congrArg List.length (toList_of_push pushed)
  simpa [toList] using tokens

/-- An argument that finds room leaves the capacity alone, and any other has had it doubled. -/
theorem capacity_of_push (pushed : arguments.push limit token = .ok longer) :
    longer.capacity = arguments.capacity ∨
      longer.capacity = arguments.capacity * 2 ∧ Grants limit (arguments.capacity * 2) := by
  unfold push at pushed
  split at pushed
  · cases pushed
    exact .inl rfl
  · obtain ⟨_, reserved, made⟩ := bind_eq_ok.mp pushed
    cases made
    exact .inr ⟨rfl, reserve_eq_ok_iff.mp reserved⟩

theorem Granted.push (granted : Granted limit arguments)
    (pushed : arguments.push limit token = .ok longer) : Granted limit longer := by
  obtain ⟨doublings, capacity, within⟩ := granted
  obtain same | ⟨doubled, more⟩ := capacity_of_push pushed
  · exact ⟨doublings, same.trans capacity, within⟩
  · rw [capacity, ← capacityAfter_succ] at doubled more
    exact ⟨doublings + 1, doubled, more⟩

/-- One more argument is refused only where storage is full and its double is not granted. -/
theorem exists_push (room : arguments.tokens.size = arguments.capacity →
    Grants limit (arguments.capacity * 2)) :
    ∃ longer, arguments.push limit token = .ok longer := by
  unfold Arguments.push
  split
  · exact ⟨_, rfl⟩
  · next full =>
    have reserved := reserve_eq_ok_iff.mpr
      (room (Nat.le_antisymm arguments.fits (Nat.not_lt.mp full)))
    exact ⟨_, bind_eq_ok.mpr ⟨(), reserved, rfl⟩⟩

/-- What is granted stays so over all arguments of a line. -/
theorem Granted.foldlM {tokens : List Bytes} (granted : Granted limit arguments)
    (folded : tokens.foldlM (Arguments.push limit) arguments = .ok longer) :
    Granted limit longer :=
  foldlM_keeps (Granted limit) Granted.push granted folded

/-- Arguments that fit into a capacity that is granted all find storage. -/
theorem Granted.exists_foldlM {doublings : Nat} {tokens : List Bytes}
    (granted : Granted limit arguments) (within : Grants limit (capacityAfter doublings))
    (fit : arguments.tokens.size + tokens.length ≤ capacityAfter doublings) :
    ∃ longer, tokens.foldlM (Arguments.push limit) arguments = .ok longer := by
  induction tokens generalizing arguments with
  | nil => exact ⟨arguments, rfl⟩
  | cons token rest ih =>
    rw [List.length_cons] at fit
    have room : arguments.tokens.size = arguments.capacity →
        Grants limit (arguments.capacity * 2) := by
      intro full
      obtain ⟨reached, capacity, _⟩ := granted
      -- Full storage is below the capacity that is granted, and so its double is not above it.
      have below : reached < doublings := capacityAfter_lt_iff.mp (by omega)
      rw [capacity, ← capacityAfter_succ]
      exact within.of_le (capacityAfter_mono below)
    obtain ⟨next, pushed⟩ : ∃ next, arguments.push limit token = .ok next := exists_push room
    have size := size_of_push pushed
    obtain ⟨longer, folded⟩ := ih (granted.push pushed) (by omega)
    exact ⟨longer, by rw [List.foldlM_cons, pushed]; exact folded⟩

end Push

/-- A line finds storage exactly if that suffices for its words. -/
theorem ofLine_eq_ok_iff {limit : Option Nat} {line : Bytes} :
    (∃ arguments, ofLine limit line = .ok arguments) ↔ Suffices limit (words line).length := by
  have start (first : Grants limit initialCapacity) : Granted limit empty :=
    ⟨0, rfl, first⟩
  constructor
  · rintro ⟨arguments, stored⟩
    obtain ⟨_, reserved, folded⟩ := bind_eq_ok.mp stored
    obtain ⟨doublings, capacity, within⟩ := (start (reserve_eq_ok_iff.mp reserved)).foldlM folded
    refine ⟨doublings, ?_, within⟩
    rw [← toList_of_ofLine stored, ← capacity]
    exact arguments.fits
  · rintro ⟨doublings, fit, within⟩
    have first : Grants limit initialCapacity := within.of_le (capacityAfter_mono (Nat.zero_le _))
    obtain ⟨arguments, folded⟩ := (start first).exists_foldlM within (by simpa [empty] using fit)
    exact ⟨arguments, bind_eq_ok.mpr ⟨(), reserve_eq_ok_iff.mpr first, folded⟩⟩

end LineShell.Arguments
