import LineShell.Text.Numeral
import Mathlib.Data.Nat.Digits.Defs
import Mathlib.Tactic.Ring

/-!
# Numerals and the numbers they denote

A numeral is one or more ASCII digits, read with the highest place first, and leading zeros do not
count. What the reader takes for a number is just that (`digits?_eq_some_iff`), with a plus sign
before it or without and below a bound (`natural?_eq_some_iff`), or with any sign and between two
bounds (`integer?_eq_some_iff`). A number that is written out denotes itself
(`isInteger_toString`).
-/
namespace LineShell.Text

/-- The number of one digit. -/
def digitNumber (digit : Char) : Nat := digit.toNat - '0'.toNat

/-- Some digits and the number that they denote. -/
structure Denotes (digits : Text) (number : Nat) : Prop where
  nonempty : digits ≠ []
  isDigit : ∀ c ∈ digits, c.isDigit = true
  value : Nat.ofDigits 10 (digits.reverse.map digitNumber) = number

/-- Digits that are followed by others count for more by a power of ten. -/
theorem digitsValue_eq (digits : Text) (value : Nat) :
    digitsValue value digits =
      value * 10 ^ digits.length + Nat.ofDigits 10 (digits.reverse.map digitNumber) := by
  induction digits generalizing value with
  | nil => simp [digitsValue]
  | cons digit rest ih =>
    have later : digitsValue value (digit :: rest) =
        digitsValue (10 * value + digitNumber digit) rest := rfl
    have places : Nat.ofDigits 10 ((digit :: rest).reverse.map digitNumber) =
        Nat.ofDigits 10 (rest.reverse.map digitNumber) + 10 ^ rest.length * digitNumber digit := by
      simp [Nat.ofDigits_append]
    rw [later, ih, places, List.length_cons, pow_succ]
    ring

theorem digits?_eq_some_iff {digits : Text} {number : Nat} :
    digits? digits = some number ↔ Denotes digits number := by
  have value : digitsValue 0 digits = Nat.ofDigits 10 (digits.reverse.map digitNumber) := by
    rw [digitsValue_eq, Nat.zero_mul, Nat.zero_add]
  unfold digits?
  rw [value]
  constructor
  · intro read
    split at read
    · cases read
    · next good =>
      simp only [Bool.or_eq_true, List.isEmpty_iff, Bool.not_eq_true', not_or] at good
      exact ⟨good.1, List.all_eq_true.mp (Bool.not_eq_false _ ▸ good.2), Option.some.inj read⟩
  · rintro ⟨nonempty, isDigit, rfl⟩
    rw [if_neg]
    simp only [Bool.or_eq_true, List.isEmpty_iff, Bool.not_eq_true', not_or]
    exact ⟨nonempty, by rw [List.all_eq_true.mpr isDigit]; decide⟩

/-- A numeral with an optional plus sign. -/
def IsNatural (text : Text) (number : Nat) : Prop :=
  Denotes text number ∨ ∃ digits, text = '+' :: digits ∧ Denotes digits number

theorem natural?_eq_some_iff {bound : Nat} {text : Text} {number : Nat} :
    natural? bound text = some number ↔ IsNatural text number ∧ number < bound := by
  have signed (digits : Text) : ¬ Denotes ('+' :: digits) number := fun denotes =>
    absurd (denotes.isDigit '+' (List.mem_cons_self ..)) (by decide)
  unfold natural?
  rw [Option.filter_eq_some_iff, decide_eq_true_eq, digits?_eq_some_iff]
  refine and_congr_left fun _ => ?_
  split
  · next rest =>
    constructor
    · exact fun denotes => .inr ⟨rest, rfl, denotes⟩
    · rintro (denotes | ⟨digits, same, denotes⟩)
      · exact absurd denotes (signed rest)
      · cases same
        exact denotes
  · next plain =>
    constructor
    · exact .inl
    · rintro (denotes | ⟨digits, rfl, _⟩)
      · exact denotes
      · exact absurd rfl (plain digits)

/-- A numeral with an optional sign. -/
def IsInteger (text : Text) (number : Int) : Prop :=
  (∃ size : Nat, IsNatural text size ∧ number = size) ∨
    ∃ digits size, text = '-' :: digits ∧ Denotes digits size ∧ number = -(size : Int)

/-- A sign is no digit. -/
theorem not_denotes_sign {sign : Char} (noDigit : sign.isDigit = false) (digits : Text)
    (number : Nat) : ¬ Denotes (sign :: digits) number := fun denotes =>
  absurd (denotes.isDigit sign (List.mem_cons_self ..)) (by rw [noDigit]; decide)

theorem integer?_eq_some_iff {bound : Nat} {text : Text} {number : Int} :
    integer? bound text = some number ↔
      IsInteger text number ∧ -(bound : Int) ≤ number ∧ number < bound := by
  have minus := @not_denotes_sign '-' (by decide)
  have plus := @not_denotes_sign '+' (by decide)
  have read (digits : Text) (sign : Int → Int) :
      Option.map sign (do let size ← digits? digits; pure (size : Int)) = some number ↔
        ∃ size : Nat, Denotes digits size ∧ sign size = number := by
    simp [Option.bind_eq_some_iff, digits?_eq_some_iff]
  unfold integer? IsInteger IsNatural
  rw [Option.filter_eq_some_iff, Bool.and_eq_true, decide_eq_true_eq, decide_eq_true_eq]
  refine and_congr_left fun _ => ?_
  split
  · next rest =>
    rw [read]
    constructor
    · rintro ⟨size, denotes, rfl⟩
      exact .inr ⟨rest, size, rfl, denotes, rfl⟩
    · rintro (⟨size, (denotes | ⟨digits, same, _⟩), _⟩ | ⟨digits, size, same, denotes, rfl⟩)
      · exact absurd denotes (minus _ _)
      · cases same
      · cases same
        exact ⟨size, denotes, rfl⟩
  · next rest =>
    rw [read]
    constructor
    · rintro ⟨size, denotes, rfl⟩
      exact .inl ⟨size, .inr ⟨rest, rfl, denotes⟩, rfl⟩
    · rintro (⟨size, (denotes | ⟨digits, same, denotes⟩), rfl⟩ | ⟨digits, size, same, _⟩)
      · exact absurd denotes (plus _ _)
      · cases same
        exact ⟨size, denotes, rfl⟩
      · cases same
  · next noMinus noPlus =>
    rw [read]
    constructor
    · rintro ⟨size, denotes, rfl⟩
      exact .inl ⟨size, .inl denotes, rfl⟩
    · rintro (⟨size, (denotes | ⟨digits, rfl, _⟩), rfl⟩ | ⟨digits, size, rfl, _⟩)
      · exact ⟨size, denotes, rfl⟩
      · exact absurd rfl (noPlus digits)
      · exact absurd rfl (noMinus digits)

theorem denotes_toDigits (number : Nat) : Denotes (Nat.toDigits 10 number) number := by
  have digits : (Nat.toDigits 10 number).all Char.isDigit = true :=
    List.all_eq_true.mpr fun _ => Nat.isDigit_of_mem_toDigits (by decide) (by decide)
  rw [← digits?_eq_some_iff, digits?, digits, List.isEmpty_eq_false_iff.mpr Nat.toDigits_ne_nil]
  exact congrArg some Nat.ofDigitChars_ten_toDigits

/-- A number that is written out denotes itself. -/
theorem isInteger_toString (number : Int) : IsInteger (toString number).toList number := by
  cases number with
  | ofNat size =>
    refine .inl ⟨size, .inl ?_, rfl⟩
    change Denotes size.repr.toList size
    rw [Nat.toList_repr]
    exact denotes_toDigits size
  | negSucc size =>
    refine .inr ⟨Nat.toDigits 10 (size + 1), size + 1, ?_, denotes_toDigits _, rfl⟩
    change ("-" ++ (size + 1).repr).toList = _
    rw [String.toList_append, Nat.toList_repr]
    rfl

end LineShell.Text
