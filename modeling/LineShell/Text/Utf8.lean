/-!
Bytes, text and the UTF-8 encoding between them. Decoding is a machine that reads one byte at a
time and puts out a character, or an empty place for each longest piece that no character begins
with. Main statements: an ASCII byte always stands for itself and closes whatever came before it
(`units_append_ascii`), so decoding may be done before or after a cut at such a byte
(`lossy_append_ascii`).
-/
namespace LineShell

/-- A string of bytes, as files, arguments and directory names hold them. -/
abbrev Bytes := List UInt8

/-- A string of characters. -/
abbrev Text := List Char

namespace Utf8

/-- What a character that has begun still needs: how many bytes, the bounds of the next one, and
the value gathered so far. -/
inductive Pending where
  | nothing
  | tail (owed : Nat) (low high : UInt8) (value : Nat)
  deriving DecidableEq, Repr

/-- A byte read between characters. `none` in the output is a byte that begins no character. -/
def lead (b : UInt8) : List (Option Char) × Pending :=
  if b < 0x80 then ([some (Char.ofNat b.toNat)], .nothing)
  else if b < 0xC2 then ([none], .nothing)
  else if b < 0xE0 then ([], .tail 0 0x80 0xBF (b.toNat - 0xC0))
  else if b = 0xE0 then ([], .tail 1 0xA0 0xBF 0)
  else if b = 0xED then ([], .tail 1 0x80 0x9F 0xD)
  else if b < 0xF0 then ([], .tail 1 0x80 0xBF (b.toNat - 0xE0))
  else if b = 0xF0 then ([], .tail 2 0x90 0xBF 0)
  else if b < 0xF4 then ([], .tail 2 0x80 0xBF (b.toNat - 0xF0))
  else if b = 0xF4 then ([], .tail 2 0x80 0x8F 4)
  else ([none], .nothing)

/-- One byte. A byte outside the bounds ends the unfinished character and is read afresh. -/
def feed : Pending → UInt8 → List (Option Char) × Pending
  | .nothing, b => lead b
  | .tail owed low high value, b =>
    if low ≤ b ∧ b ≤ high then
      let value := value * 64 + (b.toNat - 0x80)
      match owed with
      | 0 => ([some (Char.ofNat value)], .nothing)
      | owed + 1 => ([], .tail owed 0x80 0xBF value)
    else
      let (out, next) := lead b
      (none :: out, next)

/-- The end of the bytes: an unfinished character is one empty place. -/
def finish : Pending → List (Option Char)
  | .nothing => []
  | .tail .. => [none]

/-- The characters and empty places of a byte string, from a state of the machine. -/
def units : Pending → Bytes → List (Option Char)
  | pending, [] => finish pending
  | pending, b :: rest => (feed pending b).1 ++ units (feed pending b).2 rest

/-- Every byte belongs to a character. -/
def valid (bytes : Bytes) : Bool :=
  (units .nothing bytes).all Option.isSome

/-- The text of a byte string, with U+FFFD in each empty place. -/
def lossy (bytes : Bytes) : Text :=
  (units .nothing bytes).map fun unit => unit.getD '\uFFFD'

/-- The text of a byte string that has one. -/
def decode? (bytes : Bytes) : Option Text :=
  if valid bytes then some (lossy bytes) else none

/-- The bytes of a text. -/
def encode (text : Text) : Bytes :=
  text.flatMap String.utf8EncodeChar

theorem lead_ascii {b : UInt8} (small : b < 0x80) :
    lead b = ([some (Char.ofNat b.toNat)], .nothing) := by
  simp [lead, small]

theorem feed_ascii {b : UInt8} (small : b < 0x80) (pending : Pending)
    (low : ∀ owed low high value, pending = .tail owed low high value → 0x80 ≤ low) :
    feed pending b = (finish pending ++ [some (Char.ofNat b.toNat)], .nothing) := by
  cases pending with
  | nothing => simp [feed, finish, lead_ascii small]
  | tail owed bound high value =>
    have above := low owed bound high value rfl
    have outside : ¬ (bound ≤ b ∧ b ≤ high) := by
      rintro ⟨within, _⟩
      exact absurd (UInt8.le_trans above within) (UInt8.not_le.mpr small)
    simp only [feed, finish, if_neg outside, lead_ascii small]
    rfl

/-- States whose next byte is no ASCII byte; the machine reaches no others. -/
def Pending.Sound : Pending → Prop
  | .nothing => True
  | .tail _ low _ _ => 0x80 ≤ low

theorem lead_sound (b : UInt8) : (lead b).2.Sound := by
  unfold lead
  repeat' split
  all_goals simp [Pending.Sound]

theorem feed_sound (pending : Pending) (b : UInt8) : (feed pending b).2.Sound := by
  cases pending with
  | nothing => exact lead_sound b
  | tail owed low high value =>
    simp only [feed]
    split
    · cases owed <;> simp [Pending.Sound]
    · exact lead_sound b

theorem units_append_ascii {b : UInt8} (small : b < 0x80) (front back : Bytes) :
    ∀ pending : Pending, pending.Sound →
      units pending (front ++ b :: back) =
        units pending front ++ some (Char.ofNat b.toNat) :: units .nothing back := by
  induction front with
  | nil =>
    intro pending sound
    have low : ∀ owed low high value, pending = .tail owed low high value → 0x80 ≤ low := by
      rintro owed low high value rfl
      exact sound
    simp [units, feed_ascii small pending low]
  | cons first rest ih =>
    intro pending _
    simp only [List.cons_append, units, List.append_assoc]
    rw [ih _ (feed_sound pending first)]

theorem lossy_append_ascii {b : UInt8} (small : b < 0x80) (front back : Bytes) :
    lossy (front ++ b :: back) = lossy front ++ Char.ofNat b.toNat :: lossy back := by
  simp [lossy, units_append_ascii small front back .nothing trivial]

end Utf8

/-- The bytes of a string. -/
def Bytes.ofString (s : String) : Bytes := Utf8.encode s.toList

/-- The string shown for bytes that need not be UTF-8. -/
def Bytes.display (bytes : Bytes) : String := String.ofList (Utf8.lossy bytes)

end LineShell
