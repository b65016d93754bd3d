import LineShell.Proofs.Children
import LineShell.Proofs.Statuses

/-!
# What a wait status says

A wait status is a signed word. Its low seven bits are zero if the program ended by itself, with the
second byte as its code; otherwise they are the signal that killed it, or all ones if it was only
stopped. That is all that is taken from the word (`Status.ofWait_eq`), so only a program that
ended by itself with code zero has succeeded (`Status.ofWait_decodes`).
-/
namespace LineShell

namespace Status

/-- The low seven bits of a word. -/
def lowBits (raw : Int32) : Int32 := raw &&& 0x7F

/-- The second byte of a word. What the shift brings in for the sign is masked out. -/
def secondByte (raw : Int32) : Int32 := (raw >>> 8) &&& 0xFF

/-- The code of a program that ended by itself. -/
def exitCode? (raw : Int32) : Option Int32 :=
  if lowBits raw = 0 then some (secondByte raw) else none

/-- The signal that killed a program. All ones and one more are negative as a byte. -/
def signal? (raw : Int32) : Option Int32 :=
  if 2 ≤ (lowBits raw + 1).toInt8 then some (lowBits raw) else none

/-- The code that the shell works out of the two, in 32 bits. -/
def codeOf : Option Int32 → Option Int32 → Int32
  | some code, _ => code
  | none, some signal => 128 + signal
  | none, none => 1

/-! ## The parts of a word -/

theorem toInt_lowBits (raw : Int32) : (lowBits raw).toInt = (raw.toUInt32.toNat % 128 : Nat) := by
  have low : (lowBits raw).toBitVec.toNat = raw.toUInt32.toNat % 128 := by
    rw [lowBits, Int32.toBitVec_and, BitVec.toNat_and]
    exact Nat.and_two_pow_sub_one_eq_mod _ 7
  rw [← Int32.toInt_toBitVec, BitVec.toInt_eq_toNat_cond, low, if_pos (by omega)]

theorem toInt_secondByte (raw : Int32) :
    (secondByte raw).toInt = (raw.toUInt32.toNat / 256 % 256 : Nat) := by
  have second : (secondByte raw).toBitVec.toNat = raw.toUInt32.toNat / 256 % 256 := by
    rw [secondByte, Int32.toBitVec_and, BitVec.toNat_and, Int32.toBitVec_shiftRight]
    change (raw.toBitVec.sshiftRight 8).toNat &&& (2 ^ 8 - 1) = raw.toBitVec.toNat / 256 % 256
    -- A negative word is less by `2 ^ 32`, which is nothing to the second byte.
    rw [Nat.and_two_pow_sub_one_eq_mod, BitVec.sshiftRight_eq, BitVec.toNat_ofInt,
      Int.shiftRight_eq_div_pow, BitVec.toInt_eq_toNat_cond]
    split <;> omega
  rw [← Int32.toInt_toBitVec, BitVec.toInt_eq_toNat_cond, second, if_pos (by omega)]

/-- Numbers whose sum fits in a word are added in words. -/
theorem toInt_add_of_small {first second : Int32} (low : -0x80000000 ≤ first.toInt + second.toInt)
    (high : first.toInt + second.toInt < 0x80000000) :
    (first + second).toInt = first.toInt + second.toInt := by
  rw [Int32.toInt_add]
  exact Int.bmod_eq_of_le_mul_two (by omega) (by omega)

/-- The low bits are no more than seven. -/
theorem lowBits_bounds (raw : Int32) :
    0 ≤ lowBits raw ∧ (1 ≤ lowBits raw ↔ lowBits raw ≠ 0) ∧
      (lowBits raw ≤ 126 ↔ lowBits raw ≠ 127) := by
  have low := toInt_lowBits raw
  simp only [Int32.le_iff_toInt_le, ne_eq, ← Int32.toInt_inj]
  change 0 ≤ _ ∧ (1 ≤ _ ↔ ¬ _ = 0) ∧ (_ ≤ 126 ↔ ¬ _ = 127)
  omega

/-- A signal is there if the low bits are neither all zeros nor all ones. -/
theorem signal?_eq (raw : Int32) :
    signal? raw =
      if lowBits raw = 0 ∨ lowBits raw = 127 then none else some (lowBits raw) := by
  have low := toInt_lowBits raw
  have next : (lowBits raw + 1).toInt = (lowBits raw).toInt + 1 :=
    toInt_add_of_small (by rw [Int32.toInt_one]; omega) (by rw [Int32.toInt_one]; omega)
  have wraps : 2 ≤ (lowBits raw + 1).toInt8 ↔ ¬ (lowBits raw = 0 ∨ lowBits raw = 127) := by
    rw [Int8.le_iff_toInt_le, Int32.toInt_toInt8, next, Int.bmod_eq_emod, ← Int32.toInt_inj,
      ← Int32.toInt_inj]
    change 2 ≤ _ ↔ ¬ (_ = 0 ∨ _ = 127)
    split <;> omega
  simp only [signal?, wraps, ite_not]

/-! ## The status -/

/-- The status of a wait, by the three kinds of words that there are. -/
theorem ofWait_eq (raw : Int32) :
    ofWait raw.toUInt32 =
      if lowBits raw = 0 then ⟨(secondByte raw).toInt⟩
      else if lowBits raw = 127 then failure
      else ⟨128 + (lowBits raw).toInt⟩ := by
  have zero : lowBits raw = 0 ↔ raw.toUInt32.toNat % 128 = 0 := by
    rw [← Int32.toInt_inj, toInt_lowBits]
    exact Int.natCast_inj
  have ones : lowBits raw = 127 ↔ raw.toUInt32.toNat % 128 = 127 := by
    rw [← Int32.toInt_inj, toInt_lowBits]
    exact Int.natCast_inj
  simp only [zero, ones, toInt_lowBits, toInt_secondByte, ofWait, Ending.ofWait]
  split
  · rfl
  · split
    · next few => rw [if_neg (by omega)]; rfl
    · next many => rw [if_pos (by omega)]; rfl

/-- It is what the shell works out in 32 bits, which have room for the sum. -/
theorem code_ofWait (raw : Int32) :
    (ofWait raw.toUInt32).code = (codeOf (exitCode? raw) (signal? raw)).toInt := by
  have low := toInt_lowBits raw
  have sum : (128 + lowBits raw).toInt = 128 + (lowBits raw).toInt :=
    @toInt_add_of_small 128 _ (by change -_ ≤ 128 + _; omega) (by change 128 + _ < _; omega)
  rw [ofWait_eq, signal?_eq, exitCode?]
  by_cases zero : lowBits raw = 0
  · rw [if_pos zero, if_pos zero]
    rfl
  · rw [if_neg zero, if_neg zero]
    by_cases ones : lowBits raw = 127
    · rw [if_pos ones, if_pos (.inr ones)]
      rfl
    · rw [if_neg ones, if_neg (not_or.mpr ⟨zero, ones⟩)]
      exact sum.symm

/-- A program that was killed or stopped has not succeeded. -/
theorem succeeded_ofWait_iff (raw : Int32) :
    (ofWait raw.toUInt32).succeeded = true ↔ exitCode? raw = some 0 := by
  have low := toInt_lowBits raw
  rw [succeeded, beq_iff_eq, ofWait_eq, exitCode?]
  by_cases zero : lowBits raw = 0
  · rw [if_pos zero, if_pos zero, Option.some.injEq, ← Int32.toInt_inj]
    exact Iff.rfl
  · rw [if_neg zero, if_neg zero]
    by_cases ones : lowBits raw = 127
    · rw [if_pos ones]
      decide
    · rw [if_neg ones]
      simp only [reduceCtorEq, iff_false]
      omega

/-- What becomes of a wait status. -/
structure Decodes (raw : Int32) (status : Status) : Prop where
  /-- Low bits of zero give the second byte, -/
  exited : lowBits raw = 0 → status.code = (secondByte raw).toInt
  /-- those of a signal give 128 and the signal, whatever the bits above them are, -/
  killed : 1 ≤ lowBits raw → lowBits raw ≤ 126 → status.code = 128 + (lowBits raw).toInt
  /-- and all others give one. -/
  unfinished : ¬ (0 ≤ lowBits raw ∧ lowBits raw ≤ 126) → status.code = 1
  /-- A word of 32 bits has room for the sum. -/
  fits : status.code = (codeOf (exitCode? raw) (signal? raw)).toInt
  byte : 0 ≤ status.code ∧ status.code ≤ 255
  /-- Only a program that ended by itself with code zero has succeeded. -/
  succeeded : status.succeeded = true ↔ exitCode? raw = some 0
  /-- The status is kept after a line that has started the program, on any stage. -/
  recorded : ∀ (platform : Platform) (stage : Stage) (line : Bytes) (invocation : Invocation),
    Command.child? platform.storageLimit stage.world line = some invocation →
    (platform.programs invocation stage.world.files).wait = raw.toUInt32 →
    (stage.next platform line).shell.status = status

end Status

/-- A line that has started a program leaves the status of its wait. -/
theorem Stage.status_of_child {platform : Platform} {stage : Stage} {line : Bytes}
    {invocation : Invocation}
    (starts : Command.child? platform.storageLimit stage.world line = some invocation) :
    (stage.next platform line).shell.status =
      .ofWait (platform.programs invocation stage.world.files).wait := by
  rw [next, settle, evaluate, Command.evaluate_of_child starts]
  rfl

/-- **A wait status is decoded for what it is**, whatever the word. -/
theorem Status.ofWait_decodes (raw : Int32) : Decodes raw (ofWait raw.toUInt32) := by
  obtain ⟨least, some, few⟩ := lowBits_bounds raw
  have status := ofWait_eq raw
  constructor
  case exited =>
    intro zero
    rw [status, if_pos zero]
  case killed =>
    intro isSome isFew
    rw [status, if_neg (some.mp isSome), if_neg (few.mp isFew)]
  case unfinished =>
    intro outside
    have ones : lowBits raw = 127 := by_contra fun other => outside ⟨least, few.mpr other⟩
    rw [status, ones]
    rfl
  case fits => exact code_ofWait raw
  case byte => exact ofWait_bounds _
  case succeeded => exact succeeded_ofWait_iff raw
  case recorded =>
    intro platform stage line invocation starts wait
    rw [Stage.status_of_child starts, wait]

end LineShell
