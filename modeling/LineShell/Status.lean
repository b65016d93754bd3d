/-!
The status of a command: zero for success. The status of a program is read off its wait status, a
word whose low seven bits hold the signal that ended it and whose second byte holds the code it
gave.
-/
namespace LineShell

structure Status where
  code : Int
  deriving DecidableEq, Repr

namespace Status

def success : Status := ⟨0⟩

def failure : Status := ⟨1⟩

def succeeded (status : Status) : Bool := status.code == 0

/-- How a wait says that a program stopped running. -/
inductive Ending where
  | exited (code : Nat)
  | killed (signal : Nat)
  | unfinished
  deriving DecidableEq, Repr

/-- The low seven bits are zero for an exit and all ones for a program that was only stopped. -/
def Ending.ofWait (raw : UInt32) : Ending :=
  let low := raw.toNat % 128
  if low = 0 then .exited (raw.toNat / 256 % 256)
  else if low < 127 then .killed low
  else .unfinished

/-- The wait status that says so. -/
def Ending.toWait : Ending → UInt32
  | .exited code => UInt32.ofNat (code % 256 * 256)
  | .killed signal => UInt32.ofNat (signal % 128)
  | .unfinished => 0x7F

/-- A program that was killed counts from 128 on, and one that was only stopped has failed. -/
def ofEnding : Ending → Status
  | .exited code => ⟨code⟩
  | .killed signal => ⟨128 + signal⟩
  | .unfinished => failure

def ofWait (raw : UInt32) : Status := ofEnding (.ofWait raw)

end Status

end LineShell
