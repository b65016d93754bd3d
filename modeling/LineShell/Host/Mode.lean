import LineShell.Host.Numeral
import LineShell.Text.Pieces

/-!
Permission bits as they are written: octal digits, or clauses that say for whom which bits are
added, taken away or set.
-/
namespace LineShell.Host

inductive Mode.Action where
  | add
  | remove
  | set
  deriving DecidableEq, Repr

/-- What an action is about. -/
inductive Mode.Subject where
  | bits (bits : Nat)
  /-- The bits that a group of users has. -/
  | copy (bits : Nat)
  /-- Some bits, and those for running if any user has one. -/
  | runnable (bits : Nat)
  deriving DecidableEq, Repr

/-- One change: for whom, if that is said, what is done, and with which bits. -/
structure Mode.Change where
  users : Option Nat
  action : Mode.Action
  subject : Mode.Subject
  deriving DecidableEq, Repr

/-- Permission bits, by themselves or by changes to others. -/
inductive Mode where
  | exactly (bits : Nat)
  | changed (list : List Mode.Change)
  deriving DecidableEq, Repr

namespace Mode

/-- All bits there are. -/
def all : Nat := 0o7777

/-- The bits that new files lack. -/
def lacking : Nat := 0o022

/-- The bits of some users. -/
def usersOf (b : UInt8) : Option Nat :=
  match Char.ofNat b.toNat with
  | 'u' => some 0o4700
  | 'g' => some 0o2070
  | 'o' => some 0o1007
  | 'a' => some all
  | _ => none

def actionOf (b : UInt8) : Option Action :=
  match Char.ofNat b.toNat with
  | '+' => some .add
  | '-' => some .remove
  | '=' => some .set
  | _ => none

/-- The bits of a letter, for all users. -/
def letterBits (b : UInt8) : Option Nat :=
  match Char.ofNat b.toNat with
  | 'r' => some 0o444
  | 'w' => some 0o222
  | 'x' => some 0o111
  | 's' => some 0o6000
  | 't' => some 0o1000
  | 'X' => some 0
  | _ => none

/-- Octal digits that denote bits. -/
def octal? (digits : Bytes) : Option Nat :=
  let value := Numeral.value 8 digits
  if digits ≠ [] ∧ digits.all Numeral.isOctal ∧ value ≤ all then some value else none

/-- What stands behind the sign of an action. -/
def subject? (text : Bytes) : Option Subject :=
  match text with
  | [b] =>
    match (if b = 0x61 then none else usersOf b), letterBits b with
    | some _, _ => some (.copy (if b = 0x75 then 0o700 else if b = 0x67 then 0o070 else 0o007))
    | none, some bits => some (if b = 0x58 then .runnable bits else .bits bits)
    | none, none => (octal? text).map .bits
  | _ =>
    if text.all (letterBits · |>.isSome) then
      let bits := text.foldl (fun bits b => bits ||| (letterBits b).getD 0) 0
      some (if text.contains 0x58 then .runnable bits else .bits bits)
    else (octal? text).map .bits

/-- The actions of a clause, each with what stands behind its sign. -/
def actions : Bytes → List (Action × Bytes)
  | [] => []
  | b :: rest =>
    match actionOf b with
    | some action => (action, rest.takeWhile (actionOf · |>.isNone)) :: actions rest
    | none => actions rest

/-- The changes that a clause asks for. -/
def clause? (clause : Bytes) : Option (List Change) :=
  let who := clause.takeWhile (usersOf · |>.isSome)
  let users := if who = [] then none
    else some (who.foldl (fun bits b => bits ||| (usersOf b).getD 0) 0)
  let rest := clause.drop who.length
  if rest.head?.any (actionOf · |>.isSome) then
    (actions rest).mapM fun (action, text) => do
      return { users, action, subject := ← subject? text }
  else none

/-- The mode that a word denotes. -/
def parse? (word : Bytes) : Option Mode :=
  match octal? word with
  | some bits => some (.exactly bits)
  | none =>
    if word.all Numeral.isDigit then none
    else (((Text.pieces (· == 0x2C) word).mapM clause?).map List.flatten).map .changed

/-- The bits that a change makes of others. -/
def Change.apply (isDirectory : Bool) (before : Nat) (change : Change) : Nat :=
  let reach := change.users.getD (all - lacking)
  let bits := match change.subject with
    | .bits bits => bits
    | .runnable bits =>
      if isDirectory || before &&& 0o111 ≠ 0 then bits ||| 0o111 else bits
    | .copy users =>
      let held := before &&& users
      (if held &&& 0o444 ≠ 0 then 0o444 else 0) ||| (if held &&& 0o222 ≠ 0 then 0o222 else 0) |||
        (if held &&& 0o111 ≠ 0 then 0o111 else 0)
  let wanted := bits &&& reach
  match change.action with
  | .add => before ||| wanted
  | .remove => before &&& (all - wanted)
  | .set => (before &&& (all - change.users.getD all)) ||| wanted

/-- The bits that a mode makes of others. -/
def apply (mode : Mode) (isDirectory : Bool) (before : Nat) : Nat :=
  match mode with
  | .exactly bits => bits
  | .changed list => list.foldl (Change.apply isDirectory) before

end Mode

end LineShell.Host
