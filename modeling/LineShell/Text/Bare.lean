import LineShell.Text.Utf8

/-!
What is left of a text when it is shown without terminal sequences. The bytes are followed by a
small machine whose places are those of a terminal: in plain text, after an escape, in a control
sequence, or in one of the strings a terminal swallows. White space is kept wherever a terminal
would act on it; the sequence it stands in goes on only after the plain text that follows.
-/
namespace LineShell.Text

/-- Where a terminal stands after a byte. -/
inductive Place where
  | ground
  | escape
  | escapeMore
  | sequence
  | parameters
  | sequenceMore
  | sequenceLost
  | deviceStart
  | deviceParameters
  | deviceMore
  | swallowing
  | title
  deriving DecidableEq, Repr

namespace Place

/-- The place after an escape and one more byte. -/
def afterEscape (byte : UInt8) : Place :=
  if byte < 0x20 then .escape
  else if byte < 0x30 then .escapeMore
  else if byte = 0x50 then .deviceStart
  else if byte = 0x58 ∨ byte = 0x5E ∨ byte = 0x5F then .swallowing
  else if byte = 0x5B then .sequence
  else if byte = 0x5D then .title
  else if byte < 0x7F then .ground
  else .escape

/-- The place after a byte of a sequence that ends at `final` bytes, given where the bytes below
them lead. -/
def within (place : Place) (byte : UInt8) (ended middle parameter : Place) : Place :=
  if byte < 0x20 ∨ 0x7F ≤ byte then place
  else if 0x40 ≤ byte then ended
  else if byte < 0x30 then middle
  else parameter

/-- The place after one more byte. Escape and the two cancelling controls act everywhere. -/
def next (place : Place) (byte : UInt8) : Place :=
  if byte = 0x1B then .escape
  else if byte = 0x18 ∨ byte = 0x1A then .ground
  else match place with
    | .ground => .ground
    | .escape => afterEscape byte
    | .escapeMore => if 0x30 ≤ byte ∧ byte < 0x7F then .ground else .escapeMore
    | .sequence => place.within byte .ground .sequenceMore .parameters
    | .parameters =>
      place.within byte .ground .sequenceMore (if byte < 0x3C then .parameters else .sequenceLost)
    | .sequenceMore => place.within byte .ground .sequenceMore .sequenceLost
    | .sequenceLost => place.within byte .ground .sequenceLost .sequenceLost
    | .deviceStart => place.within byte .swallowing .deviceMore .deviceParameters
    | .deviceParameters =>
      place.within byte .swallowing .deviceMore
        (if byte < 0x3C then .deviceParameters else .swallowing)
    | .deviceMore => place.within byte .swallowing .deviceMore .swallowing
    | .swallowing => if byte = 0x9C then .ground else .swallowing
    | .title => if byte = 0x07 then .ground else .title

/-- A tab, a line feed, a form feed or a carriage return. -/
def isSpacing (byte : UInt8) : Bool := byte = 0x09 || byte = 0x0A || byte = 0x0C || byte = 0x0D

/-- Whether a byte is kept at a place: text in plain text, spacing also in a sequence. -/
def keeps (place : Place) (byte : UInt8) : Bool :=
  match place with
  | .ground => isSpacing byte || (0x20 ≤ byte && byte < 0x7F) || (0xC2 ≤ byte && byte ≤ 0xF4)
  | .escape | .escapeMore | .sequence | .parameters | .sequenceMore | .sequenceLost =>
    isSpacing byte
  | _ => false

end Place

/-- How many bytes of a character follow its first one. -/
def followers (byte : UInt8) : Nat :=
  if byte < 0xC2 then 0 else if byte < 0xE0 then 1 else if byte < 0xF0 then 2 else 3

/-- The bytes kept of `bytes`, at a place, right after a kept byte or not, with `owed` bytes of a
character to come. -/
def bareFrom (place : Place) (kept : Bool) (owed : Nat) : Bytes → Bytes
  | [] => []
  | byte :: rest =>
    if owed = 0 then
      if kept && Place.ground.keeps byte || place.keeps byte then
        byte :: bareFrom (if byte < 0x80 then place else .ground) true (followers byte) rest
      else bareFrom (place.next byte) false 0 rest
    else byte :: bareFrom place true (owed - 1) rest

/-- A text without its terminal sequences and controls. -/
def bare (text : String) : String := Bytes.display (bareFrom .ground false 0 (Bytes.ofString text))

end LineShell.Text
