import LineShell.Input.Supply

/-!
What a terminal makes of the keys pressed at it before it hands over whole lines. A carriage
return counts as a line feed; some keys change the line that is being typed, and nothing of it is
handed over before its end. The line is a line of bytes.
-/
namespace LineShell.Terminal

/-- What has been typed: the items that may be handed over and the unfinished line, the latest
first. -/
structure Typing where
  done : List (Option UInt8) := []
  line : Bytes := []
  /-- The next key stands for itself. -/
  literal : Bool := false

/-- So many bytes of a line are kept, and one more until another key is pressed. -/
def lineRoom : Nat := 4095

/-- A letter, a digit or an underscore, of the letters of Western Europe. -/
def isWordByte (key : UInt8) : Bool :=
  (0x30 ≤ key && key ≤ 0x39) || (0x41 ≤ key && key ≤ 0x5A) || (0x61 ≤ key && key ≤ 0x7A) ||
    key == 0x5F || (0xC0 ≤ key && key != 0xD7 && key != 0xF7)

namespace Typing

/-- The line without the byte that it has no room for. -/
def fit (line : Bytes) : Bytes := if line.length ≤ lineRoom then line else line.tail

def put (typing : Typing) (key : UInt8) : Typing :=
  { typing with line := key :: fit typing.line, literal := false }

/-- Passes the line on, with an item after it. -/
def pass (typing : Typing) (item : Option UInt8) : Typing :=
  { done := item :: ((fit typing.line).map some ++ typing.done) }

/-- The line without its last word. -/
def withoutWord (line : Bytes) : Bytes := (line.dropWhile (!isWordByte ·)).dropWhile isWordByte

/-- One key. The keys that interrupt take away all that has not been read, and those that stop and
start the output do nothing to the input. -/
def press (typing : Typing) (key : UInt8) : Typing :=
  if typing.literal then typing.put key
  else match key with
    | 0x0A | 0x0D => typing.pass (some Text.lineFeed)
    | 0x04 => typing.pass none
    | 0x7F => { typing with line := (fit typing.line).tail }
    | 0x15 => { typing with line := [] }
    | 0x17 => { typing with line := withoutWord (fit typing.line) }
    | 0x16 => { typing with literal := true }
    | 0x11 | 0x13 => typing
    | 0x03 | 0x1A | 0x1C => {}
    | _ => typing.put key

end Typing

/-- What the keys leave to be read. -/
def supply (keys : Bytes) : Supply :=
  { items := (keys.foldl Typing.press {}).done.reverse, byLine := true }

end LineShell.Terminal
