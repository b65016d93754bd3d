import LineShell.Text.Range
import LineShell.Text.Utf8

/-!
Blank characters (the Unicode property `White_Space`) and trimming.
-/
namespace LineShell.Text

/-- The Unicode white space characters. -/
def blankRanges : List Range :=
  [(0x9, 0xD), (0x20, 0x20), (0x85, 0x85), (0xA0, 0xA0), (0x1680, 0x1680), (0x2000, 0x200A),
    (0x2028, 0x2029), (0x202F, 0x202F), (0x205F, 0x205F), (0x3000, 0x3000)]

/-- The character is white space. -/
def isBlank (c : Char) : Bool := inRanges blankRanges c.toNat

/-- The text without the blanks it begins with. -/
def trimLeft (text : Text) : Text := text.dropWhile isBlank

/-- The text without the blanks it ends with. -/
def trimRight (text : Text) : Text := (text.reverse.dropWhile isBlank).reverse

/-- The text without the blanks around it. -/
def trim (text : Text) : Text := trimRight (trimLeft text)

end LineShell.Text
