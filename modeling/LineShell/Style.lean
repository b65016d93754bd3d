/-!
Coloured text for terminals. With colours switched off, the codes for colours are left empty while
bold face stays.
-/
namespace LineShell

inductive Colour where
  | grey
  | red
  | green
  | blue
  | cyan
  deriving DecidableEq, Repr

namespace Colour

/-- The number of a colour in the palette. -/
def number : Colour → Nat
  | .grey => 8
  | .red => 9
  | .green => 10
  | .blue => 12
  | .cyan => 14

/-- An escape sequence for the face of letters. -/
def escape (code : String) : String := "\x1b[" ++ code ++ "m"

/-- The sequence that begins a colour. -/
def start (colours : Bool) (colour : Colour) : String :=
  escape (if colours then "38;5;" ++ colour.number.repr else "")

/-- The text in a colour. -/
def paint (colours : Bool) (colour : Colour) (text : String) : String :=
  colour.start colours ++ text ++ escape (if colours then "39" else "")

/-- The text in a colour and bold. -/
def paintBold (colours : Bool) (colour : Colour) (text : String) : String :=
  colour.start colours ++ escape "1" ++ text ++ escape "0"

end Colour

end LineShell
