import LineShell.Text.Utf8

/-!
Names as utilities show them in complaints: in single quotes, with bytes that cannot be shown
written as escapes outside of them, so that a script could read the name back.
-/
namespace LineShell.Host.Quote

abbrev single : UInt8 := 0x27
abbrev double : UInt8 := 0x22

def isPrintable (b : UInt8) : Bool := 0x20 ≤ b && b < 0x7F

/-- Controls that are escaped by a letter. -/
def letters : List (UInt8 × UInt8) :=
  [(0x07, 0x61), (0x08, 0x62), (0x09, 0x74), (0x0A, 0x6E), (0x0B, 0x76), (0x0C, 0x66), (0x0D, 0x72)]

/-- The escape of a byte that cannot be shown: a letter, or three octal digits. -/
def escape (b : UInt8) : Bytes :=
  match letters.lookup b with
  | some letter => [0x5C, letter]
  | none => [0x5C, 0x30 + b / 64, 0x30 + b / 8 % 8, 0x30 + b % 8]

/-- The rest of a quoted name; `escaping` says that an escape has just been written. -/
def body (escaping : Bool) : Bytes → Bytes
  | [] => []
  | b :: rest =>
    if !isPrintable b then
      (if escaping then [] else [single, 0x24, single]) ++ escape b ++ body true rest
    else if b = single then [single, 0x5C, single, single] ++ body false rest
    else (if escaping then [single, single] else []) ++ b :: body false rest

/-- Bytes that mean the same between double quotes, wherever they stand. -/
def isPlain (b : UInt8) : Bool :=
  isPrintable b && !(Bytes.ofString "!\"#$&()*;<=>?[\\^\x60\x7b|\x7d~").contains b

/-- A byte at the beginning of a name, or one that is a name by itself, may mean something that it
does not mean elsewhere. -/
def isDoubleSafe (name : Bytes) : Bool :=
  match name with
  | [] => true
  | b :: rest =>
    (isPlain b || b == 0x23 || b == 0x7E || (rest.isEmpty && (b == 0x7B || b == 0x7D))) &&
      rest.all isPlain

/-- A name in quotes. -/
def always (name : Bytes) : Bytes :=
  if name.contains single && isDoubleSafe name then double :: name ++ [double]
  else single :: body false name ++ [single]

/-- Bytes that need quotes in a name that is shown at the beginning of a complaint. -/
def isSpecial (b : UInt8) : Bool :=
  !isPrintable b || (Bytes.ofString " !\"$&'()*:;<=>?[\\^\x60|").contains b

/-- A name in quotes only if it needs them. -/
def ifNeeded (name : Bytes) : Bytes :=
  let first := name.head?.any fun b =>
    b == 0x23 || b == 0x7E || (name.length == 1 && (b == 0x7B || b == 0x7D))
  if name = [] || first || name.any isSpecial then always name else name

/-- A text in quotes, with escapes for what cannot be shown or would end it. -/
def escaped (text : Bytes) : Bytes :=
  let shown (b : UInt8) :=
    if b = single ∨ b = 0x5C then [0x5C, b] else if isPrintable b then [b] else escape b
  single :: text.flatMap shown ++ [single]

end LineShell.Host.Quote
