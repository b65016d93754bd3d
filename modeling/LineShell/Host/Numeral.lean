import LineShell.Text.Utf8

/-!
Numerals as programs read them: blanks, a sign, and digits of which the first tell the base.
-/
namespace LineShell.Host.Numeral

def isDigit (b : UInt8) : Bool := 0x30 ≤ b && b ≤ 0x39

def isBinary (b : UInt8) : Bool := b == 0x30 || b == 0x31

def isOctal (b : UInt8) : Bool := 0x30 ≤ b && b ≤ 0x37

def isHexadecimal (b : UInt8) : Bool :=
  isDigit b || (0x41 ≤ b && b ≤ 0x46) || (0x61 ≤ b && b ≤ 0x66)

/-- A space, or one of the controls that move on. -/
def isBlank (b : UInt8) : Bool := b == 0x20 || (0x09 ≤ b && b ≤ 0x0D)

def digitValue (b : UInt8) : Nat :=
  if isDigit b then b.toNat - 0x30 else if b < 0x61 then b.toNat - 0x37 else b.toNat - 0x57

/-- The number that digits denote. -/
def value (base : Nat) (digits : Bytes) : Nat :=
  digits.foldl (fun number digit => number * base + digitValue digit) 0

/-- The digits of a number. -/
def digits (base : Nat) (number : Nat) : Bytes :=
  Bytes.ofString (String.ofList (Nat.toDigits base number))

def ofInt (number : Int) : Bytes := Bytes.ofString (toString number)

/-- A number without its sign and what follows it; nothing if there are no digits. A zero asks for
base eight, `0x` for base sixteen and `0b` for base two. -/
def magnitude? (bytes : Bytes) : Option (Nat × Bytes) :=
  let of (base : Nat) (isOfBase : UInt8 → Bool) (bytes : Bytes) :=
    (value base (bytes.takeWhile isOfBase), bytes.dropWhile isOfBase)
  match bytes with
  | 0x30 :: mark :: first :: rest =>
    if (mark = 0x78 ∨ mark = 0x58) ∧ isHexadecimal first then
      some (of 16 isHexadecimal (first :: rest))
    else if (mark = 0x62 ∨ mark = 0x42) ∧ isBinary first then some (of 2 isBinary (first :: rest))
    else some (of 8 isOctal bytes)
  | 0x30 :: _ => some (of 8 isOctal bytes)
  | first :: _ => if isDigit first then some (of 10 isDigit bytes) else none
  | [] => none

/-- A number and what follows it. -/
def read? (bytes : Bytes) : Option (Int × Bytes) :=
  match bytes.dropWhile isBlank with
  | 0x2D :: rest => (magnitude? rest).map fun (number, rest) => (-(number : Int), rest)
  | 0x2B :: rest => (magnitude? rest).map fun (number, rest) => ((number : Int), rest)
  | rest => (magnitude? rest).map fun (number, rest) => ((number : Int), rest)

/-- Words of 64 bits. -/
def wordRange : Int := 0x10000000000000000

def highest : Int := 0x7FFFFFFFFFFFFFFF

def lowest : Int := -0x8000000000000000

/-- The signed word that a number wraps to. -/
def wrapped (number : Int) : Int := (number - lowest) % wordRange + lowest

end LineShell.Host.Numeral
