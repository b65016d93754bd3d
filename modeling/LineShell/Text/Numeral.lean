import LineShell.Text.Utf8

/-!
Decimal numerals as settings and exit codes are written: an optional sign, then one or more ASCII
digits with any number of leading zeros.
-/
namespace LineShell.Text

/-- The value of a digit string, given the value of the digits before it. -/
def digitsValue (value : Nat) (digits : Text) : Nat :=
  digits.foldl (fun value digit => 10 * value + (digit.toNat - '0'.toNat)) value

/-- The number that one or more digits denote. -/
def digits? (text : Text) : Option Nat :=
  if text.isEmpty || !text.all Char.isDigit then none else some (digitsValue 0 text)

/-- The number below `bound` that a numeral with an optional plus sign denotes. -/
def natural? (bound : Nat) (text : Text) : Option Nat :=
  let digits := match text with
    | '+' :: rest => rest
    | _ => text
  (digits? digits).filter (· < bound)

/-- The integer from `-bound` to `bound - 1` that a numeral with an optional sign denotes. -/
def integer? (bound : Nat) (text : Text) : Option Int :=
  let value := match text with
    | '-' :: rest => (digits? rest).map fun n => -(n : Int)
    | '+' :: rest => (digits? rest).map fun n => (n : Int)
    | _ => (digits? text).map fun n => (n : Int)
  value.filter fun n => -(bound : Int) ≤ n && n < bound

end LineShell.Text
