import LineShell.Host.Escape
import LineShell.Host.Quote

/-!
Formats of the printing utilities. A format is text with conversions, each of which takes an
argument; it is used again as long as arguments are left. Two utilities share the rules and differ
in what they complain of.
-/
namespace LineShell.Host.Format

/-- Whose formats these are: those of scripts, or those of the utility of its own. -/
inductive Dialect where
  | script
  | utility
  deriving DecidableEq, Repr

/-- What has been printed so far. -/
structure Progress where
  bytes : Bytes := []
  arguments : List Bytes
  complaints : List (List Bytes) := []
  status : Nat := 0
  /-- Something could not be printed. -/
  spoiled : Bool := false

/-- How printing ends before the end of the format. -/
inductive Stop where
  | silent
  | fatal (complaint : List Bytes)

abbrev Printing := ExceptT Stop (StateM Progress)

def ofString (s : String) : Bytes := Bytes.ofString s

def put (bytes : Bytes) : Printing Unit :=
  modify fun progress => { progress with bytes := progress.bytes ++ bytes }

def complain (status : Nat) (complaint : List Bytes) : Printing Unit :=
  modify fun progress => { progress with
    complaints := progress.complaints ++ [complaint]
    status := max status progress.status }

/-- The next argument, if any is left. -/
def next? : Printing (Option Bytes) := do
  let progress ← get
  set { progress with arguments := progress.arguments.tail }
  return progress.arguments.head?

/-- The number an argument denotes, as a signed or an unsigned word. A quote stands before a
character that is meant by its number. -/
def Dialect.number (dialect : Dialect) (signed : Bool) (argument : Bytes) : Printing Int := do
  let complain (text : String) := match dialect with
    | .script => complain 1 [argument, ofString (": " ++ text)]
    | .utility => complain 1 [Quote.escaped argument, ofString (": " ++ text)]
  match dialect, argument with
  | .script, 0x27 :: rest | .script, 0x22 :: rest => return (rest.headD 0).toNat
  | .utility, 0x27 :: b :: rest | .utility, 0x22 :: b :: rest =>
    if rest ≠ [] then
      Format.complain 0 [ofString "warning: ", rest,
        ofString ": character(s) following character constant have been ignored"]
    return b.toNat
  | _, _ =>
    let (low, high) := if signed then (Numeral.lowest, Numeral.highest)
      else (1 - Numeral.wordRange, Numeral.wordRange - 1)
    match Numeral.read? argument with
    | none =>
      if argument ≠ [] then
        complain (if dialect = .script then "expected numeric value"
          else "expected a numeric value")
      return 0
    | some (value, rest) =>
      let fits := low ≤ value && value ≤ high
      if rest ≠ [] && (fits || dialect = .script) then
        complain (if dialect = .script then "not completely converted"
          else "value not completely converted")
      else if !fits then complain "Numerical result out of range"
      if signed then return max low (min high value)
      else if fits then return value % Numeral.wordRange
      else return high

/-- How a conversion is laid out. -/
structure Layout where
  flags : Bytes := []
  width : Nat := 0
  precision : Option Nat := none

namespace Layout

def has (layout : Layout) (flag : Char) : Bool := layout.flags.any (·.toNat == flag.toNat)

/-- Fills a conversion up to its width; `lead` stands before the zeros. -/
def fill (layout : Layout) (zeros : Bool) (lead bytes : Bytes) : Bytes :=
  let missing := layout.width - (lead.length + bytes.length)
  if layout.has '-' then lead ++ bytes ++ List.replicate missing 0x20
  else if zeros && layout.has '0' then lead ++ List.replicate missing 0x30 ++ bytes
  else List.replicate missing 0x20 ++ lead ++ bytes

def text (layout : Layout) (bytes : Bytes) : Bytes :=
  layout.fill false [] (match layout.precision with
    | some count => bytes.take count
    | none => bytes)

/-- Digits, of which there are at least as many as the precision asks for. -/
def digits (layout : Layout) (base number : Nat) : Bytes :=
  let shown := if number = 0 ∧ layout.precision = some 0 then [] else Numeral.digits base number
  List.replicate (layout.precision.getD 0 - shown.length) 0x30 ++ shown

def signed (layout : Layout) (number : Int) : Bytes :=
  let sign := if number < 0 then [0x2D] else if layout.has '+' then [0x2B]
    else if layout.has ' ' then [0x20] else []
  layout.fill layout.precision.isNone sign (layout.digits 10 number.natAbs)

/-- A number without a sign; the flag `#` shows the base. -/
def unsigned (layout : Layout) (letter : UInt8) (number : Nat) : Bytes :=
  let base := if letter = 0x6F then 8 else if letter = 0x75 then 10 else 16
  let digits := layout.digits base number
  let marked := layout.has '#'
  let digits := if marked && letter = 0x6F && digits.head? ≠ some 0x30 then 0x30 :: digits
    else digits
  let lead := if marked && base = 16 && number ≠ 0 then ofString "0x" else []
  let shown := layout.fill layout.precision.isNone lead digits
  if letter = 0x58 then shown.map fun b => if 0x61 ≤ b ∧ b ≤ 0x7A then b - 0x20 else b else shown

end Layout

/-- Prints a text with escapes. -/
def putEscaped (style : Escape.Style) (shown : Bytes → Bytes) (text : Bytes) : Printing Unit := do
  let (bytes, ending) := Escape.expand style text
  put (shown bytes)
  match ending with
  | some (.mistake text) => throw (.fatal [ofString text])
  | some _ => throw .silent
  | none => pure ()

/-- The escapes in a format and in an argument. -/
def Dialect.escapes : Dialect → Bool → Escape.Style
  | .script, inFormat => { stops := !inFormat, leadingZero := !inFormat }
  | .utility, inFormat =>
    { quotes := true, leadingZero := !inFormat, hexadecimal := true, strict := true }

/-- A star in a layout stands for the next argument. A script takes the lower half of the word, and
the utility no number that is wider than that. -/
def Dialect.starred (dialect : Dialect) (title : String) : Printing Int := do
  let some argument ← next? | return 0
  let number ← dialect.number true argument
  let half := number.bmod 0x100000000
  if dialect = .script ∨ number = half then return half
  else if title = "precision" ∧ number < 0 then return -1
  else throw (.fatal [ofString ("invalid " ++ title ++ ": "), Quote.escaped argument])

def isFlag (b : UInt8) : Bool := (ofString "-+ #0").contains b

def decimal (digits : Bytes) : Nat := Numeral.value 10 digits

/-- The layout of a conversion, and what follows it. -/
def Dialect.layout (dialect : Dialect) (format : Bytes) : Printing (Layout × Bytes) := do
  let flags := format.takeWhile fun b => isFlag b || (dialect = .utility && (b = 0x27 || b = 0x49))
  let rest := format.drop flags.length
  let (width, rest) ← match rest with
    | 0x2A :: rest => do pure (← dialect.starred "field width", rest)
    | _ =>
      let digits := rest.takeWhile Numeral.isDigit
      pure ((decimal digits : Int), rest.drop digits.length)
  let (precision, rest) ← match rest with
    | 0x2E :: 0x2A :: rest => do pure (some (← dialect.starred "precision"), rest)
    | 0x2E :: rest =>
      let digits := rest.takeWhile Numeral.isDigit
      pure (some (decimal digits : Int), rest.drop digits.length)
    | _ => pure (none, rest)
  let rest := if dialect = .utility then rest.dropWhile (ofString "lLhjtz").contains else rest
  let layout := {
    flags := if width < 0 then 0x2D :: flags else flags
    width := width.natAbs
    precision := (precision.filter (0 ≤ ·)).map Int.toNat }
  return (layout, rest)

/-- Whether a conversion may have such a layout. -/
def Dialect.allows (dialect : Dialect) (layout : Layout) (letter : UInt8) : Bool :=
  let among (letters : String) := (ofString letters).contains letter
  match dialect with
  | .script => among "bcsdiouxX"
  | .utility =>
    among "csdiouxX" &&
      !(layout.has '#' && among "csdiu") && !(layout.has '0' && among "cs") &&
      !((layout.has '\'' || layout.has 'I') && among "csoxX") &&
      !(layout.precision.isSome && among "c")

/-- The widest conversion that can be carried out. -/
def Dialect.widest : Dialect → Nat
  | .script => 0x7FFFFFFF
  | .utility => 0x7FFFFFFD

/-- Prints an argument in a layout that can be carried out. -/
def Dialect.place (dialect : Dialect) (layout : Layout) (letter : UInt8) (argument : Bytes) :
    Printing Unit := do
  match Char.ofNat letter.toNat with
  | 's' => put (layout.text argument)
  | 'b' => putEscaped (dialect.escapes false) layout.text argument
  | 'c' => put (layout.fill false [] [argument.headD 0])
  | 'd' | 'i' => put (layout.signed (← dialect.number true argument))
  | _ => put (layout.unsigned letter (← dialect.number false argument).toNat)

/-- Carries out a conversion, given what follows the percent sign, and gives what follows it. -/
def Dialect.convert (dialect : Dialect) (format : Bytes) : Printing Bytes := do
  match dialect, format with
  | .utility, 0x62 :: rest =>
    putEscaped (dialect.escapes false) id ((← next?).getD [])
    return rest
  | .utility, 0x71 :: rest =>
    match ← next? with
    | some argument => put (Quote.ifNeeded argument)
    | none => pure ()
    return rest
  | _, _ =>
    let (layout, rest) ← dialect.layout format
    let written (count : Nat) := 0x25 :: format.take (format.length - rest.length + count)
    match dialect, rest with
    | .script, [] => throw (.fatal [ofString "missing format character"])
    | .utility, [] => throw (.fatal [written 0, ofString ": invalid conversion specification"])
    | _, letter :: rest =>
      if !dialect.allows layout letter then
        throw (.fatal [written 1, ofString (if dialect = .script then ": invalid directive"
          else ": invalid conversion specification")])
      let argument := (← next?).getD []
      if dialect.widest < max layout.width (layout.precision.getD 0) then
        if dialect = .script then throw (.fatal [ofString "xvsnprintf failed"])
        modify fun progress => { progress with spoiled := true }
      else dialect.place layout letter argument
      return rest

/-- Prints the format once. The fuel bounds its length. -/
def Dialect.pass (dialect : Dialect) : Nat → Bytes → Printing Unit
  | 0, _ | _, [] => pure ()
  | fuel + 1, 0x25 :: 0x25 :: rest => do
    put [0x25]
    dialect.pass fuel rest
  | fuel + 1, 0x25 :: rest => do dialect.pass fuel (← dialect.convert rest)
  | fuel + 1, 0x5C :: rest => do
    match Escape.read (dialect.escapes true) rest with
    | (.bytes bytes, rest) =>
      put bytes
      dialect.pass fuel rest
    | (.stop, _) => throw .silent
    | (.mistake text, _) => throw (.fatal [ofString text])
  | fuel + 1, b :: rest => do
    put [b]
    dialect.pass fuel rest

/-- Prints the format as often as there are arguments for it. -/
def Dialect.passes (dialect : Dialect) (format : Bytes) : Nat → Printing Unit
  | 0 => pure ()
  | fuel + 1 => do
    let before := (← get).arguments
    dialect.pass (format.length + 1) format
    let after := (← get).arguments
    if after ≠ [] ∧ after.length < before.length then dialect.passes format fuel
    else match dialect, after with
      | .utility, argument :: _ =>
        complain 0 [ofString "warning: ignoring excess arguments, starting with ",
          Quote.escaped argument]
      | _, _ => pure ()

/-- What has been printed once printing has ended. -/
def Dialect.finish (dialect : Dialect) : Except Stop Unit → Progress → Progress
  | .ok (), progress => progress
  | .error .silent, progress =>
    if dialect = .utility then { progress with status := 0 } else progress
  | .error (.fatal complaint), progress =>
    { progress with
      complaints := progress.complaints ++ [complaint]
      status := if dialect = .script then 2 else 1 }

/-- Prints arguments in a format. -/
def Dialect.print (dialect : Dialect) (format : Bytes) (arguments : List Bytes) : Progress :=
  let (ending, progress) := (dialect.passes format (arguments.length + 1)).run { arguments }
  let progress := dialect.finish ending progress
  if progress.spoiled then
    { progress with complaints := progress.complaints ++ [[ofString "write error"]], status := 1 }
  else progress

end LineShell.Host.Format
