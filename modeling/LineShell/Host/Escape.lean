import LineShell.Host.Numeral

/-!
Backslash escapes of the printing utilities. Each utility has its own idea of which there are.
-/
namespace LineShell.Host.Escape

/-- Which escapes there are beside the letters that all know. -/
structure Style where
  /-- A `c` ends the printing. -/
  stops : Bool := true
  /-- A double quote may be escaped. -/
  quotes : Bool := false
  /-- A zero may stand before the three octal digits. -/
  leadingZero : Bool := false
  /-- Two hexadecimal digits may follow an `x`. -/
  hexadecimal : Bool := false
  /-- Four and eight of them may follow a `u`, and digits that are missing are a mistake. -/
  strict : Bool := false

/-- What an escape stands for. -/
inductive Meaning where
  | bytes (bytes : Bytes)
  /-- Nothing more is printed. -/
  | stop
  | mistake (text : String)
  deriving DecidableEq, Repr

/-- The letters that may follow a backslash, and what they stand for. -/
def letters : List (UInt8 × UInt8) :=
  [(0x61, 0x07), (0x62, 0x08), (0x65, 0x1B), (0x66, 0x0C), (0x6E, 0x0A), (0x72, 0x0D), (0x74, 0x09),
    (0x76, 0x0B), (0x5C, 0x5C)]

abbrev backslash : UInt8 := 0x5C

/-- The value of some digits, as a byte. -/
def byteOf (base : Nat) (digits : Bytes) : UInt8 := UInt8.ofNat (Numeral.value base digits)

/-- A character given by its number, where only ASCII can be shown. The numbers that are no
characters but halves of others are a mistake. -/
def character (letter : UInt8) (digits : Bytes) : Meaning :=
  let value := Numeral.value 16 digits
  let written := Bytes.ofString (String.ofList ((Utf8.lossy digits).map Char.toUpper))
  if value < 0x80 then .bytes [UInt8.ofNat value]
  else if 0xD800 ≤ value ∧ value ≤ 0xDFFF then
    .mistake ("invalid universal character name \\" ++ Bytes.display (letter :: digits))
  else if value < 0x10000 then .bytes (backslash :: 0x75 :: written.drop (written.length - 4))
  else .bytes (backslash :: letter :: written)

/-- What an escape stands for and what follows it, given the bytes after the backslash. -/
def read (style : Style) : Bytes → Meaning × Bytes
  | [] => (.bytes [backslash], [])
  | c :: rest =>
    let octal (digits : Bytes) := (digits.take 3).takeWhile Numeral.isOctal
    if style.stops && c = 0x63 then (.stop, rest)
    else match letters.lookup c with
      | some b => (.bytes [b], rest)
      | none =>
        if style.quotes && c = 0x22 then (.bytes [c], rest)
        else if style.leadingZero && c = 0x30 then
          (.bytes [byteOf 8 (octal rest)], rest.drop (octal rest).length)
        else if Numeral.isOctal c then
          (.bytes [byteOf 8 (octal (c :: rest))], (c :: rest).drop (octal (c :: rest)).length)
        else
          let wanted := match c with
            | 0x78 => if style.hexadecimal then 2 else 0
            | 0x75 => if style.strict then 4 else 0
            | 0x55 => if style.strict then 8 else 0
            | _ => 0
          let digits := (rest.take wanted).takeWhile Numeral.isHexadecimal
          if wanted = 0 then (.bytes [backslash, c], rest)
          else if style.strict && (digits = [] || (c ≠ 0x78 && digits.length < wanted)) then
            (.mistake "missing hexadecimal number in escape", rest)
          else if digits = [] then (.bytes [backslash, c], rest)
          else if c = 0x78 then (.bytes [byteOf 16 digits], rest.drop digits.length)
          else (character c digits, rest.drop digits.length)

theorem length_read_le (style : Style) (bytes : Bytes) :
    (read style bytes).2.length ≤ bytes.length := by
  unfold read
  split
  · simp
  · dsimp only
    repeat' split
    all_goals simp
    all_goals omega

/-- The bytes that a text with escapes stands for, and what ended it early. -/
def expand (style : Style) : Bytes → Bytes × Option Meaning
  | [] => ([], none)
  | b :: rest =>
    if b = backslash then
      match (read style rest).1 with
      | .bytes bytes =>
        have := length_read_le style rest
        let (others, ending) := expand style (read style rest).2
        (bytes ++ others, ending)
      | ending => ([], some ending)
    else
      let (others, ending) := expand style rest
      (b :: others, ending)
termination_by bytes => bytes.length

end LineShell.Host.Escape
