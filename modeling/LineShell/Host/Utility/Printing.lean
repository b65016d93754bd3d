import LineShell.Host.Condition.Utility
import LineShell.Host.Format
import LineShell.Host.Utility.Basic

/-!
Utilities that print something, decide something or wait.
-/
namespace LineShell.Host.Utility

/-- Whether an argument is made of the letters that switch the printing of lines. -/
def isEchoSwitch : Bytes → Bool
  | 0x2D :: letter :: letters => (letter :: letters).all (ofString "neE").contains
  | _ => false

/-- Prints its arguments as they stand, or with their escapes. -/
def echo : Utility := fun process => do
  let letters := (process.arguments.takeWhile isEchoSwitch).flatten
  let line := spaced (process.arguments.dropWhile isEchoSwitch)
  let ending : Bytes := if letters.contains 0x6E then [] else [0x0A]
  if (letters.filter (ofString "eE").contains).getLast? = some 0x65 then
    match Escape.expand { leadingZero := true, hexadecimal := true } line with
    | (bytes, none) => process.put (bytes ++ ending)
    | (bytes, some _) => process.put bytes
  else process.put (line ++ ending)
  return 0

def printf : Utility := fun process => do
  let arguments := match process.arguments with
    | [0x2D, 0x2D] :: rest => rest
    | arguments => arguments
  match arguments with
  | [] =>
    complain process [ofString "missing operand"]
    advise process
    return 1
  | format :: arguments =>
    let progress := Format.Dialect.utility.print format arguments
    progress.complaints.forM (complain process)
    process.put progress.bytes
    return progress.status

/-- The working directory by the name that the environment has for it, if that is right. -/
def knownDirectory? (process : Process) : Act (Option Bytes) := do
  let files := (← get).files
  let names := Text.pieces (· == Path.slash)
  let isHere (path : Bytes) : Bool :=
    (files.find process.directory path).toOption == some process.directory
  return (process.environment.get? (ofString "PWD")).filter fun path =>
    Path.isAbsolute path && isHere path &&
      !(names path).any fun name => name == [Path.dot] || name == [Path.dot, Path.dot]

def workingDirectory : Utility := fun process =>
  withSwitches process [⟨'L', "logical", .nothing⟩, ⟨'P', "physical", .nothing⟩] 1
    fun switches => do
      if switches.operands ≠ [] then
        complain process [ofString "ignoring non-option arguments"]
      let standard := (process.environment.get? (ofString "POSIXLY_CORRECT")).isSome
      let last := switches.given.getLast?.map (·.1.word)
      let known ← if last = some "logical" ∨ (last = none ∧ standard) then
          knownDirectory? process
        else pure none
      match known.or (← process.look Files.pathOf) with
      | some path =>
        process.put (path ++ [0x0A])
        return 0
      | none =>
        complain process [ofString "couldn't find directory entry in '..' with matching i-node"]
        return 1

/-- The descriptors of a process that lead to a terminal. -/
def terminals (process : Process) : Act (List Nat) := do
  let machine ← get
  return (process.descriptors.filter fun (_, number) =>
    match machine.openings[number]? with
    | some .input => machine.supply.byLine
    | _ => false).map (·.1)

/-- Decides a condition; by its other name its last argument is a closing bracket. -/
def test (bracketed : Bool) : Utility := fun process => do
  let scene : Condition.Scene := ⟨(← get).files, process.directory, ← terminals process⟩
  let answer : Condition.Answer Bool :=
    if bracketed then
      if process.arguments.getLast? = some (ofString "]") then
        Condition.Utility.holds scene process.arguments.dropLast
      else .error [ofString "missing ']'"]
    else Condition.Utility.holds scene process.arguments
  match answer with
  | .ok holds => return if holds then 0 else 1
  | .error parts =>
    complain process parts
    return 2

/-- Whether bytes are digits of a base, with a point among them, and an exponent behind a mark. -/
def isMeasure (isOfBase : UInt8 → Bool) (marks : String) (bytes : Bytes) : Bool :=
  let (whole, rest) := (bytes.takeWhile isOfBase, bytes.dropWhile isOfBase)
  let (part, rest) := match rest with
    | 0x2E :: rest => (rest.takeWhile isOfBase, rest.dropWhile isOfBase)
    | rest => ([], rest)
  let isExponent : Bool := match rest with
    | [] => true
    | mark :: 0x2D :: digits | mark :: 0x2B :: digits | mark :: digits =>
      (ofString marks).contains mark && digits != [] && digits.all Numeral.isDigit
  (whole ≠ [] || part ≠ []) && isExponent

/-- A time is a number, perhaps with a point and an exponent, and a letter for its unit. -/
def isInterval (argument : Bytes) : Bool :=
  let bare := (if argument.getLast?.any (ofString "smhd").contains then argument.dropLast
    else argument).dropWhile Numeral.isBlank
  let measure := if bare.head?.any (ofString "+-").contains then bare.tail else bare
  let isZero := measure.all fun b => b == 0x30 || b == 0x2E
  (bare.head? ≠ some 0x2D || isZero) && match measure with
    | 0x30 :: 0x78 :: digits | 0x30 :: 0x58 :: digits =>
      isMeasure Numeral.isHexadecimal "pP" digits
    | digits => isMeasure Numeral.isDigit "eE" digits

/-- Waits. Time does not matter here, so that only mistakes are seen. -/
def sleep : Utility := fun process =>
  withSwitches process [] 1 fun switches => do
    let code ← forEach process "missing operand" switches.operands fun argument =>
      return if isInterval argument then .ok ()
        else .error [ofString "invalid time interval ", Quote.escaped argument]
    if code ≠ 0 ∧ switches.operands ≠ [] then advise process
    return code

/-- A decimal number as a whole number of its last places, and how many places it has. -/
def decimal? (argument : Bytes) : Option (Int × Nat) :=
  let bare := argument.dropWhile Numeral.isBlank
  let digits := if bare.head?.any (ofString "+-").contains then bare.tail else bare
  let whole := digits.takeWhile Numeral.isDigit
  let rest := digits.drop whole.length
  let part := if rest.head? = some 0x2E then rest.tail else []
  if (whole ≠ [] ∨ part ≠ []) ∧ (rest = [] ∨ rest.head? = some 0x2E) ∧
      part.all Numeral.isDigit then
    let value : Int := Numeral.value 10 (whole ++ part)
    some (if bare.head? = some 0x2D then -value else value, part.length)
  else none

/-- A number of last places as a decimal number. -/
def decimalText (places : Nat) (value : Int) : Bytes :=
  let digits := Numeral.digits 10 value.natAbs
  let digits := List.replicate (places + 1 - digits.length) 0x30 ++ digits
  let whole := digits.take (digits.length - places)
  (if value < 0 then [0x2D] else []) ++ whole ++
    if places = 0 then [] else 0x2E :: digits.drop whole.length

/-- The numbers from one to another. -/
def numbers (first step last : Int) : List Int :=
  let count := if step = 0 then 0 else ((last - first).fdiv step + 1).toNat
  (List.range count).map fun (n : Nat) => first + step * n

/-- Prints numbers from one to another. -/
def seq : Utility := fun process => do
  let isNumber : Bytes → Bool
    | 0x2D :: digit :: _ => Numeral.isDigit digit || digit == 0x2E
    | _ => false
  let front := process.arguments.takeWhile (!isNumber ·)
  let known := [⟨'w', "equal-width", .nothing⟩, ⟨'f', "format", .argument⟩,
    ⟨'s', "separator", .argument⟩]
  let arguments := if front.contains [0x2D, 0x2D] then process.arguments
    else front ++ [0x2D, 0x2D] :: process.arguments.drop front.length
  withSwitches { process with arguments } known 1 fun switches => do
    let misuse (parts : List Bytes) : Act Nat := do
      complain process parts
      advise process
      return 1
    let operands := switches.operands
    match operands.find? fun operand => (decimal? operand).isNone, operands with
    | _, [] => misuse [ofString "missing operand"]
    | _, _ :: _ :: _ :: extra :: _ => misuse [ofString "extra operand ", Quote.escaped extra]
    | some wrong, _ => misuse [ofString "invalid floating point argument: ", Quote.escaped wrong]
    | none, operands =>
      let values := operands.filterMap decimal?
      let places := (values.map (·.2)).foldl max 0
      let shownPlaces := (values.dropLast.map (·.2)).foldl max 0
      let scaled := values.map fun (value, own) => value * Int.pow 10 (places - own)
      let one := Int.pow 10 places
      let (first, step, last) := match scaled with
        | [last] => (one, one, last)
        | [first, last] => (first, one, last)
        | first :: step :: last :: _ => (first, step, last)
        | [] => (one, one, 0)
      if step = 0 then
        return ← misuse [ofString "invalid Zero increment value: ",
          Quote.escaped (operands.getD 1 [])]
      let shown := (numbers first step last).map fun value =>
        decimalText shownPlaces (value / Int.pow 10 (places - shownPlaces))
      let width := (shown.map List.length).foldl max 0
      let padded (text : Bytes) : Bytes :=
        let sign := text.takeWhile (· == 0x2D)
        sign ++ List.replicate (width - text.length) 0x30 ++ text.drop sign.length
      let shown := if switches.has "equal-width" then shown.map padded else shown
      let between := (switches.argument? "separator").getD [0x0A]
      if shown ≠ [] then process.put ((shown.intersperse between).flatten ++ [0x0A])
      return 0

/-- Says who the user is, or by what number or name the user or the group is known. -/
def id : Utility := fun process =>
  let known := [⟨'g', "group", .nothing⟩, ⟨'G', "groups", .nothing⟩, ⟨'n', "name", .nothing⟩,
    ⟨'r', "real", .nothing⟩, ⟨'u', "user", .nothing⟩, ⟨'a', "", .nothing⟩]
  withSwitches process known 1 fun switches => do
    let has := switches.hasLetter
    let refuse (parts : List Bytes) : Act Nat := do
      complain process parts
      return 1
    let wanted := [has 'g', has 'G', has 'u'].count true
    if 1 < wanted then
      return ← refuse [ofString "cannot print \"only\" of more than one choice"]
    if wanted = 0 ∧ (has 'n' ∨ has 'r') then
      return ← refuse [ofString "cannot print only names or real IDs in default format"]
    let text := if wanted = 0 then "uid=0(root) gid=0(root) groups=0(root)\n"
      else if has 'n' then "root\n" else "0\n"
    let operands := if switches.operands = [] then [ofString "root"] else switches.operands
    forEach process "" operands fun name => do
      if name = ofString "root" ∨ name = ofString "0" then
        process.put (ofString text)
        return .ok ()
      else return .error [Quote.escaped name, ofString ": no such user"]

/-- Says whether the input is a terminal. -/
def tty : Utility := fun process =>
  let known := [⟨'s', "silent", .nothing⟩, ⟨'s', "quiet", .nothing⟩]
  withSwitches process known 2 fun switches => do
    match switches.operands with
    | extra :: _ =>
      complain process [ofString "extra operand ", Quote.escaped extra]
      advise process
      return 2
    | [] =>
      let isTerminal := (← terminals process).contains 0
      if !switches.hasLetter 's' then
        process.put (ofString (if isTerminal then "/dev/pts/0\n" else "not a tty\n"))
      return if isTerminal then 0 else 1

/-- Prints the name of the user, who is the superuser. -/
def whoami : Utility := fun process =>
  withSwitches process [] 1 fun switches => do
    match switches.operands with
    | [] =>
      process.put (ofString "root\n")
      return 0
    | extra :: _ =>
      complain process [ofString "extra operand ", Quote.escaped extra]
      advise process
      return 1

end LineShell.Host.Utility
