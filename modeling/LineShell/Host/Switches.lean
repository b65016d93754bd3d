import LineShell.Text.Utf8

/-!
The switches of utilities. A switch has a letter or a word or both; letters may stand together
behind one dash, words stand behind two and may be cut short as long as they are clear.
-/
namespace LineShell.Host

inductive Switch.Takes where
  | nothing
  | argument
  /-- An argument that must be written without a gap. -/
  | optional
  deriving DecidableEq, Repr

structure Switch where
  letter : Option Char
  word : String
  takes : Switch.Takes := .nothing
  deriving DecidableEq, Repr

/-- The switches of an argument list with their arguments, and what is left of it. -/
structure Switches where
  given : List (Switch × Bytes)
  operands : List Bytes

namespace Switches

def has (switches : Switches) (word : String) : Bool :=
  switches.given.any (·.1.word == word)

def hasLetter (switches : Switches) (letter : Char) : Bool :=
  switches.given.any (·.1.letter == some letter)

/-- The two words that all utilities know. -/
def common : List Switch := [⟨none, "help", .nothing⟩, ⟨none, "version", .nothing⟩]

/-- The argument of a switch, the last one if it was given more than once. -/
def argument? (switches : Switches) (word : String) : Option Bytes :=
  (switches.given.reverse.find? (·.1.word == word)).map (·.2)

/-- The switches that letters stand for, and one whose argument has to follow. -/
def ofLetters (known : List Switch) :
    Bytes → Except (List Bytes) (List (Switch × Bytes) × Option Switch)
  | [] => .ok ([], none)
  | letter :: rest =>
    match known.find? fun switch => switch.letter.any (·.toNat == letter.toNat) with
    | none => .error [Bytes.ofString "invalid option -- '", [letter], Bytes.ofString "'"]
    | some switch =>
      match switch.takes, rest with
      | .nothing, _ => do
        let (others, waiting) ← ofLetters known rest
        return ((switch, []) :: others, waiting)
      | .argument, [] => .ok ([], some switch)
      | _, _ => .ok ([(switch, rest)], none)

/-- The switch that a word stands for, with an argument written behind an equals sign. -/
def ofWord (known : List Switch) (written : Bytes) :
    Except (List Bytes) (Switch × Option Bytes) :=
  let name := written.takeWhile (· != 0x3D)
  let argument := if name.length < written.length then some (written.drop (name.length + 1))
    else none
  let exact := known.filter fun switch => Bytes.ofString switch.word == name
  let begun := known.filter fun switch =>
    switch.word != "" && name.isPrefixOf (Bytes.ofString switch.word)
  match if exact = [] then begun else exact with
  | [] => .error [Bytes.ofString "unrecognized option '--", written, Bytes.ofString "'"]
  | switch :: others =>
    if others.any (·.word != switch.word) then
      .error (Bytes.ofString "option '--" :: written ::
        Bytes.ofString "' is ambiguous; possibilities:" ::
        (switch :: others).map fun switch => Bytes.ofString (" '--" ++ switch.word ++ "'"))
    else if switch.takes = .nothing ∧ argument.isSome then
      .error [Bytes.ofString ("option '--" ++ switch.word ++ "' doesn't allow an argument")]
    else .ok (switch, argument)

/-- What a switch that still needs its argument is complained of with. -/
def missing (switch : Switch) (byLetter : Bool) : List Bytes :=
  if byLetter then
    [Bytes.ofString "option requires an argument -- '",
      Bytes.ofString (String.ofList switch.letter.toList), Bytes.ofString "'"]
  else [Bytes.ofString ("option '--" ++ switch.word ++ "' requires an argument")]

/-- The switches that the first argument holds, and what is left after it and the argument that it
may want; nothing if the first argument holds none. -/
def first? (known : List Switch) :
    List Bytes → Except (List Bytes) (Option (List (Switch × Bytes) × List Bytes))
  | [] | [0x2D, 0x2D] :: _ => .ok none
  | (0x2D :: 0x2D :: written) :: rest => do
    let (switch, argument) ← ofWord known written
    match argument, switch.takes, rest with
    | none, .argument, [] => throw (missing switch false)
    | none, .argument, argument :: rest => return some ([(switch, argument)], rest)
    | argument, _, rest => return some ([(switch, argument.getD [])], rest)
  | (0x2D :: letter :: letters) :: rest => do
    let (given, waiting) ← ofLetters known (letter :: letters)
    match waiting, rest with
    | none, rest => return some (given, rest)
    | some switch, [] => throw (missing switch true)
    | some switch, argument :: rest => return some (given ++ [(switch, argument)], rest)
  | _ => .ok none

/-- The switches of an argument list, which end at two dashes; those of a `strict` utility end at
the first argument that is none. The fuel bounds the number of arguments. -/
def readFrom (known : List Switch) (strict : Bool) : Nat → List Bytes →
    Except (List Bytes) Switches
  | 0, arguments => .ok ⟨[], arguments⟩
  | fuel + 1, arguments => do
    match ← first? known arguments with
    | some (given, rest) =>
      let switches ← readFrom known strict fuel rest
      return { switches with given := given ++ switches.given }
    | none =>
      match arguments with
      | [] => return ⟨[], []⟩
      | [0x2D, 0x2D] :: rest => return ⟨[], rest⟩
      | operand :: rest =>
        if strict then return ⟨[], operand :: rest⟩
        else
          let switches ← readFrom known strict fuel rest
          return { switches with operands := operand :: switches.operands }

/-- The switches of an argument list. -/
def read (known : List Switch) (strict : Bool) (arguments : List Bytes) :
    Except (List Bytes) Switches :=
  readFrom (known ++ common) strict (arguments.length + 1) arguments

end Switches

end LineShell.Host
