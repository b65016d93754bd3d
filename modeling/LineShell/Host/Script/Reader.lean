import LineShell.Host.Numeral
import LineShell.Host.Script.Statement

/-!
The text of a script while it is read. More of it may still come; then a reading that gets to its
end has to be done again with more.
-/
namespace LineShell.Host.Script

inductive Token where
  | ending
  | newline
  | operator (text : String)
  | redirection (descriptor : Nat) (text : String)
  | word (word : Word)
  | keyword (text : String)

/-- How a token is called in complaints. -/
def Token.title : Token → String
  | .ending => "end of file"
  | .newline => "newline"
  | .operator text | .keyword text => "\"" ++ text ++ "\""
  | .redirection .. => "redirection"
  | .word _ => "word"

/-- A text in the script that a redirection has announced and that follows the line. -/
structure Announced where
  /-- Its place among the texts. -/
  number : Nat
  mark : Bytes
  /-- Tabs at the beginning of its lines are left out. -/
  indented : Bool
  /-- Parameters and commands in it are replaced. -/
  expanded : Bool

structure Reader where
  rest : Bytes
  line : Nat := 1
  /-- More text may come. -/
  unfinished : Bool := false
  pushed : Option Token := none
  announced : List Announced := []
  /-- The texts that redirections lead to, those of earlier readings included. -/
  documents : Array Word := #[]
  aliases : List (Bytes × Bytes) := []
  /-- Aliases whose texts are being read, and how much is left behind each. -/
  replaced : List (Bytes × Nat) := []
  /-- A word behind so much of the rest may be an alias wherever it stands. -/
  eager : Option Nat := none

/-- Why a reading stops. -/
inductive Trouble where
  | mistake (text : String)
  /-- It takes more text to go on. -/
  | short

abbrev Parse := ExceptT Trouble (StateM Reader)

namespace Parse

def mistake {α : Type} (text : String) : Parse α := throw (.mistake text)

/-- Complains of a token, and says which would have done. -/
def unexpected {α : Type} (token : Token) (expected : Option Token) : Parse α :=
  mistake <| token.title ++ " unexpected" ++ match expected with
    | some expected => " (expecting " ++ expected.title ++ ")"
    | none => ""

/-- The next byte, which is left where it is. -/
def peekRaw : Parse (Option UInt8) := do
  let reader ← get
  match reader.rest with
  | b :: _ => return some b
  | [] => if reader.unfinished then throw .short else return none

/-- Goes on by one byte. -/
def skip : Parse Unit :=
  modify fun reader => { reader with
    rest := reader.rest.tail
    line := if reader.rest.head? = some 0x0A then reader.line + 1 else reader.line }

/-- Leaves out the ends of lines that are continued. -/
def joinLines : Nat → Parse Unit
  | 0 => pure ()
  | fuel + 1 => do
    let reader ← get
    match reader.rest with
    | 0x5C :: 0x0A :: _ =>
      skip
      skip
      joinLines fuel
    | [0x5C] => if reader.unfinished then throw .short
    | _ => pure ()

/-- The next byte after the ends of continued lines. -/
def peek : Parse (Option UInt8) := do
  joinLines (← get).rest.length
  peekRaw

/-- Goes on if a certain byte comes next. -/
def accept (b : UInt8) : Parse Bool := do
  if (← peek) = some b then
    skip
    return true
  else return false

/-- The bytes up to the first that are not so. -/
def takeWhile (holds : UInt8 → Bool) : Nat → Parse Bytes
  | 0 => return []
  | fuel + 1 => do
    match ← peek with
    | some b =>
      if holds b then
        skip
        return b :: (← takeWhile holds fuel)
      else return []
    | none => return []

/-- As many steps as the rest of the text may take. -/
def fuel : Parse Nat := return 2 * (← get).rest.length + 8

def push (token : Token) : Parse Unit := modify fun reader => { reader with pushed := some token }

/-- Reads something from another text, and goes on with this one. -/
def within {α : Type} (text : Bytes) (read : Parse α) : Parse α := do
  let reader ← get
  set { reader with
    rest := text, line := 1, unfinished := false, pushed := none, announced := []
    replaced := [], eager := none }
  let result ← read
  let documents := (← get).documents
  set { reader with documents }
  return result

end Parse

end LineShell.Host.Script
