import LineShell.Host.Process
import LineShell.Host.Quote
import LineShell.Host.Switches

/-!
What utilities have in common: they read their switches, do one thing for each operand, and say
under their name what went wrong.
-/
namespace LineShell.Host

/-- What a utility does, with its exit code. -/
abbrev Utility := Process → Act Nat

namespace Utility

def ofString (s : String) : Bytes := Bytes.ofString s

/-- The arguments joined by spaces. -/
def spaced (arguments : List Bytes) : Bytes := Text.joined 0x20 arguments

def complain (process : Process) (parts : List Bytes) : Act Unit :=
  process.complain (process.name :: ofString ": " :: parts)

/-- Says where to read on after a mistake in the arguments. -/
def advise (process : Process) : Act Unit :=
  process.complain [ofString "Try '", process.name, ofString " --help' for more information."]

/-- Reads the switches and goes on with them; a mistake in them ends with an exit code. -/
def withSwitches (process : Process) (known : List Switch) (code : Nat)
    (act : Switches → Act Nat) : Act Nat := do
  match Switches.read known false process.arguments with
  | .ok switches => if switches.has "help" || switches.has "version" then return 0 else act switches
  | .error parts =>
    complain process parts
    advise process
    return code

/-- Does something for each operand, of which there must be some, and fails if it fails for one of
them. -/
def forAll (process : Process) (missing : String) (operands : List Bytes)
    (act : Bytes → Act Bool) : Act Nat := do
  if operands.isEmpty then
    complain process [ofString missing]
    advise process
    return 1
  else operands.foldlM (fun code operand => return if ← act operand then code else 1) 0

/-- Does something for each operand and complains where it fails. -/
def forEach (process : Process) (missing : String) (operands : List Bytes)
    (act : Bytes → Act (Except (List Bytes) Unit)) : Act Nat :=
  forAll process missing operands fun operand => do
    match ← act operand with
    | .ok () => return true
    | .error parts =>
      complain process parts
      return false

/-- A complaint about a name and why it was refused. -/
def refused (act : String) (name : Bytes) (refusal : Refusal) : List Bytes :=
  [ofString (act ++ " "), Quote.always name, ofString (": " ++ refusal.reason)]

/-- A complaint about the argument of a switch that must be one of some words, of which those that
mean the same stand together; and what to read on. -/
def misses (process : Process) (word : String) (argument : Bytes) (choices : List (List String)) :
    Act Unit := do
  complain process [ofString "invalid argument ", Quote.escaped argument,
    ofString (" for '--" ++ word ++ "'")]
  process.complain [ofString "Valid arguments are:"]
  choices.forM fun words => process.complain
    [ofString ("  - " ++ ", ".intercalate (words.map fun word => "'" ++ word ++ "'"))]
  advise process

/-- The place of a word among the choices; it may be cut short as long as it is clear. -/
def chosen? (argument : Bytes) (choices : List (List String)) : Option Nat :=
  let places (fits : Bytes → Bool) := (List.range choices.length).filter fun place =>
    (choices.getD place []).any fun word => fits (ofString word)
  match places (· == argument), places (argument.isPrefixOf ·) with
  | place :: _, _ | [], [place] => some place
  | _, _ => none

/-- The bytes of a line that is read from the input, up to its end. -/
def readLine (process : Process) : Nat → Bytes → Act Bytes
  | 0, line => return line.reverse
  | fuel + 1, line => do
    match ← process.read 0 1 with
    | .ok [b] => if b = 0x0A then return line.reverse else readLine process fuel (b :: line)
    | _ => return line.reverse

/-- What lies at a path. -/
def nodeAt (process : Process) (follows : Bool) (path : Bytes) :
    Act (Except Refusal (NodeId × Node)) :=
  process.look fun files here => do
    match ← files.locate follows here path with
    | .found id =>
      match files.node? id with
      | some node => return (id, node)
      | none => throw .notFound
    | .absent .. => throw .notFound

/-- The bytes of a file, or of the input if a dash stands for it. -/
def contentAt (process : Process) (path : Bytes) : Act (Except Refusal Bytes) :=
  if path = [0x2D] then process.drain 0 else process.look fun files here => files.read here path

/-- Asks something, to which the input has the answer. -/
def asks (process : Process) (question : List Bytes) : Act Bool := do
  discard (process.write 2 (process.name ++ ofString ": " ++ question.flatten ++ ofString "? "))
  let line ← readLine process 0x10000 []
  return line.head?.any (ofString "yY").contains

end Utility

end LineShell.Host
