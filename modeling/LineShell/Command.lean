import LineShell.Arguments
import LineShell.Builtin
import LineShell.Program.Launch

/-!
Command lines. A line asks for nothing, for another directory, for a builtin or for a program, in
this order of precedence, and is evaluated in a world and with a writer for the builtins.
-/
namespace LineShell

/-- What a command line asks for. -/
inductive Action where
  | nothing
  | changeDirectory (target : Option Bytes)
  | builtin (command : Builtin)
  | program
  deriving DecidableEq, Repr

/-- The command that goes to another directory. -/
def changeDirectoryName : Bytes := Bytes.ofString "cd"

def Action.ofArguments : List Bytes → Action
  | [] => .nothing
  | name :: parameters =>
    if name = changeDirectoryName then .changeDirectory parameters.head?
    else match Builtin.find? name with
      | some command => .builtin command
      | none => .program

/-- What came of a command line. -/
structure Evaluated where
  outcome : Except Fault Outcome
  world : World
  writer : Writer
  printed : List Printed

namespace Command

/-- Does what an argument list asks for. What the shell has written is passed on before a program
prints anything. -/
def perform (programs : Programs) (world : World) (writer : Writer) (arguments : List Bytes) :
    Evaluated :=
  match Action.ofArguments arguments with
  | .nothing => ⟨.ok .nothing, world, writer, []⟩
  | .changeDirectory target =>
    match world.changeDirectory target with
    | .ok next => ⟨.ok (.completed .success), next, writer, []⟩
    | .error fault => ⟨.error fault, world, writer, []⟩
  | .builtin command =>
    let ran := command.run world.environment arguments.tail writer
    ⟨ran.outcome, world, ran.writer, Printed.of .builtin ran.taken⟩
  | .program =>
    let launched := Program.launch programs world arguments
    ⟨launched.status.map .completed, launched.world, writer.flush.2, launched.printed⟩

/-- Evaluates one line. A line whose arguments find no storage does nothing. -/
def evaluate (programs : Programs) (limit : Option Nat) (world : World) (writer : Writer)
    (line : Bytes) : Evaluated :=
  match Arguments.ofLine limit line with
  | .error fault => ⟨.error fault, world, writer, []⟩
  | .ok arguments => perform programs world writer arguments.toList

/-- No command adds anything to the input. -/
theorem length_input_evaluate_le (programs : Programs) (limit : Option Nat) (world : World)
    (writer : Writer) (line : Bytes) :
    (evaluate programs limit world writer line).world.input.items.length ≤
      world.input.items.length := by
  unfold evaluate
  split
  · exact Nat.le_refl _
  · unfold perform
    split
    · exact Nat.le_refl _
    · split
      · next changed => exact Nat.le_of_eq (by rw [(World.changeDirectory_keeps changed).2.2])
      · exact Nat.le_refl _
    · exact Nat.le_refl _
    · exact Program.length_input_launch_le ..

end Command

end LineShell
