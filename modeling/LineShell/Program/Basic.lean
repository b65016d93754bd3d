import LineShell.Printed
import LineShell.World

/-!
Programs as the shell sees them: what it starts and what it learns when that has ended. Nothing is
assumed of what programs do.
-/
namespace LineShell

/-- What the system runs for a file: a program, and the arguments that stand in front because the
file is a script for it. -/
structure Image where
  program : String
  lead : List Bytes
  deriving DecidableEq, Repr

/-- A program about to run, with the arguments it was asked to run with. -/
structure Invocation where
  image : Image
  arguments : List Bytes
  environment : Environment
  directory : NodeId
  input : Supply
  deriving DecidableEq

/-- The arguments that reach the program: those of a script come after the script's own path. -/
def Invocation.received (invocation : Invocation) : List Bytes :=
  match invocation.image.lead with
  | [] => invocation.arguments
  | lead => lead ++ invocation.arguments.tail

/-- A program that has ended: its wait status, the files it left, what it printed, and how many
items of its input it used up. -/
structure Finish where
  wait : UInt32
  files : Files
  printed : List Printed
  used : Nat := 0

/-- What every program does. -/
abbrev Programs := Invocation → Files → Finish

end LineShell
