import LineShell.Environment
import LineShell.Fault
import LineShell.Text.Numeral
import LineShell.Writer

/-!
The commands that are part of the shell. Each is known by its exact name; what it writes is
decided first and then offered to the writer.
-/
namespace LineShell

/-- What a command comes to: nothing was run, something ran to its end, or the session is
to end. -/
inductive Outcome where
  | nothing
  | completed (status : Status)
  | exit (code : Int)
  deriving DecidableEq, Repr

inductive Builtin where
  | echo
  | env
  | exit
  deriving DecidableEq, Repr

namespace Builtin

def name : Builtin → String
  | .echo => "echo"
  | .env => "env"
  | .exit => "exit"

/-- All builtins, in the order they are looked up. -/
def all : List Builtin := [.echo, .env, .exit]

/-- The builtin with exactly this name. -/
def find? (name : Bytes) : Option Builtin :=
  all.find? fun builtin => Bytes.ofString builtin.name == name

theorem find?_name (builtin : Builtin) : find? (Bytes.ofString builtin.name) = some builtin := by
  cases builtin <;> decide

/-- Words with single spaces between them, as one line. -/
def echoed (parameters : List Bytes) : Bytes :=
  (parameters.intersperse [0x20]).flatten ++ [0x0A]

/-- The code that is given to `exit`: 0 unless it is a numeral of 32 bits. -/
def exitCode (parameters : List Bytes) : Int :=
  ((parameters.head?.bind Utf8.decode?).bind (Text.integer? 0x80000000)).getD 0

/-- What a builtin writes, write by write. -/
def output (builtin : Builtin) (environment : Environment) (parameters : List Bytes) : List Bytes :=
  match builtin with
  | .echo => [echoed parameters]
  | .env => environment.lines.map (· ++ [0x0A])
  | .exit => []

/-- What came of running a builtin. -/
structure Ran where
  outcome : Except Fault Outcome
  taken : Bytes
  writer : Writer

/-- Runs a builtin. Output that is not taken whole, or not passed on, makes it fail. -/
def run (builtin : Builtin) (environment : Environment) (parameters : List Bytes)
    (writer : Writer) : Ran :=
  match builtin with
  | .exit => ⟨.ok (.exit (exitCode parameters)), [], writer⟩
  | _ =>
    let written := writer.writeEach (builtin.output environment parameters)
    let failed : Except Fault Outcome := .error { cause := .outputNotWritten builtin.name }
    if written.whole then
      ⟨if written.writer.flush.1 then .ok (.completed .success) else failed, written.taken,
        written.writer.flush.2⟩
    else ⟨failed, written.taken, written.writer⟩

end Builtin

end LineShell
