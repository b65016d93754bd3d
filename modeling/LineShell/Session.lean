import LineShell.Command
import LineShell.Input.Source
import LineShell.Shell

/-!
A session: show a prompt, read a line, evaluate it, and again, until the input ends, a line asks
for the end, or something fails that cannot be got over. The status of a line is kept for the next
prompt; a line without words leaves it alone. Programs read their input where the source has
stopped, and the source goes on where they have.
-/
namespace LineShell

/-- What a session runs on: the programs, the limit on argument storage, and whether the terminal
shows colours. -/
structure Platform where
  programs : Programs
  storageLimit : Option Nat
  colours : Bool

structure Session (σ : Type) where
  shell : Shell
  world : World
  writer : Writer
  source : σ

/-- One round: the state its line is evaluated in, the prompt, what was read, and what was printed
and warned about. -/
structure Turn where
  shell : Shell
  world : World
  writer : Writer
  prompt : String
  answer : Except Fault (Option Bytes)
  printed : List Printed
  warnings : List Warning

/-- A whole session: its exit code, its rounds and the state at its end. -/
structure Report (σ : Type) where
  code : Int
  turns : List Turn
  final : Session σ

namespace Session

/-- The exit code after a failure that cannot be got over. -/
def fatalCode : Int := 1

/-- The line that reports a fault. -/
def diagnostic (fault : Fault) : Printed :=
  ⟨.diagnostic, Bytes.ofString ("mish: " ++ fault.message ++ "\n")⟩

/-- What the outcome of a line does: the shell afterwards, the fault to report, and the exit code
if the session is over. -/
def settle (shell : Shell) : Except Fault Outcome → Shell × List Printed × Option Int
  | .ok .nothing => (shell, [], none)
  | .ok (.completed status) => ({ shell with status }, [], none)
  | .ok (.exit code) => (shell, [], some code)
  | .error fault =>
    if fault.isFatal then (shell, [diagnostic fault], some fatalCode)
    else
      let reported := if shell.settings.showErrors then [diagnostic fault] else []
      ({ shell with status := fault.status }, reported, none)

variable {σ : Type}

/-- Asks the source for a line. -/
def ask [LineSource σ] (platform : Platform) (session : Session σ) : Reading σ :=
  LineSource.read session.source (session.shell.prompt platform.colours session.world) session.world

/-- A round in which the source has answered, the state after it, and the exit code if it was the
last. -/
def answered [LineSource σ] (platform : Platform) (session : Session σ) (reading : Reading σ) :
    Turn × Session σ × Option Int :=
  let world := { session.world with
    files := reading.files, input := LineSource.supply reading.source }
  let turn := fun (printed : List Printed) =>
    { shell := session.shell
      world
      writer := session.writer
      prompt := session.shell.prompt platform.colours session.world
      answer := reading.answer
      printed := reading.printed ++ printed
      warnings := reading.warnings : Turn }
  match reading.answer with
  | .ok none => (turn [], { session with world, source := reading.source }, some 0)
  | .error fault =>
    (turn [diagnostic fault], { session with world, source := reading.source }, some 0)
  | .ok (some line) =>
    let evaluated :=
      Command.evaluate platform.programs platform.storageLimit world session.writer line
    let (shell, reported, code) := settle session.shell evaluated.outcome
    (turn (evaluated.printed ++ reported),
      { shell, world := evaluated.world, writer := evaluated.writer
        source := LineSource.restock reading.source evaluated.world.input },
      code)

/-- One round. -/
def turn [LineSource σ] (platform : Platform) (session : Session σ) :
    Turn × Session σ × Option Int :=
  session.answered platform (session.ask platform)

/-- A round leaves the source with no more than the reading did. -/
theorem size_answered_le [LineSource σ] (platform : Platform) (session : Session σ)
    (reading : Reading σ) :
    LineSource.size (session.answered platform reading).2.1.source ≤
      LineSource.size reading.source := by
  unfold answered
  split
  · exact Nat.le_refl _
  · exact Nat.le_refl _
  · exact LineSource.size_restock (Command.length_input_evaluate_le ..)

/-- Only a line makes a session go on. -/
theorem line_of_answered [LineSource σ] {platform : Platform} {session : Session σ}
    {reading : Reading σ}
    (on : (session.answered platform reading).2.2 = none) :
    ∃ line, reading.answer = .ok (some line) := by
  unfold answered at on
  split at on
  · cases on
  · cases on
  · next line given => exact ⟨line, given⟩

/-- A round that is not the last has used up some of the source. -/
theorem size_turn_lt [LineSource σ] {platform : Platform} {session : Session σ}
    (on : (session.turn platform).2.2 = none) :
    LineSource.size (session.turn platform).2.1.source < LineSource.size session.source := by
  obtain ⟨line, given⟩ := line_of_answered on
  exact Nat.lt_of_le_of_lt (size_answered_le ..) (LineSource.size_read given)

/-- Runs a session to its end. -/
def run [LineSource σ] (platform : Platform) (session : Session σ) : Report σ :=
  match on : (session.turn platform).2.2 with
  | some code => ⟨code, [(session.turn platform).1], (session.turn platform).2.1⟩
  | none =>
    have := size_turn_lt on
    let report := run platform (session.turn platform).2.1
    { report with turns := (session.turn platform).1 :: report.turns }
termination_by LineSource.size session.source

end Session

end LineShell
