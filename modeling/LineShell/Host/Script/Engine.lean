import LineShell.Host.Script.Grammar
import LineShell.Host.Script.Redirect
import LineShell.Program.Launch

/-!
What carries scripts out. A script is run in its own process or in a subshell, which is a copy of
it that shares the machine; a subshell leaves nothing behind but its status and what it has done
to the machine.
-/
namespace LineShell.Host

/-- A program with the process that it is about to run in. -/
structure Ready where
  program : String
  process : Process

/-- Whether the beginning of a file looks like a line of text. -/
def isText (content : Bytes) : Bool :=
  ((content.take 128).takeWhile (· != 0x0A)).all fun b =>
    (0x09 ≤ b && b ≤ 0x0F) || b == 0x1B || (0x20 ≤ b && b != 0x7F)

/-- What the system makes of the file at a path, for a process that would go on as it. A script
without an interpreter is left to the usual one, unless it is `suspect` and looks like no text. -/
def Ready.at (files : Files) (process : Process) (suspect : Bool) (path : Bytes) :
    Except Refusal Ready :=
  let fits := Program.fitsArguments process.environment (process.name :: process.arguments) path
  match Program.image files process.directory fits Program.scriptDepth path [] with
  | .ok ⟨program, []⟩ => .ok ⟨program, process⟩
  | .ok ⟨program, name :: front⟩ =>
    .ok ⟨program, { process with name, arguments := front ++ process.arguments }⟩
  | .error .badFormat =>
    let content := (files.read process.directory path).toOption.getD []
    let name := Bytes.ofString "/bin/sh"
    if suspect && !isText content then .error .badFormat
    else .ok ⟨"dash", { process with name, arguments := path :: process.arguments }⟩
  | .error refusal => .error refusal

namespace Script

/-- How statements are carried out and programs are run. -/
structure Engine where
  /-- Carries out a statement. It may be the `last` of its process, which then needs not be kept;
  and it may be one whose status is `tested`, so that it may fail. -/
  statement : (last tested : Bool) → Statement → Step Unit
  run : Ready → Act Status.Ending

namespace Engine

/-- So many statements are carried out, or rounds made, before a script is given up. -/
def roundBound : Nat := 0x1000000

/-- As many bytes of a script are read at once. -/
def handful : Nat := 8192

/-- Carries out what a reader reads. Text that is not finished goes on in the input. -/
def readOut (engine : Engine) (tested : Bool) (reader : Reader) : Step Unit := do
  let mut reader := reader
  let mut isEmpty := true
  for _ in [0:roundBound] do
    let (result, after) := readStatement { reader with
      documents := (← get).documents, aliases := (← get).aliases }
    match result with
    | .error .short =>
      match ← Step.act ((← get).process.read 0 handful) with
      | .ok (b :: more) =>
        reader := { reader with rest := reader.rest ++ (b :: more).filter (· != 0) }
      | _ => reader := { reader with unfinished := false }
    | .error (.mistake complaint) =>
      modify fun runner => { runner with line := after.line }
      Step.fail [ofString ("Syntax error: " ++ complaint)]
    | .ok none => break
    | .ok (some statement) =>
      reader := after
      modify fun runner => { runner with documents := after.documents }
      match statement with
      | .nothing => pure ()
      | statement =>
        isEmpty := false
        engine.statement false tested statement
  if isEmpty then Step.setStatus 0

/-- Carries out a text as a part of the script. A text without statements succeeds, and NUL bytes
in it are passed over. -/
def source (engine : Engine) (tested : Bool) (text : Bytes) : Step Unit :=
  engine.readOut tested { rest := text.filter (· != 0) }

/-- Looks at the signals that have come. Those that nothing is arranged for end the process. -/
def deliver (engine : Engine) : Step Unit := do
  let runner ← get
  if !runner.isSubshell && !runner.pending.isEmpty then
    set { runner with pending := [] }
    runner.pending.forM fun signal => do
      match runner.traps.lookup signal with
      | some [] => pure ()
      | some action =>
        Step.setStatus runner.status
        engine.source false action
        Step.setStatus runner.status
      | none => if !isHarmless signal then throw (.replaced (.killed signal))

/-- Runs a script to its end, and what it has left to do for then. -/
def close (engine : Engine) (script : Step Unit) (runner : Runner) :
    Act (Status.Ending × Runner) := do
  let (result, runner) ← script runner
  let exit (code : Nat) : Act (Status.Ending × Runner) := do
    match runner.traps.lookup 0 with
    | none => return (.exited code, runner)
    | some action =>
      let start := { runner with
        status := code, speaker := none
        traps := runner.traps.filter (·.1 != 0) }
      match ← (engine.source false action) start with
      | (.error (.ended code), runner) => return (.exited code, runner)
      | (.error (.replaced ending), runner) => return (ending, runner)
      | (_, runner) => return (.exited code, runner)
  match result with
  | .error (.replaced ending) => return (ending, runner)
  | .error (.ended code) => exit code
  | .error .failed => exit 2
  | .ok () | .error (.broken ..) | .error .returned => exit runner.status

/-- Does something in a subshell. -/
def subshell (engine : Engine) (script : Step Unit) : Step Status.Ending := do
  let runner ← get
  let start := { runner with
    isSubshell := true, pending := []
    traps := runner.traps.filter (·.2 == []) }
  let (ending, after) ← Step.act (engine.close script start)
  set { runner with pending := runner.pending ++ after.pending }
  return ending

/-- Takes the status from how another process has ended, and says so if a signal did it. -/
def settle (ending : Status.Ending) : Step Unit := do
  match ending with
  | .killed signal =>
    match signalReport? signal with
    | some report => Step.act ((← get).process.complain [ofString report])
    | none => pure ()
  | _ => pure ()
  Step.setStatus (Status.ofEnding ending).code.toNat

/-- What a statement prints when it is carried out in a subshell. -/
def capture (engine : Engine) (statement : Statement) : Step Bytes := do
  let status := (← get).status
  let number ← Step.act (Machine.enter (.pipe []))
  match statement with
  | .nothing => modify fun runner => { runner with inner := 0 }
  | statement =>
    let ending ← engine.subshell do
      Step.modifyProcess fun process => process.attach 1 number
      engine.statement true false statement
    settle ending
    engine.deliver
    modify fun runner => { runner with inner := runner.status, status }
  return (← Step.act (Machine.drain number)).toOption.getD []

/-- The fields of some words. -/
def fields (engine : Engine) (words : List Word) : Step (List Bytes) := do
  return (← words.mapM (Script.fields engine.capture)).flatten

/-- Carries out redirections for as long as something is done. -/
def redirected (engine : Engine) (redirections : List Redirection) (act : Step Unit) :
    Step Unit := do
  let before := (← get).process.descriptors
  let restore (runner : Runner) : Runner :=
    { runner with process := { runner.process with descriptors := before } }
  let targets ← targets engine.capture redirections
  match ← Step.attempt (targets.forM (·.redirect)) with
  | .ok () => Step.withAfter act restore
  | .error _ =>
    modify restore
    Step.setStatus 2

end Engine

end Script

end LineShell.Host
