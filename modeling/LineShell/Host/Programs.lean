import LineShell.Host.Script.Start
import LineShell.Host.Utility.Content
import LineShell.Host.Utility.Environment
import LineShell.Host.Utility.Listing
import LineShell.Host.Utility.Printing

/-!
What the programs of the host do. Scripts run other programs, among them more scripts, and that is
bounded by a depth.
-/
namespace LineShell.Host

/-- Runs a utility. One that prints something without an output to print it to fails with some
code. -/
def Utility.guarded (utility : Utility) (failure : Nat) : Utility := fun process => do
  if (process.descriptors.lookup 1).isSome then utility process
  else
    let number ← Machine.enter (.pipe [])
    let code ← utility (process.attach 1 number)
    if (← Machine.drain number).toOption.getD [] = [] then return code
    else
      Utility.complain process [Bytes.ofString "write error: ",
        Bytes.ofString Refusal.badDescriptor.reason]
      return failure

/-- The utilities that need no other program. -/
def utilityTable : List (String × Utility) :=
  [("[", Utility.test true), ("basename", Utility.basename), ("chmod", Utility.chmod),
    ("cp", Utility.cp), ("dirname", Utility.dirname), ("echo", Utility.echo),
    ("false", fun _ => return 1), ("head", Utility.head), ("id", Utility.id), ("ln", Utility.ln),
    ("ls", Utility.ls), ("mkdir", Utility.mkdir), ("mv", Utility.mv),
    ("printenv", Utility.printenv),
    ("printf", Utility.printf), ("pwd", Utility.workingDirectory), ("readlink", Utility.readlink),
    ("rm", Utility.rm), ("rmdir", Utility.rmdir), ("seq", Utility.seq),
    ("sleep", Utility.sleep), ("tail", Utility.tail), ("tee", Utility.tee),
    ("test", Utility.test false), ("touch", Utility.touch), ("true", fun _ => return 0),
    ("tty", Utility.tty), ("wc", Utility.wc), ("whoami", Utility.whoami)]

open Script (Engine)

/-- Changes the environment and goes on as another program. -/
def runInEnvironment (engine : Engine) (process : Process) : Act Status.Ending := do
  match ← Utility.env process with
  | .error code => return .exited code
  | .ok changed =>
    let paths := Program.candidates changed.environment changed.name
    let files := (← get).files
    let found := if changed.name = [] then .error .notFound
      else Program.searchIn (Ready.at files changed false) .notFound false paths
    match found with
    | .ok ready => engine.run ready
    | .error refusal =>
      Utility.complain process [Quote.escaped changed.name, Bytes.ofString ": ",
        Bytes.ofString refusal.reason]
      if refusal = .notFound ∧ changed.name.contains 0x20 then
        Utility.complain process
          [Bytes.ofString "use -[v]S to pass options in shebang lines"]
      return .exited (if refusal = .notFound then 127 else 126)

/-- Runs a program. -/
def run (engine : Engine) (ready : Ready) : Act Status.Ending := do
  match utilityTable.lookup ready.program with
  | some utility =>
    let failure := if ready.program = "ls" then 2 else 1
    return .exited (← utility.guarded failure ready.process)
  | none =>
    if ready.program = "cat" then return .exited (← Utility.cat ready.process)
    else if ready.program = "dash" then engine.interpret ready.process
    else if ready.program = "env" then runInEnvironment engine ready.process
    else return .exited 127

/-- Carries out what is not nested deeper than so. -/
def engine : Nat → Engine
  | 0 => ⟨fun _ _ _ => throw (.replaced .unfinished), fun _ => return .unfinished⟩
  | depth + 1 =>
    { statement := fun last tested statement => (engine depth).perform last tested statement
      run := fun ready => run (engine depth) ready }

/-- How deep statements and programs may lie within each other. -/
def depth : Nat := 40000

/-- The programs of the host. -/
def programs : Programs := fun invocation files =>
  let received := invocation.received
  let process : Process :=
    { name := received.headD []
      arguments := received.tail
      directory := invocation.directory
      environment := invocation.environment
      descriptors := [(0, 0), (1, 1), (2, 2)] }
  let machine : Machine :=
    ⟨files, invocation.input, #[.input, .output, .error], []⟩
  let (ending, machine) := (run (engine depth) ⟨invocation.image.program, process⟩).run machine
  { wait := ending.toWait
    files := machine.files
    printed := machine.printed.reverse
    used := invocation.input.items.length - machine.supply.items.length }

end LineShell.Host
