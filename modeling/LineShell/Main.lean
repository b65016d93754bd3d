import LineShell.CommandLine.Start
import LineShell.Host.Programs
import LineShell.Host.Tree

/-!
The shell as a program. It runs on a tree of files of its own, whose clock stands still, and hands
each line of its input to the session as it comes.
-/
namespace LineShell.Main

/-- The variables that are taken over. -/
def variableNames : List String := ["HOME", "NO_COLOR", "PATH", "RUST_LOG", "TERM", "USER"]

/-- The number of a user whom no database knows. -/
def userNumber : Nat := 1000

def time : String := "1970-01-01T00:00:00Z"

/-- The variables of the program that are set. -/
def environment : IO Environment := do
  let entries ← variableNames.filterMapM fun name => do
    return (← IO.getEnv name).map fun value => (Bytes.ofString name, Bytes.ofString value)
  return ⟨entries⟩

/-- The host's tree with the home directory in it, which is where the shell starts. -/
def world (environment : Environment) : World :=
  let home := environment.home?.getD [Path.slash]
  let (files, directory) := Host.tree.ensureDirectories Files.root (Files.steps home)
  { files, directory, environment }

def send (stream : IO.FS.Stream) (bytes : Bytes) : IO Unit := do
  stream.write bytes.toByteArray
  stream.flush

/-- The next line of a stream with its line feed, as it stands. -/
partial def readLine (stream : IO.FS.Stream) (before : Bytes) : IO Bytes := do
  match (← stream.read 1).toList with
  | [] => return before.reverse
  | b :: _ =>
    if b = Text.lineFeed then return (b :: before).reverse else readLine stream (b :: before)

/-- Shows what a round printed and warned about. -/
def showTurn (environment : Environment) (turn : Turn) : IO Unit := do
  send (← IO.getStderr) (Bytes.ofString (Start.log environment time turn.warnings))
  turn.printed.forM fun piece => do
    send (← if piece.channel.isError then IO.getStderr else IO.getStdout) piece.bytes

/-- Shows the prompt, feeds the next line of input to the source, and takes a round with it. -/
partial def rounds {σ : Type} [LineSource σ] (feed : σ → Bytes → σ) (start : Start)
    (session : Session σ) : IO UInt32 := do
  send (← IO.getStdout) (Bytes.ofString (session.shell.prompt start.platform.colours session.world))
  let line ← readLine (← IO.getStdin) []
  let fed := { session with source := feed session.source line }
  let (turn, next, code) := fed.turn start.platform
  showTurn start.world.environment
    { turn with printed := turn.printed.filter (·.channel != .prompt) }
  match code with
  | some code => return UInt32.ofNat (Start.exitCode code)
  | none => rounds feed start next

end LineShell.Main

open LineShell LineShell.Main in
def main (arguments : List String) : IO UInt32 := do
  let environment ← Main.environment
  let start : Start :=
    { arguments := arguments.map Bytes.ofString
      world := Main.world environment
      users := []
      userNumber := Main.userNumber
      programs := Host.programs
      terminal := ← (← IO.getStdin).isTty
      input := [] }
  let (begun, warnings) := start.begun
  let output ← IO.getStdout
  let errors ← IO.getStderr
  send errors (Bytes.ofString (Start.log environment time warnings))
  match begun with
  | .over code outputText errorText =>
    send output (Bytes.ofString outputText)
    send errors (Bytes.ofString errorText)
    return UInt32.ofNat code
  | .plain session =>
    rounds (fun _ line => { buffer := { supply := .ofBytes line } }) start session
  | .editor banner session warnings =>
    send output (Bytes.ofString banner)
    send errors (Bytes.ofString (Start.log environment time warnings))
    rounds (fun source line => { source with input := .lines line }) start session
