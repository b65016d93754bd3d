import LineShell.Identity
import LineShell.Settings.Basic
import LineShell.Status
import LineShell.Style
import LineShell.World

/-!
The state of a shell, and the two texts it greets its user with: the banner of a session and the
prompt of a line. The tick of the prompt is green after a success and red otherwise.
-/
namespace LineShell

structure Shell where
  identity : Identity
  settings : Settings
  status : Status
  deriving DecidableEq

namespace Shell

/-- The working directory as the prompt shows it. -/
def shownDirectory (shell : Shell) (world : World) : String :=
  match world.path? with
  | some path =>
    String.ofList (Path.collapse path world.environment.home? shell.settings.truncation)
  | none => "?"

/-- The sign that the user types after. -/
def tick (shell : Shell) : String := if shell.identity.isRoot then "#" else "❯"

def tickColour (shell : Shell) : Colour := if shell.status.succeeded then .green else .red

/-- The prompt of the next line. A superuser has other colours and another tick. -/
def prompt (colours : Bool) (shell : Shell) (world : World) : String :=
  let (userColour, directoryColour) : Colour × Colour :=
    if shell.identity.isRoot then (.red, .blue) else (.green, .cyan)
  userColour.paint colours shell.identity.user ++ " on " ++
    directoryColour.paint colours (shell.shownDirectory world) ++
    (if shell.settings.multiLinePrompt then "\n" else " ") ++
    shell.tickColour.paintBold colours shell.tick ++ " "

/-- The banner of an interactive session. -/
def banner (colours : Bool) : String :=
  Colour.cyan.paintBold colours "mish" ++ " " ++ Colour.grey.paint colours "v0.1.0" ++ "\n" ++
    Colour.grey.paint colours
      "A minimal interactive shell. Type 'exit' or press Ctrl-D to leave." ++ "\n\n"

end Shell

end LineShell
