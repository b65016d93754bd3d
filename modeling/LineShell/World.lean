import LineShell.Environment
import LineShell.Fault
import LineShell.Files.Access
import LineShell.Input.Supply

/-!
What a session stands in: a tree of files, a working directory in it, variables, and the input that
the programs it starts find. Changing the directory is the one thing the shell itself does to it.
-/
namespace LineShell

structure World where
  files : Files
  directory : NodeId
  environment : Environment
  input : Supply := {}
  deriving DecidableEq

namespace World

/-- The path of the working directory, unless that has been removed. -/
def path? (world : World) : Option Bytes := world.files.pathOf world.directory

/-- The home directory, which some things cannot do without. -/
def home (world : World) : Except Fault Bytes :=
  Option.orFault world.environment.home? { cause := .missingVariable "HOME" }

/-- Where a change of directory goes: home if nothing is named, and `~` stands for home. -/
def destination (world : World) : Option Bytes → Except Fault Bytes
  | none => world.home
  | some path =>
    if path.head? = some Path.tilde then return Path.expandHome path (← world.home)
    else return path

/-- Goes to another directory. Nothing else changes. -/
def changeDirectory (world : World) (target : Option Bytes) : Except Fault World := do
  let path ← world.destination target
  match world.files.enter world.directory path with
  | .ok directory => return { world with directory }
  | .error refusal => throw { cause := .directoryNotEntered path refusal.message }

theorem changeDirectory_keeps {world next : World} {target : Option Bytes}
    (changed : world.changeDirectory target = .ok next) :
    next.files = world.files ∧ next.environment = world.environment ∧ next.input = world.input := by
  unfold changeDirectory at changed
  cases reached : world.destination target with
  | error fault => simp [reached, bind, Except.bind] at changed
  | ok path =>
    simp only [reached, bind, Except.bind] at changed
    split at changed
    · cases changed
      exact ⟨rfl, rfl, rfl⟩
    · cases changed

end World

end LineShell
