import LineShell.Settings.Line
import LineShell.Warning
import LineShell.World

/-!
Where settings come from. A file that is asked for must be there and be good; the one in the home
directory may be missing, and one that is bad is passed over with a warning.
-/
namespace LineShell.Settings

/-- The settings file in a home directory. -/
def fileName : Bytes := Bytes.ofString ".mishrc"

/-- The settings in the file at `path`. -/
def ofFile (files : Files) (here : NodeId) (path : Bytes) : Except Fault Settings := do
  let id ← Except.orFault (files.find here path) { cause := .settingsNotOpened path }
  let content ← Except.orFault (files.contentOf id) { cause := .settingsNotRead path }
  ofContent path content

/-- Settings or a fault, and what was warned about on the way. -/
structure Loaded where
  settings : Except Fault Settings
  warnings : List Warning

/-- The settings of the home directory. -/
def ofHome (files : Files) (here : NodeId) (home : Bytes) : Settings × List Warning :=
  let path := Path.join home fileName
  if files.has here path then
    match ofFile files here path with
    | .ok settings => (settings, [])
    | .error fault =>
      ({}, [⟨.settings, fault.message ++ ", falling back on the default configuration"⟩])
  else ({}, [])

/-- The settings of a file that is asked for, or else those of the home directory. -/
def load (files : Files) (here : NodeId) (asked home : Option Bytes) : Loaded :=
  match asked, home with
  | some path, _ => ⟨ofFile files here path, []⟩
  | none, none => ⟨.ok {}, []⟩
  | none, some home =>
    let (settings, warnings) := ofHome files here home
    ⟨.ok settings, warnings⟩

end LineShell.Settings
