import LineShell.Path

/-!
The settings of a session and single changes to them.
-/
namespace LineShell

structure Settings where
  showBanner : Bool := true
  multiLinePrompt : Bool := false
  truncation : Option Nat := none
  showErrors : Bool := true
  historyFile : Option Bytes := none
  historyLimit : Option Nat := none
  deriving DecidableEq, Repr

/-- A new value for one of the settings. -/
inductive Setting where
  | showBanner (value : Bool)
  | multiLinePrompt (value : Bool)
  | truncation (value : Option Nat)
  | showErrors (value : Bool)
  | historyFile (path : Bytes)
  | historyLimit (value : Option Nat)
  deriving DecidableEq, Repr

namespace Settings

def set (settings : Settings) : Setting → Settings
  | .showBanner value => { settings with showBanner := value }
  | .multiLinePrompt value => { settings with multiLinePrompt := value }
  | .truncation value => { settings with truncation := value }
  | .showErrors value => { settings with showErrors := value }
  | .historyFile path => { settings with historyFile := some path }
  | .historyLimit value => { settings with historyLimit := value }

/-- The history file in a home directory. -/
def historyName : Bytes := Bytes.ofString ".mish_history"

/-- The history file: the one that is set, or else the one in the home directory. -/
def historyFileFor (settings : Settings) (home : Option Bytes) : Option Bytes :=
  settings.historyFile.or (home.map fun home => Path.join home historyName)

end Settings

end LineShell
