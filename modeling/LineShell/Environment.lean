import LineShell.Text.Utf8

/-!
The variables that a session hands to the programs it starts, in the order they were set.
-/
namespace LineShell

structure Environment where
  entries : List (Bytes × Bytes)
  deriving DecidableEq

namespace Environment

def get? (environment : Environment) (name : Bytes) : Option Bytes :=
  environment.entries.lookup name

/-- The value of a variable is replaced where it stands; a new one comes last. -/
def set (environment : Environment) (name value : Bytes) : Environment :=
  if (environment.get? name).isSome then
    ⟨environment.entries.map fun entry => if entry.1 == name then (name, value) else entry⟩
  else ⟨environment.entries ++ [(name, value)]⟩

def unset (environment : Environment) (name : Bytes) : Environment :=
  ⟨environment.entries.filter fun entry => entry.1 != name⟩

/-- The home directory. -/
def home? (environment : Environment) : Option Bytes := environment.get? (Bytes.ofString "HOME")

/-- The directories that programs are searched in. -/
def searchPath? (environment : Environment) : Option Bytes :=
  environment.get? (Bytes.ofString "PATH")

/-- A variable as it is written out. -/
def line (entry : Bytes × Bytes) : Bytes := entry.1 ++ Bytes.ofString "=" ++ entry.2

/-- What a variable list looks like to a program. -/
def lines (environment : Environment) : List Bytes := environment.entries.map line

end Environment

end LineShell
