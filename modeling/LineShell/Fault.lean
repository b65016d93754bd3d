import LineShell.Status
import LineShell.Text.Utf8

/-!
What can go wrong, as a cause and a wording. A cause has a text of its own, which a context
replaces; the status it leaves behind and whether it ends the session depend on the cause alone.
-/
namespace LineShell

/-- The part of the shell a cause belongs to. -/
inductive Fault.Area where
  | builtin
  | executable
  | state
  | path
  | fatal
  deriving DecidableEq, Repr

inductive Fault.Cause where
  | outputNotWritten (command : String)
  | commandNotFound (name : String)
  | permissionDenied (name : String)
  | notSpawned (name reason : String)
  | notAwaited (name : String)
  | missingVariable (name : String)
  | settingsNotOpened (path : Bytes)
  | settingsNotRead (path : Bytes)
  | malformedLine (path : Bytes) (number : Nat)
  | unknownKey (key : String)
  | invalidValue (key value : String)
  | lineNotRead (reason : String)
  | editorNotReady
  | directoryNotEntered (path : Bytes) (reason : String)
  | storageExhausted (requested : Nat)
  deriving DecidableEq, Repr

structure Fault where
  cause : Fault.Cause
  context : Option String := none
  deriving DecidableEq, Repr

namespace Fault

def Cause.area : Cause → Area
  | .outputNotWritten .. => .builtin
  | .commandNotFound .. | .permissionDenied .. | .notSpawned .. | .notAwaited .. => .executable
  | .missingVariable .. | .settingsNotOpened .. | .settingsNotRead .. | .malformedLine .. => .state
  | .unknownKey .. | .invalidValue .. | .lineNotRead .. | .editorNotReady => .state
  | .directoryNotEntered .. => .path
  | .storageExhausted .. => .fatal

def Cause.message : Cause → String
  | .outputNotWritten command => command ++ ": failed to write output"
  | .commandNotFound name => name ++ ": command not found"
  | .permissionDenied name => name ++ ": permission denied"
  | .notSpawned name reason => name ++ ": failed to create process: " ++ reason
  | .notAwaited name => name ++ ": failed to wait for process to complete"
  | .missingVariable name => "Missing environment variable: " ++ name
  | .settingsNotOpened path => "Failed to open configuration file: " ++ path.display
  | .settingsNotRead path => "Failed to read configuration file: " ++ path.display
  | .malformedLine path number =>
    "Malformed line " ++ number.repr ++ " in configuration file: " ++ path.display
  | .unknownKey key => "Unknown configuration key: " ++ key
  | .invalidValue key value => "Invalid value for configuration key '" ++ key ++ "': " ++ value
  | .lineNotRead reason => "Failed to read input: " ++ reason
  | .editorNotReady => "Failed to initialize line editor"
  | .directoryNotEntered path reason => "cd: " ++ path.display ++ ": " ++ reason
  | .storageExhausted requested =>
    "Unable to allocate storage for " ++ requested.repr ++ " arguments"

/-- The text shown for a fault. -/
def message (fault : Fault) : String := fault.context.getD fault.cause.message

/-- The same fault in other words. -/
def withContext (fault : Fault) (context : String) : Fault := { fault with context := some context }

/-- The session cannot go on. -/
def isFatal (fault : Fault) : Bool := fault.cause.area == .fatal

/-- The status that a fault leaves behind: 127 for a command that is not found, 126 for one that
is found and may not be run. -/
def status (fault : Fault) : Status :=
  match fault.cause with
  | .commandNotFound _ => ⟨127⟩
  | .permissionDenied _ => ⟨126⟩
  | _ => .failure

theorem status_withContext (fault : Fault) (context : String) :
    (fault.withContext context).status = fault.status := rfl

theorem isFatal_iff (fault : Fault) :
    fault.isFatal = true ↔ ∃ requested, fault.cause = .storageExhausted requested := by
  cases h : fault.cause <;> simp [isFatal, Cause.area, h]

theorem status_ne_zero (fault : Fault) : fault.status.code ≠ 0 := by
  unfold status
  split <;> decide

end Fault

/-- A missing value counts as a fault. -/
def Option.orFault (value : Option α) (fault : Fault) : Except Fault α :=
  match value with
  | some value => .ok value
  | none => .error fault

/-- Any failure counts as the given fault. -/
def Except.orFault (value : Except ε α) (fault : Fault) : Except Fault α :=
  match value with
  | .ok value => .ok value
  | .error _ => .error fault

end LineShell
