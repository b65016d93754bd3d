import LineShell.Environment
import LineShell.Host.Machine
import LineShell.Host.Mode

/-!
A program while it runs: its arguments, what it stands in, and what it has opened.
-/
namespace LineShell.Host

structure Process where
  name : Bytes
  arguments : List Bytes
  directory : NodeId
  environment : Environment
  /-- The descriptors and what they lead to on the machine. -/
  descriptors : List (Nat × Nat)
  /-- The permission bits that new files lack. -/
  mask : Nat := Mode.lacking

namespace Process

def write (process : Process) (descriptor : Nat) (bytes : Bytes) : Act (Except Refusal Unit) :=
  match process.descriptors.lookup descriptor with
  | some number => Machine.write number bytes
  | none => return .error .badDescriptor

def read (process : Process) (descriptor limit : Nat) : Act (Except Refusal Bytes) :=
  match process.descriptors.lookup descriptor with
  | some number => Machine.read number limit
  | none => return .error .badDescriptor

def drain (process : Process) (descriptor : Nat) : Act (Except Refusal Bytes) :=
  match process.descriptors.lookup descriptor with
  | some number => Machine.drain number
  | none => return .error .badDescriptor

/-- Sends bytes to the output. What cannot be sent is lost. -/
def put (process : Process) (bytes : Bytes) : Act Unit := discard (process.write 1 bytes)

/-- Sends a line to where complaints go. -/
def complain (process : Process) (parts : List Bytes) : Act Unit :=
  discard (process.write 2 (parts.flatten ++ [0x0A]))

/-- The process with a descriptor that leads elsewhere. -/
def attach (process : Process) (descriptor number : Nat) : Process :=
  { process with
    descriptors := (descriptor, number) :: process.descriptors.filter (·.1 != descriptor) }

def detach (process : Process) (descriptor : Nat) : Process :=
  { process with descriptors := process.descriptors.filter (·.1 != descriptor) }

/-- The files as the process sees them from its directory. -/
def look {α : Type} (process : Process) (view : Files → NodeId → α) : Act α :=
  return view (← get).files process.directory

end Process

end LineShell.Host
