import LineShell.Files.Access
import LineShell.Input.Supply
import LineShell.Printed

/-!
The machine that programs run on: the files, all that has been opened, and what has been printed so
far. Programs that run one after the other share it.
-/
namespace LineShell.Host

/-- What an open descriptor leads to. -/
inductive Opening where
  | output
  | error
  /-- The input that the machine was started with. -/
  | input
  | node (id : NodeId) (position : Nat) (reads writes appends : Bool)
  | pipe (waiting : Bytes)

structure Machine where
  files : Files
  supply : Supply
  openings : Array Opening
  /-- The pieces printed so far, the latest first. -/
  printed : List Printed

/-- What programs do to the machine. -/
abbrev Act := StateM Machine

namespace Machine

/-- Opens something; it is known by the number that is returned. -/
def enter (opening : Opening) : Act Nat := do
  let machine ← get
  set { machine with openings := machine.openings.push opening }
  return machine.openings.size

def replace (number : Nat) (opening : Opening) : Act Unit :=
  modify fun machine =>
    { machine with openings := machine.openings.setIfInBounds number opening }

/-- Changes the files, unless that is refused. -/
def change (act : Files → Except Refusal Files) : Act (Except Refusal Unit) := do
  let machine ← get
  match act machine.files with
  | .ok files =>
    set { machine with files }
    return .ok ()
  | .error refusal => return .error refusal

def print (channel : Channel) (bytes : Bytes) : Act Unit :=
  modify fun machine =>
    if bytes = [] then machine
    else { machine with printed := ⟨channel, bytes⟩ :: machine.printed }

/-- The bytes of a file with others written over them from a position on. A gap is filled up with
NUL bytes. -/
def overwritten (content : Bytes) (position : Nat) (bytes : Bytes) : Bytes :=
  content.take position ++ List.replicate (position - content.length) 0 ++ bytes ++
    content.drop (position + bytes.length)

/-- Writes to something open. -/
def write (number : Nat) (bytes : Bytes) : Act (Except Refusal Unit) := do
  let machine ← get
  match machine.openings[number]? with
  | some .output => return .ok (← print .program bytes)
  | some .error => return .ok (← print .programError bytes)
  | some (.pipe waiting) => return .ok (← replace number (.pipe (waiting ++ bytes)))
  | some (.node id position reads true appends) =>
    let content := (machine.files.contentOf id).toOption.getD []
    let position := if appends then content.length else position
    match ← change fun files => files.refill id (overwritten content position bytes) with
    | .ok () =>
      replace number (.node id (position + bytes.length) reads true appends)
      return .ok ()
    | .error refusal => return .error refusal
  | _ => return .error .badDescriptor

/-- One reading of at most `limit` bytes; nothing is the end. -/
def read (number limit : Nat) : Act (Except Refusal Bytes) := do
  let machine ← get
  match machine.openings[number]? with
  | some .input =>
    let (bytes, supply) := machine.supply.hand limit
    set { machine with supply }
    return .ok bytes
  | some (.pipe waiting) =>
    replace number (.pipe (waiting.drop limit))
    return .ok (waiting.take limit)
  | some (.node id position true writes appends) =>
    match machine.files.contentOf id with
    | .error refusal => return .error refusal
    | .ok content =>
      let bytes := (content.drop position).take limit
      replace number (.node id (position + bytes.length) true writes appends)
      return .ok bytes
  | _ => return .error .badDescriptor

/-- As much as programs read at once. -/
def blockSize : Nat := 131072

/-- All that is to be read up to the end. -/
def drain (number : Nat) : Act (Except Refusal Bytes) := do
  let machine ← get
  match machine.openings[number]? with
  | some .input =>
    let (bytes, supply) := machine.supply.drain blockSize []
    set { machine with supply }
    return .ok bytes
  | some (.pipe waiting) => read number waiting.length
  | some (.node id ..) => read number ((machine.files.contentOf id).toOption.getD []).length
  | _ => return .error .badDescriptor

end Machine

end LineShell.Host
