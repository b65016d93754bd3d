import LineShell.Files.Access

/-!
Changes to entries that stand: moving them, giving a node a second name, and setting permissions.
-/
namespace LineShell.Files

/-- Whether a directory is another one or lies below it, at most so deep. -/
def isWithin (files : Files) (outer : NodeId) : Nat → NodeId → Bool
  | 0, id => id == outer
  | depth + 1, id =>
    id == outer || match files.node? id with
      | some (.directory parent _) => id != root && files.isWithin outer depth parent
      | _ => false

/-- A directory knows the one it lies in. -/
def adopt (files : Files) (parent id : NodeId) : Files :=
  match files.node? id with
  | some (.directory _ entries) => files.set id (.directory parent entries)
  | _ => files

/-- Why a node cannot take the place of another one. -/
def replacement? (files : Files) (id other : NodeId) : Option Refusal :=
  match files.node? id, files.node? other with
  | some (.directory ..), some (.directory _ []) => none
  | some (.directory ..), some (.directory ..) => some .notEmpty
  | some (.directory ..), _ => some .notDirectory
  | _, some (.directory ..) => some .isDirectory
  | _, _ => none

/-- Moves an entry to another path, where it takes the place of what was there. -/
def rename (files : Files) (here : NodeId) (path goal : Bytes) : Except Refusal Files := do
  let (directory, name, id) ← files.entry here path
  if name = [Path.dot] ∨ name = [Path.dot, Path.dot] then throw .busy
  let isSlashed (path : Bytes) : Bool := path.getLast? == some Path.slash
  if (isSlashed path || isSlashed goal) && !files.isDirectory id then throw .notDirectory
  match ← files.locate false here (withoutSlashes goal) with
  | .absent parent newName =>
    if (files.pathOf parent).isNone then throw .notFound
    if files.isDirectory id && files.isWithin id files.nodes.size parent then throw .invalid
    return ((files.drop directory name).enlist parent newName id).adopt parent id
  | .found other =>
    if other = id then return files
    let (parent, newName, _) ← files.entry here goal
    if files.isDirectory id && files.isWithin id files.nodes.size parent then throw .invalid
    if let some refusal := files.replacement? id other then throw refusal
    return (((files.drop directory name).drop parent newName).enlist parent newName id).adopt
      parent id

/-- Gives a node that is no directory another name. -/
def makeName (files : Files) (here : NodeId) (path goal : Bytes) : Except Refusal Files := do
  let (_, _, id) ← files.entry here path
  match ← files.locate false here goal with
  | .found _ => throw .alreadyThere
  | .absent parent name =>
    if (files.pathOf parent).isNone then throw .notFound
    return files.enlist parent name id

/-- The permission bits of a node. Only those of files can be set. -/
def modeOf (files : Files) (id : NodeId) : Nat :=
  match files.node? id with
  | some (.file mode _) => mode
  | some .sink => 0o666
  | some (.link _) => 0o777
  | _ => 0o755

def setMode (files : Files) (id : NodeId) (mode : Nat) : Files :=
  match files.node? id with
  | some (.file _ content) => files.set id (.file mode content)
  | _ => files

end LineShell.Files
