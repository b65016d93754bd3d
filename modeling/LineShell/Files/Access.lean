import LineShell.Files.Walk

/-!
Reading, writing, making and removing by path. Everything is done with the rights of a superuser,
so permission bits matter only to running a file.
-/
namespace LineShell.Files

/-- The permission bits of new files. -/
def freshMode : Nat := 0o644

/-- The directory a path leads to. -/
def enter (files : Files) (here : NodeId) (path : Bytes) : Except Refusal NodeId := do
  let id ← files.find here path
  if files.isDirectory id then .ok id else .error .notDirectory

/-- Whether a path leads to anything. -/
def has (files : Files) (here : NodeId) (path : Bytes) : Bool :=
  match files.find here path with
  | .ok _ => true
  | .error _ => false

/-- The bytes of an open node. -/
def contentOf (files : Files) (id : NodeId) : Except Refusal Bytes :=
  match files.node? id with
  | some (.file _ content) => .ok content
  | some (.directory ..) => .error .isDirectory
  | some (.link _) => .error .linkLoop
  | some (.program _) | some .sink => .ok []
  | none => .error .notFound

/-- The bytes of a file. -/
def read (files : Files) (here : NodeId) (path : Bytes) : Except Refusal Bytes := do
  files.contentOf (← files.find here path)

/-- Nothing can be made in a directory that has been removed. -/
def make (files : Files) (directory : NodeId) (name : Bytes) (node : Node) : Except Refusal Files :=
  if (files.pathOf directory).isSome then .ok (files.add directory name node)
  else .error .notFound

/-- The tree with new content in a node that holds bytes. -/
def refill (files : Files) (id : NodeId) (content : Bytes) : Except Refusal Files :=
  match files.node? id with
  | some (.file mode _) => .ok (files.set id (.file mode content))
  | some (.directory ..) => .error .isDirectory
  | some (.program _) => .ok (files.set id (.file 0o755 content))
  | some .sink => .ok files
  | some (.link _) => .error .linkLoop
  | none => .error .notFound

/-- Writes a file, which is made if there is none. -/
def write (files : Files) (here : NodeId) (path content : Bytes) : Except Refusal Files := do
  match ← files.locate true here path with
  | .found id => files.refill id content
  | .absent directory name => files.make directory name (.file freshMode content)

/-- Adds bytes to a file, which is made if there is none. -/
def append (files : Files) (here : NodeId) (path content : Bytes) : Except Refusal Files := do
  match ← files.locate true here path with
  | .found id =>
    let before ← files.contentOf id
    files.refill id (before ++ content)
  | .absent directory name => files.make directory name (.file freshMode content)

/-- A path without the slashes at its end. -/
def withoutSlashes (path : Bytes) : Bytes :=
  let bare := (path.reverse.dropWhile (· == Path.slash)).reverse
  if bare = [] then path else bare

/-- Makes a node at a path that must lead to nothing. -/
def create (files : Files) (here : NodeId) (path : Bytes) (node : NodeId → Node) :
    Except Refusal Files := do
  match ← files.locate false here (withoutSlashes path) with
  | .found _ => .error .alreadyThere
  | .absent directory name => files.make directory name (node directory)

def makeDirectory (files : Files) (here : NodeId) (path : Bytes) : Except Refusal Files :=
  files.create here path fun parent => .directory parent []

def makeLink (files : Files) (here : NodeId) (path target : Bytes) : Except Refusal Files :=
  files.create here path fun _ => .link target

/-- The entry of a path: the directory that holds it, its name and its node. -/
def entry (files : Files) (here : NodeId) (path : Bytes) :
    Except Refusal (NodeId × Bytes × NodeId) := do
  let bare := withoutSlashes path
  match ← files.locate false here bare with
  | .absent .. => .error .notFound
  | .found id =>
    let directory ← match (steps bare).reverse with
      | [] => .error .busy
      | _ :: front => do
        match ← walk files true linkBound (start here bare) front.reverse with
        | .found directory => .ok directory
        | .absent .. => .error .notFound
    match (steps bare).getLast? with
    | some name => .ok (directory, name, id)
    | none => .error .busy

/-- Removes an empty directory. -/
def removeDirectory (files : Files) (here : NodeId) (path : Bytes) : Except Refusal Files := do
  let (directory, name, id) ← files.entry here path
  match files.node? id with
  | some (.directory _ entries) =>
    if name = [Path.dot] then .error .invalid
    else if entries ≠ [] ∨ name = [Path.dot, Path.dot] then .error .notEmpty
    else .ok (files.drop directory name)
  | _ => .error .notDirectory

/-- Removes anything but a directory. -/
def removeFile (files : Files) (here : NodeId) (path : Bytes) : Except Refusal Files := do
  let (directory, name, id) ← files.entry here path
  if files.isDirectory id then .error .isDirectory else .ok (files.drop directory name)

/-- Makes the directories that a list of names leads through, from a directory on. -/
def ensureDirectories (files : Files) (here : NodeId) : List Bytes → Files × NodeId
  | [] => (files, here)
  | name :: rest =>
    match files.find here name with
    | .ok id => files.ensureDirectories id rest
    | .error _ =>
      let id := files.nodes.size
      (files.add here name (.directory here [])).ensureDirectories id rest

/-- Puts a node at a path, with the directories on the way. -/
def plant (files : Files) (here : NodeId) (path : Bytes) (node : NodeId → Node) : Files :=
  match (steps path).reverse with
  | [] => files
  | name :: front =>
    let (files, directory) := files.ensureDirectories (start here path) front.reverse
    match files.find directory name with
    | .ok id =>
      match files.node? id, node directory with
      | some (.file ..), .file mode content => files.set id (.file mode content)
      | _, _ => files
    | .error _ => files.add directory name (node directory)

end LineShell.Files
