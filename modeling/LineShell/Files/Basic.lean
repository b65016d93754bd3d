import LineShell.Path

/-!
A tree of files. Nodes have numbers that outlive their names, so a directory that has been removed
can still be the working directory of a session; it is then a directory without a path (`pathOf`).
-/
namespace LineShell

/-- Why the system refuses something. -/
inductive Refusal where
  | notFound
  | tooManyArguments
  | badFormat
  | badDescriptor
  | denied
  | busy
  | alreadyThere
  | notDirectory
  | isDirectory
  | invalid
  | nameTooLong
  | notEmpty
  | linkLoop
  | nulInPath
  | nulInArgument
  deriving DecidableEq, Repr

namespace Refusal

/-- The wording of a refusal. -/
def reason : Refusal → String
  | .notFound => "No such file or directory"
  | .tooManyArguments => "Argument list too long"
  | .badFormat => "Exec format error"
  | .badDescriptor => "Bad file descriptor"
  | .denied => "Permission denied"
  | .busy => "Device or resource busy"
  | .alreadyThere => "File exists"
  | .notDirectory => "Not a directory"
  | .isDirectory => "Is a directory"
  | .invalid => "Invalid argument"
  | .nameTooLong => "File name too long"
  | .notEmpty => "Directory not empty"
  | .linkLoop => "Too many levels of symbolic links"
  | .nulInPath => "file name contained an unexpected NUL byte"
  | .nulInArgument => "nul byte found in provided data"

/-- The number the system gives a refusal; bytes that no path or argument may hold never
reach it. -/
def number? : Refusal → Option Nat
  | .notFound => some 2
  | .tooManyArguments => some 7
  | .badFormat => some 8
  | .badDescriptor => some 9
  | .denied => some 13
  | .busy => some 16
  | .alreadyThere => some 17
  | .notDirectory => some 20
  | .isDirectory => some 21
  | .invalid => some 22
  | .nameTooLong => some 36
  | .notEmpty => some 39
  | .linkLoop => some 40
  | .nulInPath | .nulInArgument => none

/-- The wording of a refusal with its number. -/
def message (refusal : Refusal) : String :=
  match refusal.number? with
  | some number => refusal.reason ++ " (os error " ++ number.repr ++ ")"
  | none => refusal.reason

end Refusal

/-- The number of a node. -/
abbrev NodeId := Nat

/-- What a node of the tree is. -/
inductive Node where
  /-- A directory, the directory it lies in, and its entries. -/
  | directory (parent : NodeId) (entries : List (Bytes × NodeId))
  /-- A file with its permission bits. -/
  | file (mode : Nat) (content : Bytes)
  /-- A file that the system can run by itself. -/
  | program (name : String)
  /-- A symbolic link. -/
  | link (target : Bytes)
  /-- A place that reads as empty and takes whatever is written to it. -/
  | sink
  deriving DecidableEq, Repr

def Node.isDirectory : Node → Bool
  | .directory .. => true
  | _ => false

structure Files where
  nodes : Array Node
  deriving DecidableEq

namespace Files

/-- The node that every absolute path begins at. -/
def root : NodeId := 0

/-- A tree that holds nothing but its root. -/
def bare : Files := ⟨#[.directory root []]⟩

def node? (files : Files) (id : NodeId) : Option Node := files.nodes[id]?

def isDirectory (files : Files) (id : NodeId) : Bool := (files.node? id).any Node.isDirectory

/-- The tree with another node in place of one. -/
def set (files : Files) (id : NodeId) (node : Node) : Files :=
  ⟨files.nodes.setIfInBounds id node⟩

/-- An entry for a node under a name in a directory. -/
def enlist (files : Files) (directory : NodeId) (name : Bytes) (id : NodeId) : Files :=
  match files.node? directory with
  | some (.directory parent entries) =>
    files.set directory (.directory parent (entries ++ [(name, id)]))
  | _ => files

/-- A new node under a name in a directory. -/
def add (files : Files) (directory : NodeId) (name : Bytes) (node : Node) : Files :=
  (⟨files.nodes.push node⟩ : Files).enlist directory name files.nodes.size

/-- The tree without the entry of a name; the node stays for those who hold its number. -/
def drop (files : Files) (directory : NodeId) (name : Bytes) : Files :=
  match files.node? directory with
  | some (.directory parent entries) =>
    files.set directory (.directory parent (entries.filter fun entry => entry.1 != name))
  | _ => files

/-- The name of a node in a directory. -/
def nameIn (files : Files) (directory id : NodeId) : Option Bytes :=
  match files.node? directory with
  | some (.directory _ entries) => (entries.find? fun entry => entry.2 == id).map (·.1)
  | _ => none

/-- The names on the way from the root to a directory, through at most `depth` directories. -/
def namesTo (files : Files) : Nat → NodeId → Option (List Bytes)
  | 0, id => if id = root then some [] else none
  | depth + 1, id =>
    if id = root then some []
    else match files.node? id with
      | some (.directory parent _) => do
        let names ← files.namesTo depth parent
        let name ← files.nameIn parent id
        return names ++ [name]
      | _ => none

/-- The path of a directory, which a removed directory lacks. -/
def pathOf (files : Files) (id : NodeId) : Option Bytes :=
  (files.namesTo files.nodes.size id).map fun names =>
    if names = [] then [Path.slash] else names.flatMap (Path.slash :: ·)

end Files

end LineShell
