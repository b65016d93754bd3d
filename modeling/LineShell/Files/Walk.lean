import LineShell.Files.Basic

/-!
Following a path through the tree. Steps are taken one directory at a time; a symbolic link on the
way is replaced by the steps of its target, at most 40 times for one path.
-/
namespace LineShell.Files

/-- The longest name and the shortest path that are refused as too long. -/
def longestName : Nat := 255
def pathBound : Nat := 4096
def linkBound : Nat := 40

/-- The steps of a path. A slash at the end asks for a directory. -/
def steps (path : Bytes) : List Bytes :=
  let names := (Text.pieces (· == Path.slash) path).filter (!·.isEmpty)
  if names ≠ [] ∧ path.getLast? = some Path.slash then names ++ [[Path.dot]] else names

/-- Where the steps of a path begin. -/
def start (here : NodeId) (path : Bytes) : NodeId :=
  if Path.isAbsolute path then root else here

/-- The node a path leads to, or the directory and the name of one that could be made. -/
inductive Place where
  | found (id : NodeId)
  | absent (directory : NodeId) (name : Bytes)
  deriving DecidableEq, Repr

/-- How a stretch without links ends. -/
inductive Stretch where
  | arrived (place : Place)
  | link (directory : NodeId) (target : Bytes) (rest : List Bytes)

/-- Takes steps up to the first link. A link at the very end is followed only if `follow`
says so. -/
def advance (files : Files) (follow : Bool) (here : NodeId) : List Bytes → Except Refusal Stretch
  | [] => .ok (.arrived (.found here))
  | step :: rest =>
    match files.node? here with
    | some (.directory parent entries) =>
      if step = [Path.dot] then advance files follow here rest
      else if step = [Path.dot, Path.dot] then advance files follow parent rest
      else if longestName < step.length then .error .nameTooLong
      else match entries.lookup step with
        | none => if rest = [] then .ok (.arrived (.absent here step)) else .error .notFound
        | some id =>
          match files.node? id with
          | some (.link target) =>
            if rest = [] ∧ follow = false then .ok (.arrived (.found id))
            else .ok (.link here target rest)
          | some _ => advance files follow id rest
          | none => .error .notFound
    | some _ => .error .notDirectory
    | none => .error .notFound

/-- Takes all steps, through at most `links` links. -/
def walk (files : Files) (follow : Bool) (links : Nat) (here : NodeId) (path : List Bytes) :
    Except Refusal Place :=
  match advance files follow here path with
  | .error refusal => .error refusal
  | .ok (.arrived place) => .ok place
  | .ok (.link directory target rest) =>
    match links with
    | 0 => .error .linkLoop
    | links + 1 => walk files follow links (start directory target) (steps target ++ rest)

/-- The place of a path, as seen from a directory. -/
def locate (files : Files) (follow : Bool) (here : NodeId) (path : Bytes) : Except Refusal Place :=
  if path.contains 0 then .error .nulInPath
  else if path = [] then .error .notFound
  else if pathBound ≤ path.length then .error .nameTooLong
  else walk files follow linkBound (start here path) (steps path)

/-- The node of a path that leads to one. -/
def find (files : Files) (here : NodeId) (path : Bytes) : Except Refusal NodeId :=
  match locate files true here path with
  | .ok (.found id) => .ok id
  | .ok (.absent ..) => .error .notFound
  | .error refusal => .error refusal

end LineShell.Files
