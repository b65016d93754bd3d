import LineShell.Host.Utility.Files

/-!
The utility that removes files, and directories with all that lies in them.
-/
namespace LineShell.Host.Utility

/-- How files are to be removed. -/
structure Removal where
  recursive : Bool
  force : Bool
  /-- Directories may be removed if nothing lies in them. -/
  emptied : Bool
  verbose : Bool
  /-- Each removal has to be agreed to. -/
  asks : Bool

/-- What became of something that was to be removed. -/
inductive Removal.Outcome where
  | gone
  /-- It was not agreed to. -/
  | kept
  | failed
  deriving DecidableEq, Repr

/-- What kind of file a node is. -/
def kindOf : Node → String
  | .directory .. => "directory"
  | .file _ [] => "regular empty file"
  | .file .. | .program _ => "regular file"
  | .link _ => "symbolic link"
  | .sink => "character special file"

namespace Removal

def refuse (process : Process) (path : Bytes) (refusal : Refusal) : Act Outcome := do
  complain process (refused "cannot remove" path refusal)
  return .failed

/-- Whether a question about a path is answered with consent. -/
def agrees (removal : Removal) (process : Process) (act : String) (path : Bytes) : Act Bool :=
  if removal.asks then Utility.asks process [ofString (act ++ " "), Quote.always path]
  else return true

/-- Removes one thing in which nothing lies. -/
def excise (removal : Removal) (process : Process) (isDirectory : Bool) (path : Bytes) :
    Act Outcome := do
  let remove := if isDirectory then Files.removeDirectory else Files.removeFile
  match ← change process fun files here => remove files here path with
  | .error refusal => refuse process path refusal
  | .ok () =>
    if removal.verbose then
      process.put (ofString (if isDirectory then "removed directory " else "removed ") ++
        Quote.always path ++ [0x0A])
    return .gone

/-- The complaint about a directory that an operand must not name. -/
def forbidden? (files : Files) (here : NodeId) (path : Bytes) : Option (List (List Bytes)) :=
  let last := (Files.steps (Files.withoutSlashes path)).getLast?
  if last = some [Path.dot] || last = some [Path.dot, Path.dot] then
    some [[ofString "refusing to remove '.' or '..' directory: skipping ", Quote.always path]]
  else if (files.find here path).toOption = some Files.root then
    some [[ofString "it is dangerous to operate recursively on ", Quote.always path,
        ofString (if path = [Path.slash] then "" else " (same as '/')")],
      [ofString "use --no-preserve-root to override this failsafe"]]
  else none

/-- Removes what lies at a path, which may be an operand or lie below one, with directories nested
so deep at most. -/
def remove (removal : Removal) (process : Process) : Nat → Bool → Bytes → Act Outcome
  | 0, _, _ => return .failed
  | depth + 1, isOperand, path => do
    let files := (← get).files
    let here := process.directory
    let found := match files.locate false here path with
      | .ok (.found id) => (files.node? id).elim (Except.error Refusal.notFound) .ok
      | .ok (.absent ..) => .error Refusal.notFound
      | .error refusal => .error refusal
    match found with
    | .error refusal =>
      if removal.force && (refusal = .notFound || refusal = .notDirectory) then return .gone
      else refuse process path refusal
    | .ok (.directory _ entries) =>
      if !removal.recursive && !(removal.emptied && entries.isEmpty) then
        refuse process path (if removal.emptied then .notEmpty else .isDirectory)
      else match if isOperand then forbidden? files here path else none with
        | some complaints =>
          complaints.forM (complain process)
          return .failed
        | none =>
          if entries.isEmpty then
            if ← removal.agrees process "remove directory" path then
              removal.excise process true path
            else return .kept
          else if ← removal.agrees process "descend into directory" path then
            let outcomes ← entries.mapM fun entry =>
              remove removal process depth false (inside path entry.1)
            if outcomes.contains .failed then return .failed
            else if outcomes.contains .kept then return .kept
            else if ← removal.agrees process "remove directory" path then
              removal.excise process true path
            else return .kept
          else return .kept
    | .ok node =>
      if ← removal.agrees process ("remove " ++ kindOf node) path then
        removal.excise process false path
      else return .kept

end Removal

/-- Whether to ask about each removal, or once about all of them. -/
inductive Caution where
  | never
  | once
  | always
  deriving DecidableEq, Repr

/-- The words for a caution, those for the least first. -/
def Caution.words : List (List String) :=
  [["never", "no", "none"], ["once"], ["always", "yes"]]

/-- The caution that a switch asks for, if it asks for any; a switch may be wrong about it. -/
def Caution.ofSwitch (switch : Switch) (argument : Bytes) : Except Unit (Option Caution) :=
  match switch.letter, switch.word with
  | some 'f', _ => .ok (some .never)
  | some 'i', _ => .ok (some .always)
  | some 'I', _ => .ok (some .once)
  | _, "interactive" =>
    if argument = [] then .ok (some .always)
    else match chosen? argument Caution.words with
      | some place => .ok (some ([never, once, always].getD place always))
      | none => .error ()
  | _, _ => .ok none

/-- Shows how to remove a file whose name looks like switches. -/
def adviseDashed (process : Process) : Act Unit := do
  let dashed := process.arguments.filter fun argument =>
    argument.head? == some 0x2D && argument.length > 1
  for name in dashed do
    let isThere ← process.look fun files here => match files.locate false here name with
      | .ok (.found _) => true
      | _ => false
    if isThere then
      let spelled := if name.any Quote.isSpecial then Quote.ifNeeded name else name
      process.complain [ofString "Try '", process.name, ofString " ./", spelled,
        ofString "' to remove the file ", Quote.always name, ofString "."]
      return

def rm : Utility := fun process => do
  let known := [⟨'f', "force", .nothing⟩, ⟨none, "interactive", .optional⟩,
    ⟨none, "one-file-system", .nothing⟩, ⟨none, "no-preserve-root", .nothing⟩,
    ⟨none, "preserve-root", .optional⟩, ⟨none, "-presume-input-tty", .nothing⟩,
    ⟨'r', "recursive", .nothing⟩, ⟨'R', "recursive", .nothing⟩, ⟨'d', "dir", .nothing⟩,
    ⟨'v', "verbose", .nothing⟩, ⟨'i', "", .nothing⟩, ⟨'I', "", .nothing⟩]
  match Switches.read known false process.arguments with
  | .error parts =>
    complain process parts
    adviseDashed process
    advise process
    return 1
  | .ok switches =>
    let mut caution := Caution.never
    let mut force := false
    for (switch, argument) in switches.given do
      match Caution.ofSwitch switch argument with
      | .error () =>
        misses process "interactive" argument Caution.words
        return 1
      | .ok none => pure ()
      | .ok (some wanted) =>
        caution := wanted
        force := switch.letter = some 'f' || (force && wanted = .never)
      if switch.word = "preserve-root" && argument ≠ [] && argument ≠ ofString "all" then
        complain process [ofString "unrecognized --preserve-root argument: ",
          Quote.escaped argument]
        return 1
    if switches.has "no-preserve-root" &&
        !process.arguments.contains (ofString "--no-preserve-root") then
      complain process [ofString "you may not abbreviate the --no-preserve-root option"]
      return 1
    let removal : Removal :=
      { recursive := switches.has "recursive"
        force
        emptied := switches.has "dir"
        verbose := switches.has "verbose"
        asks := caution = .always }
    let count := switches.operands.length
    if force ∧ switches.operands = [] then return 0
    if caution = .once ∧ (removal.recursive ∨ 3 < count) then
      let things := count.repr ++ (if count = 1 then " argument" else " arguments")
      let manner := if removal.recursive then " recursively" else ""
      if !(← asks process [ofString ("remove " ++ things ++ manner)]) then return 0
    forAll process "missing operand" switches.operands fun path => do
      let deepest := (← get).files.nodes.size + 1
      return (← removal.remove process deepest true (withOneSlash path)) ≠ .failed

end LineShell.Host.Utility
