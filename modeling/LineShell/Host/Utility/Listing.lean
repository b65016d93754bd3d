import LineShell.Host.Utility.Copying

/-!
Utilities that show or change what is known of files beside their bytes: their names, the targets
of links, and permissions.
-/
namespace LineShell.Host.Utility

/-- How the entries of directories are listed. -/
structure Listing where
  /-- Names that begin with a dot are listed, too. -/
  hidden : Bool
  /-- The directory itself and the one it lies in are listed, too. -/
  dots : Bool
  reversed : Bool
  recursive : Bool
  /-- Directories are listed like files. -/
  plain : Bool
  /-- Names are followed by a mark for what they name; by one for directories alone. -/
  marked : Bool
  slashed : Bool

namespace Listing

/-- A name with the mark for what it names. -/
def shown (listing : Listing) (files : Files) (name : Bytes) (id : NodeId) : Bytes :=
  let mark := match files.node? id with
    | some (.directory ..) => if listing.marked || listing.slashed then "/" else ""
    | some (.link _) => if listing.marked then "@" else ""
    | _ => if listing.marked && files.modeOf id &&& 0o111 ≠ 0 && files.node? id ≠ some .sink
        then "*" else ""
  name ++ ofString mark ++ [0x0A]

def sorted (listing : Listing) (names : List (Bytes × NodeId)) : List (Bytes × NodeId) :=
  let key (entry : Bytes × NodeId) : List Nat := entry.1.map (·.toNat)
  let inOrder := names.mergeSort fun first second => !(key second < key first)
  if listing.reversed then inOrder.reverse else inOrder

/-- The entries of a directory that are listed. -/
def entries (listing : Listing) (files : Files) (id : NodeId) : List (Bytes × NodeId) :=
  match files.node? id with
  | some (.directory parent entries) =>
    let named := entries.filter fun entry =>
      listing.hidden || entry.1.head? ≠ some 0x2E
    listing.sorted (named ++
      if listing.dots then [([Path.dot], id), ([Path.dot, Path.dot], parent)] else [])
  | _ => []

/-- The list of a directory, under its name if that is wanted, and those of the directories in it,
as deep as they lie. -/
def lists (listing : Listing) (files : Files) (titled : Bool) :
    Nat → Bytes → NodeId → List Bytes
  | 0, _, _ => []
  | depth + 1, path, id =>
    let entries := listing.entries files id
    let own := (if titled then path ++ ofString ":\n" else []) ++
      entries.flatMap fun (name, id) => listing.shown files name id
    let inner := if listing.recursive then
        (entries.filter fun (name, id) => files.isDirectory id && name != [Path.dot] &&
          name != [Path.dot, Path.dot]).flatMap fun (name, id) =>
            lists listing files titled depth (inside path name) id
      else []
    own :: inner

end Listing

def ls : Utility := fun process =>
  let known := [⟨'a', "all", .nothing⟩, ⟨'A', "almost-all", .nothing⟩,
    ⟨'d', "directory", .nothing⟩, ⟨'F', "classify", .nothing⟩, ⟨'r', "reverse", .nothing⟩,
    ⟨'R', "recursive", .nothing⟩, ⟨'1', "", .nothing⟩, ⟨'p', "", .nothing⟩,
    ⟨'N', "literal", .nothing⟩]
  withSwitches process known 2 fun switches => do
    let listing : Listing :=
      { hidden := switches.has "all" || switches.has "almost-all"
        dots := switches.has "all"
        reversed := switches.has "reverse"
        recursive := switches.has "recursive"
        plain := switches.has "directory"
        marked := switches.has "classify"
        slashed := switches.hasLetter 'p' }
    let operands := if switches.operands = [] then [[Path.dot]] else switches.operands
    let follows := !(listing.plain || listing.marked)
    let (code, found) ← operands.foldlM (fun (code, found) path => do
      let first ← nodeAt process follows path
      let second ← nodeAt process false path
      match first, second with
      | .ok (id, _), _ | .error _, .ok (id, _) => return (code, found ++ [(path, id)])
      | .error refusal, .error _ =>
        complain process (refused "cannot access" path refusal)
        return (2, found)) (0, [])
    let files := (← get).files
    let isListed (entry : Bytes × NodeId) : Bool := files.isDirectory entry.2 && !listing.plain
    let plain := listing.sorted (found.filter (!isListed ·))
    let directories := listing.sorted (found.filter isListed)
    let titled := listing.recursive || 1 < operands.length
    let own := plain.flatMap fun (path, id) => listing.shown files path id
    let lists := directories.flatMap fun (path, id) =>
      listing.lists files titled (files.nodes.size + 1) path id
    let parts := (if plain = [] then [] else [own]) ++ lists
    process.put (parts.intersperse [0x0A]).flatten
    return code

/-- The last name of each path, without an ending. -/
def basename : Utility := fun process =>
  let known := [⟨'a', "multiple", .nothing⟩, ⟨'s', "suffix", .argument⟩, ⟨'z', "zero", .nothing⟩]
  withSwitches process known 1 fun switches => do
    let ending : UInt8 := if switches.has "zero" then 0 else 0x0A
    let put (ending suffix path : Bytes) : Act Unit := do
      let name := if path ≠ [] && path.all (· == Path.slash) then [Path.slash] else lastName path
      let isCut := name ≠ suffix && suffix.isSuffixOf name
      process.put ((if isCut then name.take (name.length - suffix.length) else name) ++ ending)
    let isMultiple := switches.has "multiple" || switches.has "suffix"
    match switches.operands, isMultiple with
    | [], _ =>
      complain process [ofString "missing operand"]
      advise process
      return 1
    | operands, true =>
      operands.forM (put [ending] ((switches.argument? "suffix").getD []))
      return 0
    | [path], false =>
      put [ending] [] path
      return 0
    | [path, suffix], false =>
      put [ending] suffix path
      return 0
    | _ :: _ :: extra :: _, false =>
      complain process [ofString "extra operand ", Quote.escaped extra]
      advise process
      return 1

/-- The path of each path's directory. -/
def directoryName (path : Bytes) : Bytes :=
  let bare := Files.withoutSlashes path
  let front := bare.take (bare.length - (lastName bare).length)
  if front = [] then (if Path.isAbsolute path then [Path.slash] else [Path.dot])
  else Files.withoutSlashes (front.take 1 ++ front.drop 1) |> fun path =>
    if path.all (· == Path.slash) then [Path.slash] else path

def dirname : Utility := fun process =>
  withSwitches process [⟨'z', "zero", .nothing⟩] 1 fun switches =>
    forAll process "missing operand" switches.operands fun path => do
      process.put (directoryName path ++ [if switches.has "zero" then 0 else 0x0A])
      return true

/-- The path of a node without links, dots and doubled slashes. The last name may be one that is
not there, unless `strict`. -/
def canonical (files : Files) (here : NodeId) (strict : Bool) (path : Bytes) :
    Except Refusal Bytes := do
  let parentOf (id : NodeId) : Except Refusal Bytes :=
    match files.pathOf id with
    | some path => .ok path
    | none => .error .notFound
  match ← files.locate true here path with
  | .absent directory name =>
    if strict then throw .notFound else return inside (← parentOf directory) name
  | .found id =>
    if files.isDirectory id then parentOf id
    else
      let rec search (links : Nat) (here : NodeId) (path : Bytes) : Except Refusal Bytes :=
        match files.entry here path with
        | .error refusal => .error refusal
        | .ok (directory, name, id) =>
          match links, files.node? id with
          | links + 1, some (.link target) => search links directory target
          | _, _ => (parentOf directory).map fun parent => inside parent name
      search Files.linkBound here path

def readlink : Utility := fun process =>
  let known := [⟨'f', "canonicalize", .nothing⟩, ⟨'e', "canonicalize-existing", .nothing⟩,
    ⟨'m', "canonicalize-missing", .nothing⟩, ⟨'n', "no-newline", .nothing⟩,
    ⟨'q', "quiet", .nothing⟩, ⟨'s', "silent", .nothing⟩, ⟨'v', "verbose", .nothing⟩,
    ⟨'z', "zero", .nothing⟩]
  withSwitches process known 1 fun switches => do
    let whole := switches.hasLetter 'f' || switches.hasLetter 'e'
    let ending : Bytes := if switches.has "no-newline" && switches.operands.length = 1 then []
      else if switches.has "zero" then [0] else [0x0A]
    if switches.has "no-newline" && 1 < switches.operands.length then
      complain process [ofString "ignoring --no-newline with multiple arguments"]
    forAll process "missing operand" switches.operands fun path => do
      let result ← process.look fun files here =>
        if whole then canonical files here (switches.hasLetter 'e') path
        else match files.locate false here path with
          | .ok (.found id) => match files.node? id with
            | some (.link target) => .ok target
            | _ => .error .invalid
          | .ok (.absent ..) => .error .notFound
          | .error refusal => .error refusal
      match result with
      | .ok target =>
        process.put (target ++ ending)
        return true
      | .error refusal =>
        if switches.has "verbose" then
          complain process [Quote.ifNeeded path, ofString (": " ++ refusal.reason)]
        return false

/-- The letters for permission bits. -/
def modeLetters (mode : Nat) : String :=
  let triple (shift extra : Nat) (both alone : Char) : List Char :=
    let has (bit : Nat) : Bool := (mode >>> shift) &&& bit ≠ 0
    let marked := mode &&& extra ≠ 0
    [if has 4 then 'r' else '-', if has 2 then 'w' else '-',
      if marked then (if has 1 then both else alone) else if has 1 then 'x' else '-']
  String.ofList (triple 6 0o4000 's' 'S' ++ triple 3 0o2000 's' 'S' ++ triple 0 0o1000 't' 'T')

/-- How permissions are to be changed. -/
structure Permitting where
  mode : Mode
  recursive : Bool
  silent : Bool
  /-- Each result is shown, or each that is new. -/
  verbose : Bool
  changes : Bool

/-- Changes the permissions of what lies at a path, with directories nested so deep at most. -/
def Permitting.permit (permitting : Permitting) (process : Process) : Nat → Bytes → Act Bool
  | 0, _ => return false
  | depth + 1, path => do
    match ← nodeAt process true path, ← nodeAt process false path with
    | .error refusal, second =>
      if !permitting.silent then
        complain process (if refusal = .notFound ∧ second.toBool then
            [ofString "cannot operate on dangling symlink ", Quote.always path]
          else refused "cannot access" path refusal)
      return false
    | .ok (id, node), _ =>
      let before := (← get).files.modeOf id
      let after := permitting.mode.apply node.isDirectory before
      modify fun machine => { machine with files := machine.files.setMode id after }
      let digits (mode : Nat) :=
        let digits := Numeral.digits 8 mode
        List.replicate (4 - digits.length) 0x30 ++ digits ++
          ofString (" (" ++ modeLetters mode ++ ")")
      let name := ofString "mode of " ++ Quote.always path
      if before ≠ after then
        if permitting.verbose || permitting.changes then
          process.put (name ++ ofString " changed from " ++ digits before ++ ofString " to " ++
            digits after ++ [0x0A])
      else if permitting.verbose then
        process.put (name ++ ofString " retained as " ++ digits before ++ [0x0A])
      match node, permitting.recursive with
      | .directory _ entries, true =>
        let results ← entries.mapM fun entry =>
          permitting.permit process depth (inside path entry.1)
        return results.all (· == true)
      | _, _ => return true

/-- An argument that takes permissions away, and no switch. -/
def isTaking : Bytes → Bool
  | 0x2D :: letter :: _ => (ofString "rwxXstugoa,+=01234567").contains letter
  | _ => false

def chmod : Utility := fun process =>
  let known := [⟨'c', "changes", .nothing⟩, ⟨'R', "recursive", .nothing⟩,
    ⟨none, "no-preserve-root", .nothing⟩, ⟨none, "preserve-root", .nothing⟩,
    ⟨'f', "quiet", .nothing⟩, ⟨none, "reference", .argument⟩, ⟨'f', "silent", .nothing⟩,
    ⟨'v', "verbose", .nothing⟩]
  let front := process.arguments.takeWhile (· != [0x2D, 0x2D])
  let taking := front.filter isTaking
  let others := front.filter (!isTaking ·) ++ process.arguments.drop front.length
  withSwitches { process with arguments := others } known 1 fun switches => do
    let operands := (if taking = [] then [] else [Text.joined 0x2C taking]) ++ switches.operands
    let misuse (parts : List Bytes) : Act Nat := do
      complain process parts
      advise process
      return 1
    match operands with
    | [] => misuse [ofString "missing operand"]
    | [mode] => misuse [ofString "missing operand after ", Quote.escaped mode]
    | mode :: paths =>
      match Mode.parse? mode with
      | none => misuse [ofString "invalid mode: ", Quote.escaped mode]
      | some mode =>
        let permitting : Permitting :=
          { mode
            recursive := switches.has "recursive"
            silent := switches.hasLetter 'f'
            verbose := switches.has "verbose"
            changes := switches.has "changes" }
        forAll process "" paths fun path => do
          permitting.permit process ((← get).files.nodes.size + 1) path

end LineShell.Host.Utility
