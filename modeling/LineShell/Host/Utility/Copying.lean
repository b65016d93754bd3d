import LineShell.Files.Change
import LineShell.Host.Utility.Removal

/-!
Utilities that take files to other places, or give them other names.
-/
namespace LineShell.Host.Utility

/-- The last name of a path. -/
def lastName (path : Bytes) : Bytes :=
  ((Files.withoutSlashes path).reverse.takeWhile (· != Path.slash)).reverse

/-- From where to where a file is taken. -/
structure Route where
  source : Bytes
  goal : Bytes

/-- What is wrong with the operands, and whether to say where to read on. -/
structure Misuse where
  complaint : List Bytes
  advises : Bool := false

/-- The routes that operands describe: into the directory that is the last of them or that a switch
names, or from the first to the second. A lone operand goes to the present directory, unless
`needsGoal`; a link to a directory may count as no directory. -/
def routes (process : Process) (switches : Switches) (needsGoal follows : Bool) :
    Act (Except Misuse (List Route)) := do
  let operands := switches.operands
  let into (directory : Bytes) (sources : List Bytes) : Except Misuse (List Route) :=
    .ok (sources.map fun source => ⟨source, inside directory (lastName source)⟩)
  let enter (path : Bytes) : Act (Except Refusal NodeId) := process.look fun files here => do
    if follows || path.getLast? = some Path.slash then files.enter here path
    else match ← files.locate false here path with
      | .found id => if files.isDirectory id then return id else throw .notDirectory
      | .absent .. => throw .notFound
  let missing (text : String) (operand : List Bytes) : Except Misuse (List Route) :=
    .error ⟨ofString text :: operand, true⟩
  match operands, switches.argument? "target-directory" with
  | [], _ => return missing "missing file operand" []
  | sources, some directory =>
    match ← enter directory with
    | .ok _ => return into directory sources
    | .error refusal => return .error ⟨refused "target directory" directory refusal, false⟩
  | [source], none =>
    if needsGoal || switches.has "no-target-directory" then
      return missing "missing destination file operand after " [Quote.always source]
    else return into [Path.dot] [source]
  | first :: second :: others, none =>
    if switches.has "no-target-directory" then
      match others with
      | [] => return .ok [⟨first, second⟩]
      | extra :: _ => return missing "extra operand " [Quote.always extra]
    else
      let goal := operands.getLastD []
      match ← enter goal with
      | .ok _ => return into goal operands.dropLast
      | .error refusal =>
        if others = [] then return .ok [⟨first, second⟩]
        else return .error ⟨refused "target" goal refusal, false⟩

/-- Takes files along the routes that the operands describe. -/
def alongRoutes (process : Process) (switches : Switches) (needsGoal follows : Bool)
    (act : Route → Act Bool) : Act Nat := do
  match ← routes process switches needsGoal follows with
  | .error misuse =>
    complain process misuse.complaint
    if misuse.advises then advise process
    return 1
  | .ok routes => routes.foldlM (fun code route => return if ← act route then code else 1) 0

/-- Two paths with a sign between them. -/
def linked (sign : String) (first second : Bytes) : Bytes :=
  Quote.always first ++ ofString sign ++ Quote.always second

def complainOfSame (process : Process) (route : Route) : Act Bool := do
  complain process [linked " and " route.source route.goal, ofString " are the same file"]
  return false

/-- What is done where a file would be overwritten. -/
inductive Overwriting where
  | allowed
  | skipped
  | asked
  deriving DecidableEq, Repr

/-- What the last of the switches that bear on overwriting asks for. -/
def Overwriting.ofSwitches (switches : Switches) : Overwriting :=
  switches.given.foldl (fun before (switch, _) => match switch.letter with
    | some 'f' => .allowed
    | some 'n' => .skipped
    | some 'i' => .asked
    | _ => before) .allowed

/-- Goes on with overwriting a file unless it is not to be; it may be skipped instead. -/
def Overwriting.check (overwriting : Overwriting) (process : Process) (goal : Bytes)
    (skip act : Act Bool) : Act Bool := do
  match overwriting with
  | .allowed => act
  | .skipped => skip
  | .asked =>
    if ← asks process [ofString "overwrite ", Quote.always goal] then act else return false

/-- Moves a file. -/
def moveOne (process : Process) (overwriting : Overwriting) (verbose : Bool) (route : Route) :
    Act Bool := do
  let refuse (parts : List Bytes) : Act Bool := do
    complain process parts
    return false
  let move : Act Bool := do
    match ← change process fun files here => files.rename here route.source route.goal with
    | .ok () =>
      if verbose then
        process.put (ofString "renamed " ++ linked " -> " route.source route.goal ++ [0x0A])
      return true
    | .error .invalid =>
      refuse [ofString "cannot move ",
        linked " to a subdirectory of itself, " route.source route.goal]
    | .error refusal =>
      let reason := ofString (": " ++ refusal.reason)
      if [Refusal.notEmpty, .alreadyThere, .isDirectory].contains refusal then
        refuse [ofString "cannot overwrite ", Quote.always route.goal, reason]
      else refuse [ofString "cannot move ", linked " to " route.source route.goal, reason]
  let skip : Act Bool := refuse [ofString "not replacing ", Quote.always route.goal]
  let behind := (← nodeAt process true route.source).toOption.map (·.1)
  match ← nodeAt process false route.source, ← nodeAt process false route.goal with
  | .error refusal, _ => refuse (refused "cannot stat" route.source refusal)
  | .ok _, .error _ => move
  | .ok (id, node), .ok (other, target) =>
    if id = other ∨ behind = some other then complainOfSame process route
    else overwriting.check process route.goal skip do
      if node.isDirectory && !target.isDirectory then
        refuse [ofString "cannot overwrite non-directory ",
          linked " with directory " route.goal route.source]
      else if !node.isDirectory && target.isDirectory then
        refuse [ofString "cannot overwrite directory ", Quote.always route.goal,
          ofString " with non-directory"]
      else move

def mv : Utility := fun process =>
  let known := [⟨'b', "backup", .nothing⟩, ⟨'f', "force", .nothing⟩,
    ⟨'i', "interactive", .nothing⟩, ⟨none, "no-copy", .nothing⟩, ⟨'n', "no-clobber", .nothing⟩,
    ⟨'T', "no-target-directory", .nothing⟩, ⟨none, "strip-trailing-slashes", .nothing⟩,
    ⟨'t', "target-directory", .argument⟩, ⟨'u', "update", .nothing⟩,
    ⟨'v', "verbose", .nothing⟩]
  withSwitches process known 1 fun switches =>
    alongRoutes process switches true true
      (moveOne process (.ofSwitches switches) (switches.has "verbose"))

/-- Gives a file another name, or makes a link to it. -/
def linkOne (process : Process) (symbolic force verbose : Bool) (route : Route) :
    Act Bool := do
  let refuse (parts : List Bytes) : Act Bool := do
    complain process parts
    return false
  let source ← nodeAt process false route.source
  let target ← nodeAt process false route.goal
  match symbolic, source with
  | false, .error refusal => refuse (refused "failed to access" route.source refusal)
  | false, .ok (_, .directory ..) =>
    refuse [Quote.ifNeeded route.source, ofString ": hard link not allowed for directory"]
  | _, _ =>
    let isSame := match source, target with
      | .ok (id, _), .ok (other, _) => id == other
      | _, _ => false
    if force && isSame then return ← complainOfSame process route
    if force then
      if let .ok (_, .directory ..) := target then
        return ← refuse [Quote.ifNeeded route.goal, ofString ": cannot overwrite directory"]
      discard <| change process fun files here => files.removeFile here route.goal
    let result ← if symbolic then
        if route.source = [] then pure (.error .notFound)
        else change process fun files here => files.makeLink here route.goal route.source
      else change process fun files here => files.makeName here route.source route.goal
    match result with
    | .ok () =>
      let sign := if symbolic then " -> " else " => "
      if verbose then process.put (linked sign route.goal route.source ++ [0x0A])
      return true
    | .error refusal =>
      let reason := ofString (": " ++ refusal.reason)
      let (kind, sign, isShort) : String × String × Bool :=
        if symbolic then ("symbolic link ", " -> ", refusal ≠ .nameTooLong && route.source ≠ [])
        else ("hard link ", " => ", refusal = .alreadyThere)
      refuse [ofString ("failed to create " ++ kind),
        if isShort then Quote.always route.goal else linked sign route.goal route.source, reason]

def ln : Utility := fun process =>
  let known := [⟨'b', "backup", .nothing⟩, ⟨'d', "directory", .nothing⟩,
    ⟨'n', "no-dereference", .nothing⟩, ⟨'T', "no-target-directory", .nothing⟩,
    ⟨'f', "force", .nothing⟩, ⟨'i', "interactive", .nothing⟩,
    ⟨'t', "target-directory", .argument⟩, ⟨'L', "logical", .nothing⟩,
    ⟨'P', "physical", .nothing⟩, ⟨'s', "symbolic", .nothing⟩, ⟨'v', "verbose", .nothing⟩]
  withSwitches process known 1 fun switches =>
    alongRoutes process switches false (!switches.has "no-dereference")
      (linkOne process (switches.has "symbolic") (switches.has "force") (switches.has "verbose"))

/-- How files are to be copied. -/
structure Copying where
  recursive : Bool
  /-- Links are followed instead of copied. -/
  follows : Bool
  overwriting : Overwriting
  verbose : Bool
  /-- Links are made instead of copies. -/
  symbolic : Bool
  hard : Bool

namespace Copying

/-- Puts the copy of a file, which is no directory, at a path. -/
def place (copying : Copying) (process : Process) (node : Node) (route : Route) :
    Act (Except Refusal Unit) :=
  if copying.symbolic then
    change process fun files here => files.makeLink here route.goal route.source
  else if copying.hard then
    change process fun files here => files.makeName here route.source route.goal
  else change process fun files here => do
    match node with
    | .link target =>
      let bare := (files.removeFile here route.goal).toOption.getD files
      bare.makeLink here route.goal target
    | _ =>
      match ← files.locate true here route.goal, node with
      | .found id, .program _ => return files.set id node
      | .found id, .file _ content => files.refill id content
      | .found id, _ => files.refill id []
      | .absent directory name, node =>
        files.make directory name (match node with
          | .file mode content => .file (mode &&& (Mode.all - process.mask)) content
          | .program name => .program name
          | _ => .file Files.freshMode [])

/-- Copies what lies at a path, with directories nested so deep at most. -/
def copy (copying : Copying) (process : Process) : Nat → Route → Act Bool
  | 0, _ => return false
  | depth + 1, route => do
    let refuse (parts : List Bytes) : Act Bool := do
      complain process parts
      return false
    let announce : Act Unit := do
      if copying.verbose then
        process.put (linked " -> " route.source route.goal ++ [0x0A])
    let target ← nodeAt process true route.goal
    match ← nodeAt process copying.follows route.source with
    | .error refusal => refuse (refused "cannot stat" route.source refusal)
    | .ok (id, .directory _ entries) =>
      if !copying.recursive then
        refuse [ofString "-r not specified; omitting directory ", Quote.always route.source]
      else
        let made ← match target with
          | .ok (_, .directory ..) => pure (.ok ())
          | .ok _ => pure (.error [ofString "cannot overwrite non-directory ",
              linked " with directory " route.goal route.source])
          | .error _ => do
            let result ← change process fun files here => files.makeDirectory here route.goal
            pure (result.mapError (refused "cannot create directory" route.goal))
        match made with
        | .error parts => refuse parts
        | .ok () =>
          if target.toBool = false then announce
          let results ← entries.mapM fun (name, _) =>
            copy copying process depth ⟨inside route.source name, inside route.goal name⟩
          let isOwn ← process.look fun files here => match files.find here route.goal with
            | .ok goal => files.isWithin id files.nodes.size goal
            | .error _ => false
          if isOwn then
            refuse [ofString "cannot copy a directory, ",
              linked ", into itself, " route.source route.goal]
          else return results.all (· == true)
    | .ok (id, node) =>
      let result : Act Bool := do
        match ← copying.place process node route with
        | .ok () =>
          announce
          return true
        | .error refusal =>
          let bare ← process.look fun files here =>
            files.locate false here (Files.withoutSlashes route.goal)
          let isSlashed := route.goal.getLast? = some Path.slash ∧ bare.toBool
          refuse (refused "cannot create regular file" route.goal
            (if isSlashed then .notDirectory else refusal))
      match target, ← nodeAt process false route.goal with
      | .ok (other, found), _ =>
        if id = other then complainOfSame process route
        else if found.isDirectory then
          refuse [ofString "cannot overwrite directory ", Quote.always route.goal,
            ofString " with non-directory"]
        else copying.overwriting.check process route.goal (return true) result
      | .error _, .ok _ =>
        refuse [ofString "not writing through dangling symlink ", Quote.always route.goal]
      | .error _, .error _ => result

end Copying

def cp : Utility := fun process =>
  let known := [⟨'a', "archive", .nothing⟩, ⟨none, "attributes-only", .nothing⟩,
    ⟨'b', "backup", .nothing⟩, ⟨none, "copy-contents", .nothing⟩,
    ⟨'L', "dereference", .nothing⟩, ⟨'f', "force", .nothing⟩, ⟨'H', "", .nothing⟩,
    ⟨'i', "interactive", .nothing⟩, ⟨'l', "link", .nothing⟩, ⟨'n', "no-clobber", .nothing⟩,
    ⟨'P', "no-dereference", .nothing⟩, ⟨'d', "", .nothing⟩,
    ⟨'T', "no-target-directory", .nothing⟩, ⟨none, "one-file-system", .nothing⟩,
    ⟨none, "parents", .nothing⟩, ⟨'p', "preserve", .nothing⟩, ⟨'r', "recursive", .nothing⟩,
    ⟨'R', "recursive", .nothing⟩, ⟨none, "remove-destination", .nothing⟩,
    ⟨none, "strip-trailing-slashes", .nothing⟩, ⟨'s', "symbolic-link", .nothing⟩,
    ⟨'t', "target-directory", .argument⟩, ⟨'u', "update", .nothing⟩,
    ⟨'v', "verbose", .nothing⟩]
  withSwitches process known 1 fun switches => do
    let recursive := switches.has "recursive" || switches.has "archive"
    let keepsLinks := recursive || switches.hasLetter 'P' || switches.hasLetter 'd'
    let overwriting := Overwriting.ofSwitches switches
    let copying : Copying :=
      { recursive
        follows := switches.has "dereference" || !keepsLinks
        overwriting
        verbose := switches.has "verbose"
        symbolic := switches.has "symbolic-link"
        hard := switches.has "link" }
    if overwriting = .skipped then
      complain process [ofString "warning: behavior of -n is non-portable and may change in ",
        ofString "future; use --update=none instead"]
    alongRoutes process switches true true fun route => do
      copying.copy process ((← get).files.nodes.size + 1) route

end LineShell.Host.Utility
