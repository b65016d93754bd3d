import LineShell.Host.Mode
import LineShell.Host.Utility.Basic

/-!
Utilities that make and remove files.
-/
namespace LineShell.Host.Utility

/-- Carries out a change of the files as seen from where a process stands. -/
def change (process : Process) (act : Files → NodeId → Except Refusal Files) :
    Act (Except Refusal Unit) :=
  Machine.change fun files => act files process.directory

/-- A path without the slashes at its end but one. -/
def withOneSlash (path : Bytes) : Bytes :=
  let bare := Files.withoutSlashes path
  if bare.length < path.length ∧ bare.getLast? ≠ some Path.slash then bare ++ [Path.slash] else bare

/-- The path of a name in a directory. -/
def inside (directory name : Bytes) : Bytes :=
  if directory.getLast? = some Path.slash then directory ++ name
  else directory ++ Path.slash :: name

/-- Whether a time is written as pairs of digits for month, day, hour and minute, after a year and
before seconds that may be left out. -/
def isStamp (time : Bytes) : Bool :=
  let digits := time.takeWhile Numeral.isDigit
  let seconds := time.drop digits.length
  let pair (bytes : Bytes) (place low high : Nat) : Bool :=
    let value := Numeral.value 10 ((bytes.drop place).take 2)
    low ≤ value && value ≤ high
  let year := digits.length - 8
  [8, 10, 12].contains digits.length && pair digits year 1 12 && pair digits (year + 2) 1 31 &&
    pair digits (year + 4) 0 23 && pair digits (year + 6) 0 59 &&
    match seconds with
    | [] => true
    | [0x2E, tens, ones] =>
      Numeral.isDigit tens && Numeral.isDigit ones && pair [tens, ones] 0 0 60
    | _ => false

/-- Makes a file unless it is not to be made, and gives it the present time. -/
def touchOne (process : Process) (creates follows : Bool) (path : Bytes) :
    Act (Except (List Bytes) Unit) := do
  if path = [0x2D] then return .ok ()
  let place ← process.look fun files here => match files.locate follows here path with
    | .ok (.found _) => Except.ok ()
    | .ok (.absent ..) => .error Refusal.notFound
    | .error refusal => .error refusal
  match place with
  | .ok () => return .ok ()
  | .error refusal =>
    if creates && follows then
      match ← change process fun files here => files.write here path [] with
      | .ok () => return .ok ()
      | .error refusal =>
        let bare := Files.withoutSlashes path
        let reached ← process.look fun files here => (files.locate true here bare).toBool
        let act := if bare.length < path.length ∧ reached then "setting times of"
          else "cannot touch"
        return .error (refused act path refusal)
    else if !creates && refusal = .notFound then return .ok ()
    else return .error (refused "setting times of" path refusal)

def touch : Utility := fun process =>
  let known := [⟨none, "time", .argument⟩, ⟨'c', "no-create", .nothing⟩,
    ⟨'d', "date", .argument⟩, ⟨'r', "reference", .argument⟩,
    ⟨'h', "no-dereference", .nothing⟩, ⟨'a', "", .nothing⟩, ⟨'f', "", .nothing⟩,
    ⟨'m', "", .nothing⟩, ⟨'t', "", .argument⟩]
  let times := [["atime", "access", "use"], ["mtime", "modify"]]
  withSwitches process known 1 fun switches => do
    for (switch, argument) in switches.given do
      if switch.word = "time" && (chosen? argument times).isNone then
        misses process "time" argument times
        return 1
      if switch.letter = some 't' && !isStamp argument then
        complain process [ofString "invalid date format ", Quote.escaped argument]
        return 1
    if let some reference := switches.argument? "reference" then
      let follows := !switches.has "no-dereference"
      let found ← process.look fun files here => match files.locate follows here reference with
        | .ok (.found _) => Except.ok ()
        | .ok (.absent ..) => .error Refusal.notFound
        | .error refusal => .error refusal
      if let .error refusal := found then
        complain process (refused "failed to get attributes of" reference refusal)
        return 1
    forEach process "missing file operand" switches.operands
      (touchOne process (!switches.has "no-create") (!switches.has "no-dereference"))

/-- The paths of the directories that a path leads through before its last name. -/
def ancestors (path : Bytes) : List Bytes :=
  (List.range path.length).filterMap fun length =>
    let front := path.take length
    let rest := path.drop length
    if rest.head? = some Path.slash ∧ front.getLast?.any (· != Path.slash) ∧
      rest.any (· != Path.slash) then some front
    else none

/-- Makes a directory; with its ancestors, if it is so wanted, and then it may be there already. -/
def makeOne (process : Process) (whole verbose : Bool) (path : Bytes) :
    Act (Except (List Bytes) Unit) := do
  let make (path : Bytes) : Act (Except Refusal Unit) := do
    let result ← change process fun files here => files.makeDirectory here path
    if verbose ∧ result.toBool then
      process.put (process.name ++ ofString ": created directory " ++ Quote.always path ++ [0x0A])
    return result
  let enter (path : Bytes) : Act (Except Refusal NodeId) :=
    process.look fun files here => files.enter here path
  let refusal (path : Bytes) (refusal : Refusal) : Except (List Bytes) Unit :=
    .error [ofString "cannot create directory ", Quote.escaped path,
      ofString (": " ++ refusal.reason)]
  for path in if whole then ancestors path else [] do
    if let .error reason ← enter path then
      if let .error first ← make path then
        return refusal path (if reason = .notFound then first else reason)
  match ← make path with
  | .ok () => return .ok ()
  | .error reason =>
    return if whole && (← enter path).toBool then .ok () else refusal path reason

def mkdir : Utility := fun process =>
  let known := [⟨'Z', "context", .optional⟩, ⟨'m', "mode", .argument⟩,
    ⟨'p', "parents", .nothing⟩, ⟨'v', "verbose", .nothing⟩]
  withSwitches process known 1 fun switches => do
    if let some mode := switches.argument? "mode" then
      if switches.operands ≠ [] ∧ (Mode.parse? mode).isNone then
        complain process [ofString "invalid mode ", Quote.escaped mode]
        return 1
    forEach process "missing operand" switches.operands
      (makeOne process (switches.has "parents") (switches.has "verbose"))

/-- Whether a path ends in a slash behind a link to a directory. -/
def endsBehindLink (files : Files) (here : NodeId) (path : Bytes) : Bool :=
  path.getLast? == some Path.slash && (files.enter here path).toBool &&
    match files.locate false here (Files.withoutSlashes path) with
    | .ok (.found id) => !files.isDirectory id
    | _ => false

def rmdir : Utility := fun process =>
  let known := [⟨none, "ignore-fail-on-non-empty", .nothing⟩, ⟨'p', "parents", .nothing⟩,
    ⟨'v', "verbose", .nothing⟩]
  withSwitches process known 1 fun switches =>
    let remove (isParent : Bool) (path : Bytes) : Act (Except (List Bytes) Unit) := do
      if switches.has "verbose" then
        process.put (process.name ++ ofString ": removing directory, " ++ Quote.always path ++
          [0x0A])
      match ← change process fun files here => files.removeDirectory here path with
      | .ok () => return .ok ()
      | .error refusal =>
        if refusal = .notEmpty && switches.has "ignore-fail-on-non-empty" then return .ok ()
        else if isParent && refusal != .notDirectory then
          return .error (refused "failed to remove directory" path refusal)
        else if ← process.look fun files here => endsBehindLink files here path then
          return .error [ofString "failed to remove ", Quote.always path,
            ofString ": Symbolic link not followed"]
        else return .error (refused "failed to remove" path refusal)
    forEach process "missing operand" switches.operands fun path => do
      let fronts := if switches.has "parents" then (ancestors path).reverse else []
      let mut result ← remove false path
      for front in fronts do
        if result.toBool then result ← remove true front
      return result

end LineShell.Host.Utility
