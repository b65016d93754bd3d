import LineShell.Fault
import LineShell.Program.Script

/-!
Finding a program and running it. A name with a slash is a path; any other is looked for in the
directories of the search path in turn. Candidates that are not there are passed over, and so are
those that may not be run, of which the first kind is reported only if the second never came up.
-/
namespace LineShell.Program

/-- The longest string with its end mark, and the room for all of them. -/
def argumentBound : Nat := 131072
def argumentRoom : Nat := 2097152

/-- The search path of a session that has none. -/
def defaultSearchPath : Bytes := Bytes.ofString "/bin:/usr/bin"

/-- The directories of a search path. -/
def searchDirectories (path : Bytes) : List Bytes := Text.pieces (· == 0x3A) path

/-- A name in a directory of the search path; an empty directory is the working directory. -/
def candidate (name directory : Bytes) : Bytes :=
  if directory = [] then name else directory ++ Path.slash :: name

/-- Whether the search goes on after a candidate that was refused. -/
def passedOver : Refusal → Bool
  | .notFound | .notDirectory | .denied => true
  | _ => false

/-- Looks at the candidates in turn. `last` is the refusal of the one before, and `barred` says
that one of them may not be run. -/
def searchIn {α : Type} (attempt : Bytes → Except Refusal α) (last : Refusal) (barred : Bool) :
    List Bytes → Except Refusal α
  | [] => .error (if barred then .denied else last)
  | path :: others =>
    match attempt path with
    | .ok found => .ok found
    | .error refusal =>
      if passedOver refusal then
        searchIn attempt refusal (barred || refusal == .denied) others
      else .error refusal

/-- The directories of a search path that are used. One that is too long counts as empty, and
as nothing if it is the last. -/
def usableDirectories : List Bytes → List Bytes
  | [] => []
  | [last] => if Files.pathBound ≤ last.length then [] else [last]
  | directory :: others =>
    (if Files.pathBound ≤ directory.length then [] else directory) :: usableDirectories others

/-- The paths at which a name may be found. Of a name that is too long for any directory no more
than that matters. -/
def candidates (environment : Environment) (name : Bytes) : List Bytes :=
  if name.contains Path.slash then [name]
  else
    let path := environment.searchPath?.getD defaultSearchPath
    (usableDirectories (searchDirectories path)).map (candidate (name.take (Files.longestName + 1)))

/-- Strings for a program take the room of their bytes and an end mark each; those that it is
started with also take a pointer. The path of the program is kept beside them. -/
def fitsArguments (environment : Environment) (arguments : List Bytes) (path : Bytes)
    (lead : List Bytes) : Bool :=
  let strings := arguments ++ environment.lines
  let received := match lead with
    | [] => strings
    | lead => lead ++ strings.tail
  strings.all (·.length < argumentBound) &&
    path.length + 1 + 8 * strings.length + received.foldl (· + ·.length + 1) 0 ≤ argumentRoom

/-- The image that a name stands for in a world. -/
def search (world : World) (arguments : List Bytes) (name : Bytes) : Except Refusal Image :=
  if name = [] then .error .notFound
  else
    let attempt := fun path =>
      image world.files world.directory (fitsArguments world.environment arguments path) scriptDepth
        path []
    searchIn attempt .notFound false (candidates world.environment name)

/-- The fault of a command that could not be started. -/
def faultOf (name : Bytes) : Refusal → Fault
  | .notFound => { cause := .commandNotFound name.display }
  | .denied => { cause := .permissionDenied name.display }
  | refusal => { cause := .notSpawned name.display refusal.message }

/-- The program that an argument list starts. -/
def invocation (world : World) (arguments : List Bytes) : Except Fault Invocation :=
  let name := arguments.headD []
  if arguments.any (·.contains 0) then .error (faultOf name .nulInArgument)
  else match search world arguments name with
    | .error refusal => .error (faultOf name refusal)
    | .ok image =>
      .ok
        { image, arguments, environment := world.environment, directory := world.directory
          input := world.input }

/-- The status of a program by what came of waiting for it. -/
def awaited (name : Bytes) (wait : Option UInt32) : Except Fault Status :=
  (Option.orFault wait { cause := .notAwaited name.display }).map .ofWait

@[simp] theorem awaited_some (name : Bytes) (wait : UInt32) :
    awaited name (some wait) = .ok (.ofWait wait) := rfl

/-- What came of a command that is a program. -/
structure Launched where
  status : Except Fault Status
  world : World
  printed : List Printed

/-- Starts a program and waits for its end, which every program that was started comes to. -/
def launch (programs : Programs) (world : World) (arguments : List Bytes) : Launched :=
  match invocation world arguments with
  | .error fault => ⟨.error fault, world, []⟩
  | .ok invocation =>
    let finish := programs invocation world.files
    ⟨awaited (arguments.headD []) (some finish.wait),
      { world with files := finish.files, input := world.input.drop finish.used },
      finish.printed⟩

/-- A program takes from the input and adds nothing. -/
theorem length_input_launch_le (programs : Programs) (world : World) (arguments : List Bytes) :
    (launch programs world arguments).world.input.items.length ≤ world.input.items.length := by
  unfold launch
  split
  · exact Nat.le_refl _
  · simp [Supply.drop]

end LineShell.Program
