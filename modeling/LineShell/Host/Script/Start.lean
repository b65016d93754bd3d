import LineShell.Host.Script.Run

/-!
How a script begins: what its interpreter is started with, and what it knows from the beginning.
-/
namespace LineShell.Host.Script

/-- What an interpreter is asked for by its arguments. -/
structure Request where
  arguments : List Bytes
  /-- The script is the first argument itself. -/
  inline : Bool := false
  options : List Char := []

namespace Request

/-- Reads the options that the arguments begin with. -/
def read : Nat → Request → Except (List Bytes) Request
  | 0, request => .ok request
  | fuel + 1, request =>
    match request.arguments with
    | [0x2D] :: rest | [0x2D, 0x2D] :: rest => .ok { request with arguments := rest }
    | (sign :: flags) :: rest => do
      if sign ≠ 0x2D ∧ sign ≠ 0x2B then return request
      let switched (options : List Char) (letter : Char) : List Char :=
        let others := options.filter (· != letter)
        if sign = 0x2D then others ++ [letter] else others
      let request ← flags.foldlM (fun (request : Request) b => do
        let letter := Char.ofNat b.toNat
        if letter = 'c' then return { request with inline := true }
        else if letter = 'l' ∨ letter = 'o' then return request
        else if optionNames.any (·.2 == some letter) then
          return { request with options := switched request.options letter }
        else throw [ofString "Illegal option -", [b]]) { request with arguments := rest }
      match flags.contains 0x6F, rest with
      | true, name :: rest =>
        match optionNames.lookup (Bytes.display name) with
        | some letter =>
          let options := letter.toList.foldl switched request.options
          read fuel { request with arguments := rest, options }
        | none => throw [ofString "Illegal option -o ", name]
      | _, _ => read fuel request
    | _ => .ok request

end Request

/-- The variables that every script has. -/
def commonVariables : List (Bytes × Variable) :=
  [("IFS", " \t\n"), ("OPTIND", "1"), ("PPID", "4241"), ("PS1", "# "), ("PS2", "> "),
    ("PS4", "+ ")].map fun (name, value) => (ofString name, { value := some (ofString value) })

/-- Where programs are searched if nothing else is said. -/
def usualSearchPath : String := "/usr/local/sbin:/usr/local/bin:/usr/sbin:/usr/bin:/sbin:/bin"

/-- The script at its beginning. The working directory may have no path any more. -/
def Runner.start (process : Process) (files : Files) : Runner :=
  let imported := process.environment.entries.filter fun entry => isName entry.1
  let given := imported.map fun (name, value) =>
    (name, { value := some value, isExported := true : Variable })
  let searchPath := ofString "PATH"
  let store := if (given.lookup searchPath).isSome then given
    else given ++ [(searchPath, { value := some (ofString usualSearchPath) })]
  let stated := (process.environment.get? (ofString "PWD")).filter fun path =>
    Path.isAbsolute path &&
      (files.find process.directory path).toOption == some process.directory
  let place := stated.or (files.pathOf process.directory)
  let runner := commonVariables.foldl (fun (runner : Runner) (name, content) =>
    runner.put name content) { process, store, place }
  runner.put (ofString "PWD") { value := some (place.getD []), isExported := true }

namespace Engine

/-- Interprets a script: one that is an argument, that is in a file, or that comes from the
input. -/
def interpret (engine : Engine) (process : Process) : Act Status.Ending := do
  let files := (← get).files
  let runner := Runner.start process files
  if runner.place.isNone then
    process.complain [ofString "sh: 0: getcwd() failed: No such file or directory"]
  let refuse (parts : List Bytes) : Act Status.Ending := do
    process.complain (process.name :: ofString ": 0: " :: parts)
    return .exited 2
  let starting (name : Bytes) (arguments : List Bytes) (options : List Char)
      (script : Step Unit) : Act Status.Ending := do
    let runner := { runner with options, process := { process with name, arguments } }
    return (← engine.close script runner).1
  match Request.read (process.arguments.length + 1) { arguments := process.arguments } with
  | .error parts => refuse parts
  | .ok ⟨arguments, inline, options⟩ =>
    match arguments, inline with
    | [], true => refuse [ofString "-c requires an argument"]
    | [text], true => starting process.name [] options (engine.source false text)
    | text :: name :: parameters, true =>
      starting name parameters options (engine.source false text)
    | arguments, false =>
      match arguments, options.contains 's' with
      | path :: parameters, false =>
        match files.find process.directory path with
        | .error refusal =>
          refuse [ofString "cannot open ", path, ofString (": " ++ openingReason refusal)]
        | .ok id =>
          let text := (files.contentOf id).toOption.getD []
          starting path parameters options (engine.source false text)
      | parameters, _ =>
        starting process.name parameters options
          (engine.readOut false { rest := [], unfinished := true })

end Engine

end LineShell.Host.Script
