import LineShell.Host.Script.Builtin
import LineShell.Host.Script.Engine

/-!
Simple commands: a name is looked for among the special builtins, the functions of the script, the
other builtins and the programs of the search path.
-/
namespace LineShell.Host.Script

/-- What a name stands for. -/
inductive Meaning where
  | special
  | function (body : Statement)
  | builtin
  | program

/-- The builtins that carry out other commands. -/
def carriers : List String :=
  ["command", "eval", ".", "exec", "exit", "return", "break", "continue", "type", "hash"]

def isBuiltin (name : Bytes) : Bool :=
  carriers.contains (Bytes.display name) ||
    (Builtin.table.lookup (Bytes.display name)).isSome

/-- What a name stands for; functions may be passed over. -/
def meaning (runner : Runner) (functions : Bool) (name : Bytes) : Meaning :=
  if specialBuiltins.contains (Bytes.display name) then .special
  else match if functions then runner.functions.lookup name else none with
    | some body => .function body
    | none => if isBuiltin name then .builtin else .program

/-- The paths at which a name may be a program. Of those in the search path the first has to be a
file that can be run. -/
def programPaths (runner : Runner) (files : Files) (name : Bytes) : Except Refusal (List Bytes) :=
  if name.contains Path.slash then .ok [name]
  else
    let paths := (Program.searchDirectories runner.searchPath).map (Program.candidate name)
    let rec find (last : Refusal) : List Bytes → Except Refusal (List Bytes)
      | [] => .error last
      | path :: others =>
        match Program.runnable files runner.process.directory path with
        | .ok _ => .ok (path :: others)
        | .error .notFound | .error .notDirectory => find last others
        | .error refusal => find refusal others
    find .notFound paths

/-- Why a program cannot be run, and the status that says so. -/
def programReason : Refusal → String × Nat
  | .notFound | .notDirectory => ("not found", 127)
  | .linkLoop => (Refusal.linkLoop.reason, 127)
  | .nameTooLong => (Refusal.nameTooLong.reason, 127)
  | refusal => (refusal.reason, 126)

/-- The first of some paths that a process can go on as. -/
def readyAt (files : Files) (process : Process) (last : Refusal) :
    List Bytes → Except Refusal Ready
  | [] => .error last
  | path :: others =>
    match Ready.at files process true path with
    | .ok ready => .ok ready
    | .error .notFound | .error .notDirectory => readyAt files process last others
    | .error refusal => readyAt files process refusal others

namespace Engine

/-- Runs a program with the variables that the script has exported. -/
def program (engine : Engine) (last : Bool) (name : Bytes) (arguments : List Bytes) :
    Step Unit := do
  let runner ← get
  let process := { runner.process with name, arguments, environment := runner.environment }
  let files := (← Step.act MonadState.get).files
  match programPaths runner files name with
  | .error refusal =>
    Step.complain [name, ofString (": " ++ (programReason refusal).1)]
    Step.setStatus 127
  | .ok paths =>
    match readyAt files process .notFound paths with
    | .error refusal =>
      Step.complain [name, ofString (": " ++ (programReason refusal).1)]
      Step.setStatus (programReason refusal).2
    | .ok ready =>
      let ending ← Step.act (engine.run ready)
      if last && runner.traps.isEmpty then throw (.replaced ending)
      else
        settle ending
        engine.deliver

/-- Goes on as another program, or only keeps the redirections. -/
def exec (engine : Engine) (arguments : List Bytes) : Step Unit := do
  match arguments with
  | [] => Step.setStatus 0
  | name :: arguments =>
    let runner ← get
    let process := { runner.process with name, arguments, environment := runner.environment }
    let files := (← Step.act MonadState.get).files
    let paths := if name.contains Path.slash then [name]
      else (Program.searchDirectories runner.searchPath).map (Program.candidate name)
    match readyAt files process .notFound paths with
    | .ok ready => throw (.replaced (← Step.act (engine.run ready)))
    | .error refusal =>
      Step.complain [name, ofString (": " ++ (programReason refusal).1)]
      throw (.ended (programReason refusal).2)

/-- Carries out a file as a part of the script. -/
def dot (engine : Engine) (arguments : List Bytes) : Step Unit := do
  match arguments with
  | [] => Step.setStatus 0
  | name :: _ =>
    let runner ← get
    let here := runner.process.directory
    let files := (← Step.act MonadState.get).files
    let isFile (path : Bytes) : Bool := (files.read here path).toBool
    let path ← if name.contains Path.slash then pure name
      else match ((Program.searchDirectories runner.searchPath).map
          (Program.candidate name)).find? isFile with
        | some path => pure path
        | none => Step.fail [name, ofString ": not found"]
    match files.read here path with
    | .error refusal =>
      Step.fail [ofString "cannot open ", path, ofString (": " ++ openingReason refusal)]
    | .ok text =>
      let speaker := (← get).speaker
      modify fun runner => { runner with speaker := some path }
      let act := Step.withAfter (engine.source false text) fun runner => { runner with speaker }
      match ← Step.attempt act with
      | .error .returned => pure ()
      | result => Step.conclude result

/-- Says what a name stands for: by the path or the name alone, or in words. -/
def describe (inWords : Bool) (name : Bytes) : Step Nat := do
  let say (words : String) (bare : Bytes) : Step Nat := do
    Step.put ((if inWords then name ++ ofString (" is " ++ words) else bare) ++ [newline])
    return 0
  let runner ← get
  if keywords.contains (Bytes.display name) then say "a shell keyword" name
  else if let some text := runner.aliases.lookup name then
    if inWords then Step.put (name ++ ofString " is an alias for " ++ text ++ [newline])
    else Step.put (ofString "alias " ++ name ++ 0x3D :: Builtin.inQuotes text ++ [newline])
    return 0
  else match meaning runner true name with
    | .special => say "a special shell builtin" name
    | .function .. => say "a shell function" name
    | .builtin => say "a shell builtin" name
    | .program =>
      let files := (← Step.act MonadState.get).files
      match programPaths runner files name with
      | .ok (path :: _) =>
        if files.has runner.process.directory path then
          say (Bytes.display path) path
        else
          if inWords then Step.put (name ++ ofString ": not found\n")
          return 127
      | _ =>
        if inWords then Step.put (name ++ ofString ": not found\n")
        return 127

/-- Leaves loops. -/
def leave (again : Bool) (arguments : List Bytes) : Step Unit := do
  let wanted ← match arguments with
    | [] => pure 1
    | argument :: _ => Builtin.count argument
  if wanted = 0 then Step.fail [ofString "Illegal number: 0"]
  let loops := (← get).loops
  Step.setStatus 0
  if 0 < loops then throw (.broken (min wanted loops) again)

/-- So many functions may run within each other. -/
def callBound : Nat := 1000

/-- Calls a function: the arguments are its parameters. -/
def call (engine : Engine) (tested : Bool) (body : Statement) (arguments : List Bytes) :
    Step Unit := do
  let before ← get
  if callBound ≤ before.hidden.length then
    Step.fail [ofString ("Maximum function recursion depth (" ++ callBound.repr ++ ") reached")]
  Step.modifyProcess fun process => { process with arguments }
  modify fun runner => { runner with
    hidden := [] :: runner.hidden, loops := 0, optionIndex := 1, optionOffset := none }
  let restore (runner : Runner) : Runner :=
    let runner := (runner.hidden.headD []).foldl (fun runner (name, content) =>
      match content with
      | some content => runner.put name content
      | none => runner.drop name) runner
    { runner with
      hidden := runner.hidden.tail, loops := before.loops
      optionIndex := before.optionIndex, optionOffset := before.optionOffset
      process := { runner.process with arguments := before.process.arguments } }
  match ← Step.attempt (Step.withAfter (engine.statement false tested body) restore) with
  | .error .returned => pure ()
  | result => Step.conclude result

/-- Carries out a builtin. -/
def builtin (engine : Engine) (tested : Bool) (name : Bytes) (arguments : List Bytes) :
    Step Unit := do
  match Bytes.display name with
  | "eval" => engine.source tested (Utility.spaced arguments)
  | "." => engine.dot arguments
  | "exec" => engine.exec arguments
  | "exit" =>
    match arguments with
    | [] => throw (.ended (← get).status)
    | argument :: _ => throw (.ended ((← Builtin.count argument) % 256))
  | "return" =>
    match arguments with
    | [] => throw .returned
    | argument :: _ =>
      Step.setStatus (← Builtin.count argument)
      throw .returned
  | "hash" =>
    let (_, names) ← Builtin.letters "rv" arguments
    Step.setStatus (← names.foldlM (fun status name => do
      match programPaths (← get) (← Step.act MonadState.get).files name with
      | .ok _ => return status
      | .error _ =>
        Step.complain [name, ofString ": not found"]
        return 1) 0)
  | "break" => leave false arguments
  | "continue" => leave true arguments
  | "type" =>
    Step.setStatus (← arguments.foldlM (fun status name => do
      return max status (← describe true name)) 0)
  | "command" =>
    match ← Builtin.letters "pvV" arguments with
    | (flags, name :: _) => Step.setStatus (← describe (flags.contains 0x56) name)
    | (_, []) => Step.setStatus 0
  | text =>
    match Builtin.table.lookup text with
    | some builtin => Step.setStatus (← builtin arguments)
    | none => Step.setStatus 127

/-- Carries out a builtin under its name. Of a mistake in one that is not special only the status
is left. -/
def namedBuiltin (engine : Engine) (tested special : Bool) (name : Bytes)
    (arguments : List Bytes) : Step Unit := do
  let speaker := (← get).speaker
  modify fun runner => { runner with speaker := some name }
  let result ← Step.attempt (engine.builtin tested name arguments)
  let runner ← get
  if runner.unwritten then
    Step.complain [name, ofString ": I/O error"]
    Step.setStatus (runner.status ||| 1)
  modify fun runner => { runner with speaker, unwritten := false }
  match result with
  | .error .failed => if special then throw .failed else Step.setStatus 2
  | result => Step.conclude result

/-- Sets variables one after the other. Those for a single command are exported. -/
def assign (engine : Engine) (exported : Bool) (assignments : List (Bytes × Word)) :
    Step (List (Bytes × Bytes)) :=
  assignments.mapM fun (name, word) => do
    let value ← joined engine.capture true word
    Step.assign name value
    if exported then
      modify fun runner => runner.put name { value := some value, isExported := true }
    return (name, value)

/-- Shows a command before it is carried out, where that is wanted. -/
def trace (descriptors : List (Nat × Nat)) (values : List (Bytes × Bytes))
    (fields : List Bytes) : Step Unit := do
  let runner ← get
  if runner.isOn 'x' then
    let sign := (runner.value? (ofString "PS4")).getD []
    let words := values.map (fun (name, value) => name ++ 0x3D :: value) ++ fields
    match descriptors.lookup 2 with
    | some number =>
      Step.act (discard (Machine.write number
        (sign ++ Utility.spaced words ++ [newline])))
    | none => pure ()

/-- Carries out a command with its assignments, once its redirections stand. -/
def command (engine : Engine) (last tested plain : Bool) (descriptors : List (Nat × Nat))
    (assignments : List (Bytes × Word)) (fields : List Bytes) : Step Unit := do
  match fields with
  | [] =>
    trace descriptors (← engine.assign false assignments) []
    Step.setStatus (← get).inner
  | name :: arguments =>
    match meaning (← get) plain name, plain with
    | .special, true =>
      let exported := name == ofString "exec" && !arguments.isEmpty
      trace descriptors (← engine.assign exported assignments) fields
      engine.namedBuiltin tested true name arguments
    | meaning, _ =>
      let runner ← get
      let before := assignments.map fun (name, _) => (name, runner.content? name)
      let restore (runner : Runner) : Runner := before.foldl (fun runner (name, content) =>
        match content with
        | some content => runner.put name content
        | none => runner.drop name) runner
      let act : Step Unit := do
        trace descriptors (← engine.assign true assignments) fields
        match meaning with
        | .function body => engine.call tested body arguments
        | .program => engine.program last name arguments
        | _ => engine.namedBuiltin tested false name arguments
      if assignments.isEmpty then act else Step.withAfter act restore

/-- The fields of a command. Arguments that set variables are not cut where the command takes
them so. -/
def commandFields (engine : Engine) : List Bytes → List Word → Step (List Bytes)
  | before, [] => return before
  | before, word :: words => do
    let declares := match before with
      | name :: _ => ["export", "readonly", "local"].contains (Bytes.display name)
      | [] => false
    let fields ← match if declares then assignment? word else none with
      | some (name, value) => do
        pure [name ++ 0x3D :: (← joined engine.capture true value)]
      | none => Script.fields engine.capture word
    engine.commandFields (before ++ fields) words

/-- The command that is meant by one that only passes functions over, if that is all it does. -/
def withoutPrefix (plain : Bool) : List Bytes → Bool × List Bytes
  | first :: second :: rest =>
    if first ≠ ofString "command" then (plain, first :: second :: rest)
    else if second = ofString "-p" ∨ second = ofString "--" then
      match rest with
      | [] => (plain, [first])
      | rest => (false, rest)
    else if second.head? = some 0x2D then (plain, first :: second :: rest)
    else withoutPrefix false (second :: rest)
  | fields => (plain, fields)

/-- Carries out a simple command. -/
def simple (engine : Engine) (last tested : Bool) (line : Nat)
    (assignments : List (Bytes × Word)) (words : List Word) (redirections : List Redirection) :
    Step Unit := do
  modify fun runner => { runner with line, inner := 0 }
  let (plain, fields) := withoutPrefix true (← engine.commandFields [] words)
  let isSpecial := plain && fields.head?.any fun name =>
    specialBuiltins.contains (Bytes.display name)
  let before := (← get).process.descriptors
  let restore (runner : Runner) : Runner :=
    { runner with process := { runner.process with descriptors := before } }
  let targets ← targets engine.capture redirections
  match ← Step.attempt (targets.forM (·.redirect)) with
  | .error _ =>
    modify restore
    Step.setStatus 2
    if isSpecial then throw .failed
  | .ok () =>
    let act := engine.command last tested plain before assignments fields
    if fields = [ofString "exec"] then act else Step.withAfter act restore
  engine.deliver

end Engine

end Script

end LineShell.Host
