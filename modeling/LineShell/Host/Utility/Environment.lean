import LineShell.Host.Splitting
import LineShell.Host.Utility.Basic

/-!
Utilities that change the environment for a program, or show it.
-/
namespace LineShell.Host.Utility

/-- A word that sets a variable. -/
def isSetting (word : Bytes) : Bool := word.contains 0x3D

def setting (word : Bytes) : Bytes × Bytes :=
  let name := word.takeWhile (· != 0x3D)
  (name, word.drop (name.length + 1))

/-- The switches for a changed environment. -/
def environmentSwitches : List Switch :=
  [⟨'i', "ignore-environment", .nothing⟩, ⟨'0', "null", .nothing⟩, ⟨'u', "unset", .argument⟩,
    ⟨'C', "chdir", .argument⟩, ⟨none, "default-signal", .optional⟩,
    ⟨none, "ignore-signal", .optional⟩, ⟨none, "block-signal", .optional⟩,
    ⟨none, "list-signal-handling", .nothing⟩, ⟨'v', "debug", .nothing⟩,
    ⟨'S', "split-string", .argument⟩]

/-- A text that is to be split, between the arguments before and behind it. -/
structure Unsplit where
  before : List Bytes
  text : Bytes
  behind : List Bytes

/-- The first text to be split among arguments, unless other words come first. The fuel bounds the
number of arguments. -/
def unsplit? (before : List Bytes) : Nat → List Bytes → Option Unsplit
  | 0, _ => none
  | fuel + 1, arguments =>
    match Switches.first? environmentSwitches arguments with
    | .ok (some (given, rest)) =>
      let used := arguments.take (arguments.length - rest.length)
      match given.getLast? with
      | some (⟨some 'S', _, _⟩, text) =>
        let letters := (used.headD []).takeWhile (· != 0x53)
        let isAlone := letters.length < 2 || letters.take 2 == [0x2D, 0x2D]
        some ⟨before ++ if isAlone then [] else [letters], text, rest⟩
      | _ => unsplit? (before ++ used) fuel rest
    | _ => none

/-- Lines that show some texts, behind a title and others like it. -/
def shownList (title others : String) (texts : List Bytes) : List (List Bytes) :=
  texts.zipIdx.map fun (text, place) =>
    [ofString (if place = 0 then title else others), Quote.escaped text]

/-- Splits all texts among the arguments that are to be split, and says so if that is wanted. -/
def splitArguments (process : Process) : Nat → List Bytes → Act (Except (List Bytes) (List Bytes))
  | 0, arguments => return .ok arguments
  | fuel + 1, arguments => do
    match unsplit? [] (arguments.length + 1) arguments with
    | none => return .ok arguments
    | some unsplit =>
      match Splitting.split process.environment unsplit.text with
      | .error parts => return .error parts
      | .ok parts =>
        if unsplit.before.any fun argument => argument.head? = some 0x2D && argument.contains 0x76
        then
          process.complain [ofString "split -S:  ", Quote.escaped unsplit.text]
          (shownList " into:    " "     &    " parts).forM process.complain
        splitArguments process fuel (unsplit.before ++ parts ++ unsplit.behind)

/-- The environment without some variables and with some settings. -/
def environmentFor (switches : Switches) (cleared : Bool) (environment : Environment)
    (settings : List Bytes) : Environment :=
  let unwanted := switches.given.filterMap fun (switch, name) =>
    if switch.word = "unset" then some name else none
  let start : Environment := if cleared then ⟨[]⟩ else environment
  settings.foldl (fun environment word =>
    environment.set (setting word).1 (setting word).2) (unwanted.foldl (·.unset ·) start)

/-- Names that cannot be those of variables. -/
def unsettable? (switches : Switches) : Option Bytes :=
  (switches.given.find? fun (switch, name) =>
    switch.word == "unset" && (name == [] || name.contains 0x3D)).map (·.2)

/-- What keeps switches from being used together. -/
def conflict? (switches : Switches) (command : List Bytes) : Option (List Bytes) :=
  if switches.has "null" ∧ command ≠ [] then
    some [ofString "cannot specify --null (-0) with command"]
  else if switches.has "chdir" ∧ command = [] then
    some [ofString "must specify command with --chdir (-C)"]
  else none

/-- Says what is done to the environment and which program is run. -/
def report (process : Process) (switches : Switches) (cleared : Bool)
    (settings command : List Bytes) : Act Unit := do
  if cleared then process.complain [ofString "cleaning environ"]
  else switches.given.forM fun (switch, name) => do
    if switch.word = "unset" then process.complain [ofString "unset:    ", name]
  settings.forM fun word => process.complain [ofString "setenv:   ", word]
  if let some directory := switches.argument? "chdir" then
    process.complain [ofString "chdir:    ", Quote.always directory]
  if let name :: _ := command then
    process.complain [ofString "executing: ", name]
    command.zipIdx.forM fun (argument, place) =>
      process.complain [ofString ("   arg[" ++ place.repr ++ "]= "), Quote.escaped argument]

/-- Ends with the exit code for what is wrong with the request. -/
def cancelled (process : Process) (parts : List Bytes) (advises : Bool) :
    Act (Except Nat Process) := do
  complain process parts
  if advises then advise process
  return .error 125

/-- The process that goes on as the program that the switches and operands ask for, or the exit
code if there is none. -/
def changed (process : Process) (switches : Switches) : Act (Except Nat Process) := do
  let dashed := switches.operands.head? = some [0x2D]
  let operands := if dashed then switches.operands.tail else switches.operands
  let settings := operands.takeWhile isSetting
  let cleared := dashed || switches.has "ignore-environment"
  let environment := environmentFor switches cleared process.environment settings
  let command := operands.dropWhile isSetting
  if let some parts := conflict? switches command then
    return ← cancelled process parts true
  if let some name := if cleared then none else unsettable? switches then
    return ← cancelled process [ofString "cannot unset ", Quote.escaped name,
      ofString (": " ++ Refusal.invalid.reason)] false
  if switches.has "debug" then report process switches cleared settings command
  match command with
  | [] =>
    let ending : UInt8 := if switches.has "null" then 0 else 0x0A
    process.put (environment.lines.flatMap (· ++ [ending]))
    return .error 0
  | name :: arguments =>
    let target := (switches.argument? "chdir").getD [Path.dot]
    match ← process.look fun files here => files.enter here target with
    | .ok directory => return .ok { process with name, arguments, environment, directory }
    | .error refusal =>
      cancelled process (refused "cannot change directory to" target refusal) false

/-- The process that goes on as the wanted program, or the exit code if there is none. -/
def env (process : Process) : Act (Except Nat Process) := do
  match ← splitArguments process (process.arguments.length + 8) process.arguments with
  | .error parts => cancelled process parts false
  | .ok arguments =>
    match Switches.read environmentSwitches true arguments with
    | .ok switches => changed process switches
    | .error parts =>
      let isGap := parts.any fun part => part.length == 1 && part.all Numeral.isBlank
      if !isGap then cancelled process parts true
      else
        complain process parts
        cancelled process [ofString "use -[v]S to pass options in shebang lines"] true

/-- Prints the whole environment, or the values of some variables. -/
def printenv : Utility := fun process => do
  match Switches.read [⟨'0', "null", .nothing⟩] true process.arguments with
  | .error parts =>
    complain process parts
    advise process
    return 2
  | .ok switches =>
    let ending : UInt8 := if switches.has "null" then 0 else 0x0A
    if switches.operands = [] then
      process.put (process.environment.lines.flatMap (· ++ [ending]))
      return 0
    else
      switches.operands.foldlM (fun code name => do
        match (process.environment.get? name).filter fun _ => !name.contains 0x3D with
        | some value =>
          process.put (value ++ [ending])
          return code
        | none => return 1) 0

end LineShell.Host.Utility
