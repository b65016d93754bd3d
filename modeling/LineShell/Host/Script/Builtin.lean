import LineShell.Host.Condition.Script
import LineShell.Host.Script.Expansion
import LineShell.Host.Utility.Printing

/-!
The commands that scripts carry out themselves. Each gives its status.
-/
namespace LineShell.Host.Script

abbrev Builtin := List Bytes → Step Nat

namespace Builtin

/-- The letters of some options, and what follows them. -/
def letters (known : String) : List Bytes → Step (Bytes × List Bytes)
  | [0x2D, 0x2D] :: rest => return ([], rest)
  | (0x2D :: letter :: more) :: rest => do
    match (letter :: more).find? fun b => !(ofString known).contains b with
    | some b => Step.fail [ofString "Illegal option -", [b]]
    | none =>
      let (others, rest) ← letters known rest
      return (letter :: more ++ others, rest)
  | arguments => return ([], arguments)

/-- A count that an argument gives. -/
def count (argument : Bytes) : Step Nat := do
  match (Condition.integer? argument).filter fun n => 0 ≤ n && n ≤ 0x7FFFFFFF with
  | some n => return n.toNat
  | none => Step.fail [ofString "Illegal number: ", argument]

/-- Prints its arguments with their escapes. -/
def echo : Builtin := fun arguments => do
  let (words, ending) : List Bytes × Bytes := match arguments with
    | [0x2D, 0x6E] :: rest => (rest, [])
    | _ => (arguments, [newline])
  match Escape.expand { leadingZero := true } (Utility.spaced words) with
  | (bytes, none) => Step.put (bytes ++ ending)
  | (bytes, some _) => Step.put bytes
  return 0

def printf : Builtin := fun arguments => do
  match ← letters "" arguments with
  | (_, []) => Step.fail [ofString "usage: printf format [arg ...]"]
  | (_, format :: arguments) =>
    let progress := Format.Dialect.script.print format arguments
    progress.complaints.forM Step.complain
    Step.put progress.bytes
    return progress.status

/-- Decides a condition, of which a closing bracket may be a part. -/
def test (bracketed : Bool) : Builtin := fun arguments => do
  let process := (← get).process
  let machine ← Step.act MonadState.get
  let scene : Condition.Scene :=
    ⟨machine.files, process.directory, ← Step.act (Utility.terminals process)⟩
  if bracketed && arguments.getLast? ≠ some (ofString "]") then Step.fail [ofString "missing ]"]
  else match Condition.Script.holds scene (if bracketed then arguments.dropLast else arguments) with
    | .ok holds => return if holds then 0 else 1
    | .error parts => Step.fail parts

/-- A path with the steps of another behind it, where two dots take back a step. -/
def joinedPath (place path : Bytes) : Bytes :=
  let names (path : Bytes) := (Text.pieces (· == Path.slash) path).filter (!·.isEmpty)
  let (start, front) := if Path.isAbsolute path then (path, []) else (place, names place)
  let all := (names path).foldl (fun done name =>
    if name = [Path.dot] then done
    else if name = [Path.dot, Path.dot] then done.dropLast
    else done ++ [name]) front
  let isDouble := (start.takeWhile (· == Path.slash)).length = 2
  (if isDouble then [Path.slash, Path.slash] else [Path.slash]) ++
    (all.intersperse [Path.slash]).flatten

/-- Makes a directory the working directory, by the way that leads there. -/
def stand (directory : NodeId) (place : Option Bytes) : Step Unit := do
  let before := (← get).place.getD []
  Step.modifyProcess fun process => { process with directory }
  modify fun runner =>
    let exported (value : Bytes) : Variable := { value := some value, isExported := true }
    { (runner.put (ofString "OLDPWD") (exported before)).put (ofString "PWD")
        (exported (place.getD [])) with place }

/-- The directories of a search path in which a directory of some name lies. -/
def searched (searchPath name : Bytes) : List (Bytes × Bytes) :=
  (Text.pieces (· == 0x3A) searchPath).map fun directory =>
    (directory, if directory = [] then name else directory ++ Path.slash :: name)

/-- Whether a path says by its first name where it begins. -/
def isAnchored (path : Bytes) : Bool :=
  Path.isAbsolute path || match Text.pieces (· == Path.slash) path with
    | name :: _ => name == [Path.dot] || name == [Path.dot, Path.dot]
    | [] => false

/-- Enters a directory; one that was found in the search path, or the last one again, is shown. -/
def cd : Builtin := fun arguments => do
  let (flags, rest) ← letters "LP" arguments
  let runner ← get
  let back := rest.head? = some [0x2D]
  let target := match rest with
    | [] => (runner.value? (ofString "HOME")).getD []
    | first :: _ => if back then (runner.value? (ofString "OLDPWD")).getD [] else first
  let files := (← Step.act MonadState.get).files
  let here := runner.process.directory
  let found := if isAnchored target then none
    else match runner.value? (ofString "CDPATH") with
      | some searchPath => (searched searchPath target).find? fun (_, path) =>
        (files.enter here path).toBool
      | none => none
  let (shown, goal) := match found with
    | some (directory, path) => (directory != [], path)
    | none => (false, target)
  let physical := flags.getLast? = some 0x50
  let place := if physical then none
    else if Path.isAbsolute goal then some (joinedPath [] goal)
    else runner.place.map (joinedPath · goal)
  match files.enter here (place.getD goal) with
  | .ok directory =>
    stand directory (place.or (files.pathOf directory))
    if back || shown then Step.put (((← get).place.getD []) ++ [newline])
    return 0
  | .error _ => Step.fail [ofString "can't cd to ", target]

def pwd : Builtin := fun arguments => do
  let (flags, _) ← letters "LP" arguments
  let runner ← get
  let files := (← Step.act MonadState.get).files
  let path := if flags.getLast? = some 0x50 then files.pathOf runner.process.directory
    else runner.place
  Step.put (path.getD [] ++ [newline])
  return 0

/-- A text in single quotes that a script can read back. -/
def inQuotes (text : Bytes) : Bytes :=
  let pieces := Text.pieces (· == quote) text
  let shown := pieces.map fun piece => quote :: piece ++ [quote]
  (shown.intersperse [doubleQuote, quote, doubleQuote]).flatten

/-- Prints some variables in the order of their names. -/
def listing (title : Bytes) (chosen : Variable → Bool) : Step Unit := do
  let shown := ((← get).store.filter fun entry => chosen entry.2).mergeSort fun first second =>
    Pattern.before first.1 second.1
  shown.forM fun (name, content) => Step.put <| title ++ name ++ (match content.value with
    | some value => 0x3D :: inQuotes value
    | none => []) ++ [newline]

/-- The name and the value in an argument of the form `name=value`. -/
def setting (argument : Bytes) : Step (Bytes × Option Bytes) := do
  let name := argument.takeWhile (· != 0x3D)
  if !isName name then Step.fail [name, ofString ": bad variable name"]
  else return (name, if name.length = argument.length then none
    else some (argument.drop (name.length + 1)))

/-- Marks variables, or prints those that are marked. -/
def marking (title : String) (isMarked : Variable → Bool) (mark : Variable → Variable) :
    Builtin := fun arguments => do
  let (flags, rest) ← letters "p" arguments
  if flags ≠ [] || rest.isEmpty then listing (ofString (title ++ " ")) isMarked
  else rest.forM fun argument => do
    let (name, value) ← setting argument
    match value with
    | some value => Step.assign name value
    | none => pure ()
    modify fun runner =>
      runner.put name (mark ((runner.content? name).getD { value := none }))
  return 0

def exporting : Builtin :=
  marking "export" (·.isExported) fun content => { content with isExported := true }

def readonly : Builtin :=
  marking "readonly" (·.isReadonly) fun content => { content with isReadonly := true }

/-- Makes variables that get their values back at the end of the function. -/
def locals : Builtin := fun arguments => do
  if (← get).hidden.isEmpty then Step.fail [ofString "not in a function"]
  arguments.forM fun argument => do
    let (name, value) ← setting argument
    modify fun runner => { runner with hidden := match runner.hidden with
      | frame :: others =>
        (if frame.any (·.1 == name) then frame
          else (name, runner.content? name) :: frame) :: others
      | [] => [] }
    match value with
    | some value => Step.assign name value
    | none => pure ()
  return 0

def unset : Builtin := fun arguments => do
  let (flags, rest) ← letters "vf" arguments
  rest.forM fun argument => do
    if flags.getLast? = some 0x66 then
      modify fun runner => { runner with functions := runner.functions.filter (·.1 != argument) }
    else
      let name := argument.takeWhile (· != 0x3D)
      if !isName name then Step.fail [argument, ofString ": bad variable name"]
      if ((← get).content? name).any (·.isReadonly) then
        Step.fail [name, ofString ": is read only"]
      modify fun runner => runner.drop name
  return 0

def shift : Builtin := fun arguments => do
  let wanted ← match arguments with
    | [] => pure 1
    | argument :: _ => count argument
  let before := (← get).process.arguments
  if before.length < wanted then Step.fail [ofString "can't shift that many"]
  Step.modifyProcess fun process => { process with arguments := before.drop wanted }
  return 0

/-- Turns an option on or off. There are no jobs to be watched over without a terminal. -/
def setOption (option : Char) (on : Bool) : Step Unit := do
  if on && option = 'm' then
    Step.complain [ofString "can't access tty; job control turned off"]
  else modify fun runner =>
    let others := runner.options.filter (· != option)
    { runner with options := if on then others ++ [option] else others }

/-- Prints all options, or the commands that would set them. -/
def showOptions (asCommands : Bool) : Step Unit := do
  let options := (← get).options
  if !asCommands then Step.put (ofString "Current option settings\n")
  optionNames.forM fun (name, letter) =>
    let isOn := letter.any options.contains
    let padding := String.ofList (List.replicate (16 - name.length) ' ')
    let line := if asCommands then (if isOn then "set -o " else "set +o ") ++ name
      else name ++ padding ++ if isOn then "on" else "off"
    Step.put (ofString (line ++ "\n"))

/-- Sets the options that a list of arguments begins with. What follows them is left, and whether
it is meant to be the parameters even if it is empty. -/
def takeOptions : Nat → List Bytes → Step (List Bytes × Bool)
  | 0, arguments => return (arguments, false)
  | fuel + 1, arguments => do
    match arguments with
    | [0x2D, 0x2D] :: rest => return (rest, true)
    | [0x2D] :: rest =>
      setOption 'x' false
      return (rest, false)
    | (sign :: flags) :: rest =>
      if sign ≠ 0x2D ∧ sign ≠ 0x2B then return (arguments, false)
      else
        let on := sign == 0x2D
        flags.forM fun b => do
          let letter := Char.ofNat b.toNat
          if b ≠ 0x6F then
            if optionNames.any (·.2 == some letter) then setOption letter on
            else Step.fail [ofString "Illegal option -", [b]]
        if flags.contains 0x6F then
          match rest with
          | [] =>
            showOptions !on
            return ([], false)
          | name :: rest =>
            match optionNames.lookup (Bytes.display name) with
            | some letter => letter.toList.forM (setOption · on)
            | none => Step.fail [ofString "Illegal option -o ", name]
            takeOptions fuel rest
        else takeOptions fuel rest
    | _ => return (arguments, false)

/-- Sets options and parameters, or prints all variables. -/
def options : Builtin := fun arguments => do
  if arguments.isEmpty then listing [] (·.value.isSome)
  else
    let (rest, always) ← takeOptions (arguments.length + 1) arguments
    if always || !rest.isEmpty then
      Step.modifyProcess fun process => { process with arguments := rest }
      modify fun runner => { runner with optionIndex := 1, optionOffset := none }
  return 0

/-- Prints aliases, and makes those that have a text. -/
def aliasing : Builtin := fun arguments => do
  let present (name text : Bytes) : Step Unit :=
    Step.put (name ++ 0x3D :: inQuotes text ++ [newline])
  if arguments.isEmpty then
    let shown := (← get).aliases.mergeSort fun first second =>
      Runner.bucket first.1 ≤ Runner.bucket second.1
    shown.forM fun (name, text) => present name text
  arguments.foldlM (fun status argument => do
    let name := argument.takeWhile (· != 0x3D)
    if name ≠ [] ∧ name.length < argument.length then
      let text := argument.drop (name.length + 1)
      modify fun runner =>
        let isKnown := (runner.aliases.lookup name).isSome
        { runner with aliases := if isKnown then
            runner.aliases.map fun entry => if entry.1 == name then (name, text) else entry
          else runner.aliases ++ [(name, text)] }
      return status
    else match (← get).aliases.lookup argument with
      | some text =>
        present argument text
        return status
      | none =>
        Step.act ((← get).process.complain [ofString "alias: ", argument, ofString " not found"])
        return 1) 0

def unalias : Builtin := fun arguments => do
  let (flags, rest) ← letters "a" arguments
  if flags ≠ [] then
    modify fun runner => { runner with aliases := [] }
    return 0
  else rest.foldlM (fun status name => do
    if ((← get).aliases.lookup name).isSome then
      modify fun runner =>
        { runner with aliases := runner.aliases.filter (·.1 != name) }
      return status
    else
      Step.act ((← get).process.complain [ofString "unalias: ", name, ofString " not found"])
      return 1) 0

/-- What is known of an option letter: whether it takes an argument, if there is such an option. -/
def optionTakes? (letter : UInt8) : Bytes → Option Bool
  | [] => none
  | b :: rest =>
    let takes := rest.head? == some 0x3A
    if b = letter then some takes else optionTakes? letter (if takes then rest.tail else rest)
termination_by known => known.length
decreasing_by
  refine Nat.lt_succ_of_le ?_
  split
  · exact (List.tail_sublist rest).length_le
  · exact Nat.le_refl _

/-- The option that is read next from some arguments. -/
structure OptionRead where
  /-- The letter, or a sign of what is wrong. -/
  shown : UInt8 := 0x3F
  argument : Option Bytes := none
  complaint : Option String := none
  index : Nat
  offset : Option Nat := none
  isDone : Bool := false

/-- Reads the option at a letter, given the letters behind it and the arguments behind those. -/
def OptionRead.at (known : Bytes) (letter : UInt8) (behind : Bytes) (others : List Bytes)
    (index offset : Nat) : OptionRead :=
  let quiet := known.head? = some 0x3A
  let goesOn : Option Nat := some (offset + 1)
  match optionTakes? letter known with
  | none =>
    if quiet then { argument := some [letter], index, offset := goesOn }
    else
      let complaint := "Illegal option -" ++ Bytes.display [letter] ++ "\n"
      { complaint := some complaint, index, offset := goesOn }
  | some false => { shown := letter, argument := some [], index, offset := goesOn }
  | some true =>
    match behind, others with
    | [], [] =>
      if quiet then
        { shown := 0x3A, argument := some [letter], index, offset := goesOn }
      else
        let complaint := "No arg for -" ++ Bytes.display [letter] ++ " option\n"
        { complaint := some complaint, index, offset := goesOn }
    | [], argument :: _ => { shown := letter, argument := some argument, index := index + 1 }
    | behind, _ => { shown := letter, argument := some behind, index }

/-- Reads the next option: within the argument before the index, or at the index. -/
def OptionRead.next (known : Bytes) (arguments : List Bytes) (index : Nat) (offset : Option Nat) :
    OptionRead :=
  let before := (arguments[index - 2]?).getD []
  let inside := match offset with
    | some offset => if 1 < index ∧ offset < before.length then some offset else none
    | none => none
  match inside with
  | some offset =>
    let rest := before.drop offset
    .at known (rest.headD 0) rest.tail (arguments.drop (index - 1)) index offset
  | none =>
    match arguments.drop (index - 1) with
    | [0x2D, 0x2D] :: _ => { index := index + 1, isDone := true }
    | (0x2D :: letter :: behind) :: others => .at known letter behind others (index + 1) 1
    | _ => { index, isDone := true }

/-- Reads options one by one. -/
def getopts : Builtin := fun arguments => do
  match arguments with
  | known :: name :: given =>
    let runner ← get
    let all := if given.isEmpty then runner.process.arguments else given
    let fresh := all.length + 1 < runner.optionIndex
    let next := if fresh then OptionRead.next known all 1 none
      else OptionRead.next known all runner.optionIndex runner.optionOffset
    if let some complaint := next.complaint then
      Step.act (discard (runner.process.write 2 (ofString complaint)))
    if !next.isDone then
      match next.argument with
      | some argument => Step.assign (ofString "OPTARG") argument
      | none => modify fun runner => runner.drop (ofString "OPTARG")
    Step.assign (ofString "OPTIND") (ofNat next.index)
    Step.assign name [next.shown]
    modify fun runner =>
      { runner with optionIndex := next.index, optionOffset := next.offset }
    return if next.isDone then 1 else 0
  | _ => Step.fail [ofString "Usage: getopts optstring var [arg...]"]

/-- The bytes of one line, of which a backslash may have taken the meaning from some. -/
def readLine (raw : Bool) : Nat → List Cell → Step (List Cell × Bool)
  | 0, cells => return (cells.reverse, false)
  | fuel + 1, cells => do
    let next : Step (Option UInt8) := do
      match ← Step.act ((← get).process.read 0 1) with
      | .ok [b] => return some b
      | _ => return none
    match ← next with
    | none => return (cells.reverse, false)
    | some b =>
      if b = newline then return (cells.reverse, true)
      else if b = 0 then readLine raw fuel cells
      else if b = backslash ∧ raw = false then
        match ← next with
        | none => return (cells.reverse, false)
        | some c =>
          readLine raw fuel (if c = newline then cells else .byte c true true :: cells)
      else readLine raw fuel (.byte b false true :: cells)

/-- The first field of a line, and the line after it. -/
def firstField (separators : Bytes) (cells : List Cell) : List Cell × List Cell :=
  let separates (cell : Cell) : Bool := match cell with
    | .byte b false _ => separators.contains b
    | _ => false
  let isBlank (cell : Cell) : Bool := match cell with
    | .byte b false _ => separators.contains b && (b == 0x20 || b == 0x09)
    | _ => false
  let cells := cells.dropWhile isBlank
  let field := cells.takeWhile (!separates ·)
  let rest := (cells.drop field.length).dropWhile isBlank
  match rest with
  | cell :: after => if separates cell then (field, after.dropWhile isBlank) else (field, rest)
  | [] => (field, [])

/-- The values that a line gives to so many variables; the last gets all that is left. -/
def lineValues (separators : Bytes) : Nat → List Cell → List Bytes
  | 0, _ => []
  | 1, cells =>
    let whole := (Cell.fields separators cells).map (Cell.bytes [])
    let isBlank (cell : Cell) : Bool := match cell with
      | .byte b false _ => separators.contains b && (b == 0x20 || b == 0x09)
      | _ => false
    match whole with
    | [] => [[]]
    | [field] => [field]
    | _ => [Cell.bytes [] ((cells.dropWhile isBlank).reverse.dropWhile isBlank).reverse]
  | count + 1, cells =>
    let (field, rest) := firstField separators cells
    Cell.bytes [] field :: lineValues separators count rest

/-- Reads a line into variables. -/
def read : Builtin := fun arguments => do
  let (flags, names) ← letters "r" (match arguments with
    | [0x2D, 0x70] :: _ :: rest => rest
    | _ => arguments)
  if names.isEmpty then Step.fail [ofString "arg count"]
  let available := (← Step.act MonadState.get).supply.items.length
  let (cells, whole) ← readLine (flags.contains 0x72) (available + 0x100000) []
  let separators := (← get).separators
  (names.zip (lineValues separators names.length cells)).forM fun (name, value) => do
    let bare := name.takeWhile (· != 0x3D)
    if isName bare then Step.assign bare value
    else Step.fail [name, ofString ": bad variable name"]
  return if whole then 0 else 1

def killUsage : String :=
  "Usage: kill [-s sigspec | -signum | -sigspec] [pid | job]... or\nkill -l [exitstatus]"

/-- Sends a signal to processes, of which only the script's own and those in the background are
known. The latter are thought to wait for it. -/
def send (signal : Nat) (targets : List Bytes) : Step Nat := do
  if targets.isEmpty then Step.fail [ofString killUsage]
  targets.foldlM (fun status target => do
    if target.head? = some 0x25 then Step.fail [ofString "No such job: ", target]
    let isGroup := target.head? = some 0x2D
    let number := ofNat (← count (if isGroup then target.tail else target))
    if !isGroup && number = processNumber then
      modify fun runner => { runner with pending := runner.pending ++ [signal] }
      return status
    else if !isGroup && ((← get).jobs.lookup number).isSome then
      if !isHarmless signal then
        modify fun runner => { runner with jobs := runner.jobs.map fun job =>
          if job.1 == number then (number, .killed signal) else job }
      return status
    else
      Step.complain [ofString "No such process\n"]
      return 1) 0

def kill : Builtin := fun arguments => do
  let known (name : Bytes) := (signal? name).filter fun signal =>
    signal != 0 || name.all Numeral.isDigit
  match arguments with
  | [0x2D, 0x6C] :: rest =>
    match rest with
    | [] => (("0" :: signalNames.drop 1).forM fun name => Step.put (ofString (name ++ "\n")))
    | argument :: _ =>
      let number ← count argument
      let signal := if 128 < number then number - 128 else number
      match signalNames[signal]? with
      | some name =>
        if signal = 0 then
          Step.fail [ofString "invalid signal number or exit status: ", argument]
        Step.put (ofString (name ++ "\n"))
      | none => Step.fail [ofString "invalid signal number or exit status: ", argument]
    return 0
  | [[0x2D, 0x73]] => Step.fail [ofString "No arg for -s option"]
  | [0x2D, 0x73] :: name :: targets =>
    match known name with
    | some signal => send signal targets
    | none => Step.fail [ofString "invalid signal number or name: ", name]
  | [0x2D] :: _ => Step.fail [ofString killUsage]
  | [0x2D, 0x2D] :: targets => send 15 targets
  | (0x2D :: name) :: targets =>
    match known name with
    | some signal => send signal targets
    | none => Step.fail [ofString "Illegal option -", name.take 1]
  | targets => send 15 targets

/-- Arranges what is to be done when a signal comes, or prints what has been arranged. -/
def trap : Builtin := fun arguments => do
  let (_, rest) ← letters "" arguments
  let isSignal (argument : Bytes) := argument.all Numeral.isDigit && (signal? argument).isSome
  let rec arrange (action : Option Bytes) : List Bytes → Step Nat
    | [] => return 0
    | name :: others =>
      match signal? name with
      | none => do
        Step.act ((← get).process.complain [ofString "trap: ", name, ofString ": bad trap"])
        return 1
      | some signal => do
        modify fun runner =>
          let kept := runner.traps.filter (·.1 != signal)
          { runner with traps := match action with
              | some action => (signal, action) :: kept
              | none => kept }
        arrange action others
  match rest with
  | [] =>
    (List.range signalNames.length).forM fun signal => do
      match (← get).traps.lookup signal with
      | some action => Step.put (ofString "trap -- " ++ inQuotes action ++
          ofString (" " ++ signalNames.getD signal "" ++ "\n"))
      | none => pure ()
    return 0
  | [signal] => arrange none [signal]
  | action :: signals =>
    if isSignal action then arrange none rest
    else arrange (if action = [0x2D] then none else some action) signals

/-- Prints or sets the bits that new files lack. -/
def umask : Builtin := fun arguments => do
  let (flags, rest) ← letters "S" arguments
  let mask := (← get).process.mask
  match rest with
  | [] =>
    let granted (user : String) (shift : Nat) : String :=
      let bits := (0o777 - mask) >>> shift
      user ++ "=" ++ (if bits &&& 4 ≠ 0 then "r" else "") ++
        (if bits &&& 2 ≠ 0 then "w" else "") ++ if bits &&& 1 ≠ 0 then "x" else ""
    let digits := Numeral.digits 8 mask
    Step.put <| if flags ≠ [] then
        ofString (",".intercalate [granted "u" 6, granted "g" 3, granted "o" 0] ++ "\n")
      else List.replicate (4 - digits.length) 0x30 ++ digits ++ [newline]
    return 0
  | argument :: _ =>
    let mask ← if argument.head?.any Numeral.isDigit then
        if argument.all Numeral.isOctal then pure (Numeral.value 8 argument &&& 0o777)
        else Step.fail [ofString "Illegal number: ", argument]
      else match Mode.parse? argument with
        | some mode => pure (0o777 - (mode.apply false (0o777 - mask) &&& 0o777))
        | none => Step.fail [ofString "Illegal mode: ", argument]
    Step.modifyProcess fun process => { process with mask }
    return 0

/-- Prints or sets a limit. There are none here. -/
def ulimit : Builtin := fun arguments => do
  let (_, rest) ← letters "HSatfdscmlpnvwr" arguments
  if rest.isEmpty then Step.put (ofString "unlimited\n")
  return 0

/-- Waits for processes, which have all ended. -/
def wait : Builtin := fun arguments => do
  let (_, rest) ← letters "" arguments
  rest.foldlM (fun _ argument => do
    let number ← count argument
    return match (← get).jobs.lookup (ofNat number) with
      | some ending => (Status.ofEnding ending).code.toNat
      | none => 127) 0

/-- Has nothing to say or to do. -/
def silent (flags : String) : Builtin := fun arguments => do
  let _ ← letters flags arguments
  return 0

/-- The builtins that need nothing but the script. -/
def table : List (String × Builtin) :=
  [(":", fun _ => return 0), ("true", fun _ => return 0), ("false", fun _ => return 1),
    ("echo", echo), ("printf", printf), ("test", test false), ("[", test true), ("cd", cd),
    ("chdir", cd), ("pwd", pwd), ("export", exporting), ("readonly", readonly), ("local", locals),
    ("unset", unset), ("shift", shift), ("set", options), ("read", read), ("kill", kill),
    ("trap", trap), ("umask", umask), ("ulimit", ulimit), ("wait", wait),
    ("alias", aliasing), ("unalias", unalias), ("getopts", getopts), ("jobs", silent "lp"),
    ("fg", fun _ => Step.fail [ofString "No current job"]),
    ("bg", fun _ => Step.fail [ofString "No current job"]),
    ("times", fun _ => do
      Step.put (ofString "0m0.000000s 0m0.000000s\n0m0.000000s 0m0.000000s\n")
      return 0)]

end Builtin

end LineShell.Host.Script
