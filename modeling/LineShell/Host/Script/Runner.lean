import LineShell.Host.Process
import LineShell.Host.Script.Token
import LineShell.Host.Signal
import LineShell.Host.Utility.Basic
import LineShell.Status

/-!
A script while it runs, and the steps it is made of. A step may end the script, or leave the loop
or the function that it is in.
-/
namespace LineShell.Host.Script

structure Variable where
  /-- A variable may have been announced and not set. -/
  value : Option Bytes
  isExported : Bool := false
  isReadonly : Bool := false

/-- What a script knows and remembers. -/
structure Runner where
  /-- The process, whose arguments are the parameters of the script. -/
  process : Process
  /-- The working directory by the way that led there, unless that is unknown. -/
  place : Option Bytes := none
  store : List (Bytes × Variable) := []
  functions : List (Bytes × Statement) := []
  /-- The values that variables get back at the end of each function that is running. -/
  hidden : List (List (Bytes × Option Variable)) := []
  documents : Array Word := #[]
  aliases : List (Bytes × Bytes) := []
  /-- The processes that were started in the background, the latest first, and how they ended. -/
  jobs : List (Bytes × Status.Ending) := []
  /-- The argument that is looked at next for options, and the place in the one before it. -/
  optionIndex : Nat := 1
  optionOffset : Option Nat := none
  traps : List (Nat × Bytes) := []
  /-- Signals that the process of the script has been sent and has not looked at. -/
  pending : List Nat := []
  options : List Char := []
  status : Nat := 0
  /-- The status of the last command in a word, if there was one in this statement. -/
  inner : Nat := 0
  line : Nat := 1
  /-- The command that complaints are made by. -/
  speaker : Option Bytes := none
  /-- Something could not be printed. -/
  unwritten : Bool := false
  /-- The loops that the script is in. -/
  loops : Nat := 0
  /-- A subshell has a process of its own, which the script does not know by number. -/
  isSubshell : Bool := false

/-- Why a script does not go on with the next step. -/
inductive Stop where
  /-- The script ends with an exit code. -/
  | ended (code : Nat)
  /-- The process ends, and what the script has left to do is not done. -/
  | replaced (ending : Status.Ending)
  /-- A mistake, after which most scripts end. -/
  | failed
  /-- So many loops are left; the last of them may go on with its next round. -/
  | broken (count : Nat) (again : Bool)
  | returned

/-- Steps of a script. -/
abbrev Step := ExceptT Stop (StateT Runner Act)

/-- The options of scripts with their letters; some have none. -/
def optionNames : List (String × Option Char) :=
  [("errexit", some 'e'), ("noglob", some 'f'), ("ignoreeof", some 'I'), ("interactive", some 'i'),
    ("monitor", some 'm'), ("noexec", some 'n'), ("stdin", some 's'), ("xtrace", some 'x'),
    ("verbose", some 'v'), ("vi", some 'V'), ("emacs", some 'E'), ("noclobber", some 'C'),
    ("allexport", some 'a'), ("notify", some 'b'), ("nounset", some 'u'),
    ("privileged", some 'p'), ("nolog", none), ("debug", none)]

/-- The number of the process, as scripts see it. -/
def processNumber : Bytes := Bytes.ofString "4242"

/-- The number of the first process in the background. -/
def firstJob : Nat := 4243

def ofNat (n : Nat) : Bytes := Bytes.ofString n.repr

def ofString (s : String) : Bytes := Bytes.ofString s

namespace Runner

def content? (runner : Runner) (name : Bytes) : Option Variable := runner.store.lookup name

/-- The value of a variable. -/
def value? (runner : Runner) (name : Bytes) : Option Bytes :=
  (runner.content? name).bind (·.value)

/-- Gives a variable a new content, where it stands or behind the others. -/
def put (runner : Runner) (name : Bytes) (content : Variable) : Runner :=
  let store := if (runner.content? name).isSome then
      runner.store.map fun entry => if entry.1 == name then (name, content) else entry
    else runner.store ++ [(name, content)]
  { runner with store }

def drop (runner : Runner) (name : Bytes) : Runner :=
  { runner with store := runner.store.filter (·.1 != name) }

/-- Variables are handed on in the order of a number made of their names; among equals those that
every script has come first. -/
def bucket (name : Bytes) : Nat :=
  let first := (name.headD 0).toNat
  2 * ((16 * first + name.foldl (· + ·.toNat) 0) % 39) + if name = ofString "PATH" then 0 else 1

/-- The variables that programs get. -/
def environment (runner : Runner) : Environment :=
  let exported := runner.store.filterMap fun (name, content) =>
    if content.isExported then content.value.map fun value => (name, value) else none
  ⟨exported.mergeSort fun first second => bucket first.1 ≤ bucket second.1⟩

def isOn (runner : Runner) (option : Char) : Bool := runner.options.contains option

/-- The directories that programs are searched in. -/
def searchPath (runner : Runner) : Bytes := (runner.value? (ofString "PATH")).getD []

/-- The bytes at which unquoted values are cut. -/
def separators (runner : Runner) : Bytes :=
  (runner.value? (ofString "IFS")).getD [0x20, 0x09, newline]

/-- What parameters are joined by. -/
def between (runner : Runner) : Bytes := runner.separators.take 1

end Runner

namespace Step

/-- Does something to the machine. -/
def act {α : Type} (act : Act α) : Step α := fun runner => do return (.ok (← act), runner)

def modifyProcess (change : Process → Process) : Step Unit :=
  modify fun runner => { runner with process := change runner.process }

def setStatus (status : Nat) : Step Unit := modify fun runner => { runner with status }

/-- A complaint, with the script's name, the line, and the command that makes it. -/
def complain (parts : List Bytes) : Step Unit := do
  let runner ← get
  let speaker := match runner.speaker with
    | some name => [name, ofString ": "]
    | none => []
  Step.act (runner.process.complain
    ([runner.process.name, ofString ": ", ofNat runner.line, ofString ": "] ++ speaker ++ parts))

/-- A complaint after which the command, and most often the script, ends. -/
def fail {α : Type} (parts : List Bytes) : Step α := do
  complain parts
  throw .failed

/-- Prints something. -/
def put (bytes : Bytes) : Step Unit := do
  if bytes ≠ [] then
    match ← Step.act ((← get).process.write 1 bytes) with
    | .ok () => pure ()
    | .error _ => modify fun runner => { runner with unwritten := true }

/-- Sets a variable. -/
def assign (name value : Bytes) : Step Unit := do
  let runner ← get
  let before := (runner.content? name).getD { value := none, isExported := runner.isOn 'a' }
  if before.isReadonly then fail [name, ofString ": is read only"]
  else
    set (runner.put name { before with value := some value })
    if name = ofString "OPTIND" then
      let index := Numeral.value 10 (value.takeWhile Numeral.isDigit)
      modify fun runner => { runner with optionIndex := max 1 index, optionOffset := none }

/-- What a step comes to, where it ends included. -/
def attempt {α : Type} (step : Step α) : Step (Except Stop α) := fun runner => do
  let (result, runner) ← step runner
  return (.ok result, runner)

/-- Ends like something that was tried. -/
def conclude {α : Type} : Except Stop α → Step α
  | .ok value => return value
  | .error stop => throw stop

/-- Does a step, and something after it in any case. -/
def withAfter {α : Type} (step : Step α) (after : Runner → Runner) : Step α := do
  let result ← attempt step
  modify after
  conclude result

end Step

end LineShell.Host.Script
