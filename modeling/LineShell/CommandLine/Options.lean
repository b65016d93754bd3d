import LineShell.CommandLine.Flag
import LineShell.Path
import LineShell.Text.Bare

/-!
Reading the arguments the shell is started with. They are taken from left to right and the first
thing out of the ordinary ends it: a request for help or for the version, or a problem.
-/
namespace LineShell

structure Options where
  config : Option Bytes := none
  history : Option Bytes := none
  noBanner : Bool := false
  deriving DecidableEq, Repr

/-- What is wrong with an argument list. -/
inductive Options.Problem where
  | unexpected (argument : String) (suggestion : Option Flag) (used : List Flag)
  | missingValue (flag : Flag)
  | repeated (flag : Flag)
  | unexpectedValue (flag : Flag) (value : String) (used : List Flag)
  deriving DecidableEq, Repr

/-- What the shell is asked to do. -/
inductive Options.Request where
  | run (options : Options)
  | help
  | version
  | refuse (problem : Options.Problem)
  deriving DecidableEq, Repr

namespace Options

/-- The line that shows how the shell is started. -/
def usageLine (parts : List String) : String :=
  "Usage: mish " ++ (if parts.isEmpty then "[OPTIONS]" else String.intercalate " " parts)

def usage (used : List Flag) : String := usageLine (used.map Flag.shown)

/-- All flags that choose how a session runs, as alternatives. -/
def alternatives : String :=
  "<" ++ String.intercalate "|" (Flag.settings.map Flag.shown) ++ ">"

/-- The usage for a flag that got a value too many, after others: these stand for all of their
kind. -/
def usageAmong (flag : Flag) (used : List Flag) : String :=
  if used.isEmpty then usage [flag]
  else if Flag.settings.contains flag then usageLine [alternatives]
  else usageLine [flag.shown, alternatives]

def helpText : String :=
  "A minimal interactive command interpreter\n\n" ++ usage [] ++ "\n\nOptions:\n" ++
    "      --config <PATH>   Configuration file to use instead of ~/.mishrc\n" ++
    "      --history <PATH>  History file to use for interactive sessions\n" ++
    "      --no-banner       Do not print the startup banner\n" ++
    "  -h, --help            Print help\n" ++
    "  -V, --version         Print version\n"

def versionText : String := "mish 0.1.0\n"

/-- What is wrong, in one line. What the user wrote is shown bare. -/
def Problem.summary : Problem → String
  | .unexpected argument .. => "unexpected argument '" ++ Text.bare argument ++ "' found"
  | .missingValue flag => "a value is required for '" ++ flag.shown ++ "' but none was supplied"
  | .repeated flag => "the argument '" ++ flag.shown ++ "' cannot be used multiple times"
  | .unexpectedValue flag value _ =>
    "unexpected value '" ++ Text.bare value ++ "' for '" ++ flag.shown ++
      "' found; no more were expected"

/-- The paragraphs between the summary and the pointer to help. -/
def Problem.details : Problem → List String
  | .unexpected _ suggestion used =>
    let tips := suggestion.toList.map fun flag =>
      "  tip: a similar argument exists: '--" ++ flag.name ++ "'"
    tips ++ [usage used]
  | .missingValue _ => []
  | .repeated _ => [usage []]
  | .unexpectedValue flag _ used => [usageAmong flag used]

def Problem.text (problem : Problem) : String :=
  String.intercalate "\n\n"
    (["error: " ++ problem.summary] ++ problem.details ++ ["For more information, try '--help'.\n"])

/-- What has been read so far. -/
structure Progress where
  options : Options := {}
  used : List Flag := []
  /-- The last flag that takes a value from the argument after it, until it is settled. -/
  pending : Option (Flag × Option Bytes) := none

namespace Progress

/-- Gives a flag its value, which must be the first and must not be empty. -/
def give (progress : Progress) (flag : Flag) (value : Bytes) : Except Request Progress :=
  if progress.used.contains flag then .error (.refuse (.repeated flag))
  else if value = [] then .error (.refuse (.missingValue flag))
  else
    let options := match flag with
      | .config => { progress.options with config := some value }
      | _ => { progress.options with history := some value }
    .ok { options, used := progress.used ++ [flag], pending := none }

/-- Settles the last flag. Whatever comes after it does so, except for a mistake. -/
def settle (progress : Progress) : Except Request Progress :=
  match progress.pending with
  | none => .ok progress
  | some (flag, none) => .error (.refuse (.missingValue flag))
  | some (flag, some value) => { progress with pending := none }.give flag value

/-- A flag without a value. -/
def raise (progress : Progress) (flag : Flag) : Except Request Progress := do
  let progress ← progress.settle
  match flag with
  | .help => .error .help
  | .version => .error .version
  | _ =>
    if progress.used.contains flag then .error (.refuse (.repeated flag))
    else .ok { progress with
      options := { progress.options with noBanner := true }, used := progress.used ++ [flag] }

/-- The flags that count as used when a mistake comes. The last one does if it has a value, even
an empty one, and one that is given twice does not. -/
def usedBefore (progress : Progress) : List Flag :=
  match progress.pending with
  | some (flag, some _) =>
    if progress.used.contains flag then progress.used.erase flag else progress.used ++ [flag]
  | _ => progress.used

/-- The problem with a long name that no flag has. -/
def unknown (progress : Progress) (name : Bytes) : Problem :=
  let suggestion := Flag.nearest? (Utf8.lossy name)
  let used := progress.usedBefore
  let extra := suggestion.toList.filter fun flag => !used.contains flag
  .unexpected ("--" ++ Bytes.display name) suggestion (used ++ extra)

/-- An argument that begins with two dashes. -/
def long (progress : Progress) (argument : Bytes) : Except Request Progress :=
  let name := argument.takeWhile (· != 0x3D)
  let value : Option Bytes :=
    if name.length < argument.length then some (argument.drop (name.length + 1)) else none
  match (Utf8.decode? name).bind Flag.ofName? with
  | none => .error (.refuse (progress.unknown name))
  | some flag =>
    match flag.takesValue, value with
    | true, some value => do (← progress.settle).give flag value
    | true, none => do return { ← progress.settle with pending := some (flag, none) }
    | false, some value =>
      .error (.refuse (.unexpectedValue flag value.display progress.used))
    | false, none => progress.raise flag

/-- What follows a single dash. Every flag of one letter ends the reading, so the first letter
decides; bytes that begin no letter are shown with all that follows them. -/
def letters (progress : Progress) (bytes : Bytes) : Except Request Progress :=
  match Utf8.units .nothing bytes with
  | some letter :: _ =>
    match Flag.ofLetter? letter with
    | some flag => progress.raise flag
    | none => .error (.refuse (.unexpected ("-" ++ String.singleton letter) none []))
  | _ => .error (.refuse (.unexpected ("-" ++ bytes.display) none []))

/-- An argument that is no flag: a value that is waited for, or a mistake. -/
def plain (progress : Progress) (argument : Bytes) : Except Request Progress :=
  match progress.pending with
  | some (flag, none) => .ok { progress with pending := some (flag, some argument) }
  | _ => .error (.refuse (.unexpected argument.display none []))

/-- One argument. -/
def take (progress : Progress) (argument : Bytes) : Except Request Progress :=
  match argument with
  | 0x2D :: 0x2D :: rest => progress.long rest
  | 0x2D :: first :: rest => progress.letters (first :: rest)
  | _ => progress.plain argument

end Progress

/-- Reads arguments up to `--`, after which none is expected. -/
def readFrom (progress : Progress) : List Bytes → Except Request Progress
  | [] => progress.settle
  | argument :: rest =>
    if argument = [0x2D, 0x2D] then
      match rest with
      | [] => progress.settle
      | extra :: _ => .error (.refuse (.unexpected extra.display none []))
    else do readFrom (← progress.take argument) rest

/-- What an argument list asks for. -/
def read (arguments : List Bytes) : Request :=
  match readFrom {} arguments with
  | .ok progress => .run progress.options
  | .error request => request

end Options

end LineShell
