import LineShell.CommandLine.Options
import LineShell.Input.Editor
import LineShell.Input.Shared
import LineShell.Input.Terminal
import LineShell.Session
import LineShell.Settings.Load

/-!
Starting the shell. Options and settings come first; if either is no good, nothing is read or
shown. A terminal gets a banner and the line editor, anything else is read as it stands.
-/
namespace LineShell

/-- What the shell is started with. -/
structure Start where
  arguments : List Bytes
  world : World
  users : UserDatabase
  userNumber : Nat
  programs : Programs
  terminal : Bool
  input : Bytes
  /-- Lines can be edited on the terminal. -/
  editable : Bool := true

/-- What is known once the shell has started: it is over already, or a session begins. -/
inductive Start.Begun where
  | over (code : Nat) (output errors : String)
  | plain (session : Session Shared)
  | editor (banner : String) (session : Session Editor) (warnings : List Warning)

namespace Start

/-- Colours are left out if a variable asks for that. -/
def colours (environment : Environment) : Bool :=
  match (environment.get? (Bytes.ofString "NO_COLOR")).bind Utf8.decode? with
  | some text => text.isEmpty
  | none => true

/-- Levels of the log at which warnings are not shown. -/
def quietLevels : List String := ["", "error", "off"]

/-- Warnings are shown unless a variable asks for less. -/
def showsWarnings (environment : Environment) : Bool :=
  match (environment.get? (Bytes.ofString "RUST_LOG")).bind Utf8.decode? with
  | some level => !quietLevels.contains (String.ofList (level.map Char.toLower))
  | none => true

/-- A text of several lines as the log shows it: the later ones are indented. -/
def indented (text : String) : String :=
  String.ofList (text.toList.flatMap fun c => if c = '\n' then "\n    ".toList else [c])

/-- Warnings as lines of the log, each with the time it was given. -/
def log (environment : Environment) (time : String) (warnings : List Warning) : String :=
  if showsWarnings environment then
    String.join (warnings.map fun warning =>
      "[" ++ time ++ " WARN  " ++ warning.origin.label ++ "] " ++ indented warning.text ++ "\n")
  else ""

def platform (start : Start) : Platform :=
  { programs := start.programs, storageLimit := none, colours := colours start.world.environment }

/-- The keys or lines that come from the terminal, if it can be used. -/
def editorInput? (start : Start) : Option Editor.Input :=
  if !start.editable then none
  else if Editor.isPlain start.world.environment then
    some (.shared { supply := Terminal.supply start.input })
  else some (.typed [start.input])

/-- The shell is over with a fault, after what it has shown. -/
def Begun.failed (output : String) (fault : Fault) : Begun :=
  .over 1 output ("Error: " ++ fault.message ++ "\n")

/-- Begins a session with its settings. -/
def session (start : Start) (settings : Settings) : Begun :=
  let identity := Identity.ofNumber start.users start.world.environment start.userNumber
  let shell : Shell := { identity, settings, status := .success }
  if start.terminal then
    let historyFile := settings.historyFileFor start.world.environment.home?
    let banner := if settings.showBanner then Shell.banner start.platform.colours else ""
    match Editor.obtain start.world historyFile settings.historyLimit start.editorInput? with
    | .error fault => .failed banner fault
    | .ok opened =>
      .editor banner
        { shell, world := { start.world with files := opened.files }, writer := {}
          source := opened.editor } opened.warnings
  else
    let buffer : Supply.Buffer := { supply := .ofBytes start.input }
    .plain { shell, world := start.world, writer := {}, source := { buffer } }

/-- The settings with what the options say. -/
def overridden (options : Options) (settings : Settings) : Settings :=
  { settings with
    historyFile := options.history.or settings.historyFile
    showBanner := settings.showBanner && !options.noBanner }

/-- Starts the shell, and gives the warnings that come before anything else. -/
def begun (start : Start) : Begun × List Warning :=
  match Options.read start.arguments with
  | .help => (.over 0 Options.helpText "", [])
  | .version => (.over 0 Options.versionText "", [])
  | .refuse problem => (.over 2 "" problem.text, [])
  | .run options =>
    let loaded := Settings.load start.world.files start.world.directory options.config
      start.world.environment.home?
    match loaded.settings with
    | .error fault => (.failed "" fault, loaded.warnings)
    | .ok settings => (start.session (overridden options settings), loaded.warnings)

/-- All that comes of running the shell. -/
structure Result where
  code : Nat
  output : Bytes
  errors : Bytes
  files : Files

/-- The exit code as the system keeps it. -/
def exitCode (code : Int) : Nat := (code % 256).toNat

/-- The result of a session, after what was shown before it. -/
def resultOf {σ : Type} [LineSource σ] (start : Start) (time output errors : String)
    (session : Session σ) : Result :=
  let report := session.run start.platform
  let log := fun warnings => Bytes.ofString (log start.world.environment time warnings)
  { code := exitCode report.code
    output := Bytes.ofString output ++ report.turns.flatMap fun turn => Printed.output turn.printed
    errors := Bytes.ofString errors ++
      report.turns.flatMap fun turn => log turn.warnings ++ Printed.errors turn.printed
    files := report.final.world.files }

/-- Runs the shell to its end. -/
def run (start : Start) (time : String) : Result :=
  let (begun, warnings) := start.begun
  let early := log start.world.environment time warnings
  match begun with
  | .over code output errors =>
    ⟨code, Bytes.ofString output, Bytes.ofString (early ++ errors), start.world.files⟩
  | .plain session => start.resultOf time "" early session
  | .editor banner session warnings =>
    start.resultOf time banner (early ++ log start.world.environment time warnings) session

end Start

end LineShell
