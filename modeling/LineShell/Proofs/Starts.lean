import LineShell.CommandLine.Start
import LineShell.Proofs.Flags
import LineShell.Proofs.Loading
import LineShell.Proofs.Scripts

/-!
# Starts of scripts

Where the input is no terminal, it makes no difference whether there is to be a banner and where the
history is kept, be that said by flags or by settings (`Start.run_asScript`): the result is the
same, nothing is shown but the rounds of the session, and no file is touched but by its programs.
-/
namespace LineShell

namespace Settings

open Classical in
/-- Such are those of two files with the same lines for the other keys. -/
theorem sameInScripts_of_lines {path content other : Bytes} {settings otherSettings : Settings}
    (read : ofContent path content = .ok settings)
    (otherRead : ofContent path other = .ok otherSettings)
    (same : ∀ key ∈ [Setting.Key.multiLinePrompt, .truncation, .showErrors],
      (Text.lines other).filter (HasKey key ·) = (Text.lines content).filter (HasKey key ·)) :
    SameInScripts settings otherSettings := by
  have only (key : Setting.Key)
      (within : key ∈ [Setting.Key.multiLinePrompt, .truncation, .showErrors]) :
      otherSettings.only key = settings.only key := by
    rw [only_of_ofContent otherRead, only_of_ofContent read, same key within]
  have multiLine := congrArg Settings.multiLinePrompt (only .multiLinePrompt (by simp))
  have truncation := congrArg Settings.truncation (only .truncation (by simp))
  have errors := congrArg Settings.showErrors (only .showErrors (by simp))
  exact ⟨multiLine, truncation, errors⟩

/-- Options for a terminal make no difference to that. -/
theorem SameInScripts.overridden {settings other : Settings} (same : settings.SameInScripts other)
    (options otherOptions : Options) :
    (Start.overridden options settings).SameInScripts (Start.overridden otherOptions other) :=
  ⟨same.multiLinePrompt, same.truncation, same.showErrors⟩

/-- The file that settings are loaded from: the one that is asked for, or else the one in a home
directory, if it exists. -/
def file? (files : Files) (here : NodeId) (asked home : Option Bytes) : Option Bytes :=
  asked.or (homeFile? files here home)

section File

variable {files other : Files} {here : NodeId} {asked home : Option Bytes} {path : Bytes}

/-- Files without faults are loaded as they are. -/
theorem load_of_file {settings : Settings} (found : file? files here asked home = some path)
    (read : ofFile files here path = .ok settings) :
    load files here asked home = ⟨.ok settings, []⟩ := by
  cases asked with
  | some goal =>
    obtain rfl : goal = path := Option.some.inj found
    exact congrArg (Loaded.mk · []) read
  | none =>
    have found : homeFile? files here home = some path := found
    simp only [load_of_homeFile, found, read]

/-- Where other content stands, the same file is loaded. -/
theorem homeFile?_of_likewise (likewise : Files.Likewise files other) (home : Option Bytes) :
    homeFile? other here home = homeFile? files here home := by
  have has : other.has here = files.has here := by
    funext path
    rw [Files.has, Files.has, Files.find_of_likewise likewise]
  rw [homeFile?, homeFile?, has]

theorem file?_of_likewise (likewise : Files.Likewise files other) (asked home : Option Bytes) :
    file? other here asked home = file? files here asked home := by
  rw [file?, file?, homeFile?_of_likewise likewise]

/-- Where the same file is there and says the same, the same is loaded. -/
theorem load_congr (file : file? other here asked home = file? files here asked home)
    (same : ∀ path, file? files here asked home = some path →
      ofFile other here path = ofFile files here path) :
    load other here asked home = load files here asked home := by
  cases asked with
  | some goal => exact congrArg (Loaded.mk · []) (same goal rfl)
  | none =>
    have file : homeFile? other here home = homeFile? files here home := file
    rw [load_of_homeFile, load_of_homeFile, file]
    cases found : homeFile? files here home with
    | none => rfl
    | some path => simp only [same path found]

/-- What stands in other files does not matter. -/
theorem load_of_refilled {id : NodeId} {content fresh : Bytes}
    (refilled : files.Refilled id content fresh other)
    (elsewhere : ∀ path, file? files here asked home = some path → files.find here path ≠ .ok id) :
    load other here asked home = load files here asked home := by
  refine load_congr (file?_of_likewise refilled.apart.likewise asked home) fun path found => ?_
  rw [ofFile_eq, ofFile_eq, refilled.opened?_of_ne (elsewhere path found)]

end File

end Settings

namespace Start

/-- The session of a script. -/
def script (start : Start) (settings : Settings) : Session Shared where
  shell :=
    { identity := Identity.ofNumber start.users start.world.environment start.userNumber
      settings
      status := .success }
  world := start.world
  writer := {}
  source := { buffer := { supply := .ofBytes start.input } }

/-- A start that is no request for anything else, and whose settings can be loaded. -/
structure Loads (start : Start) (options : Options) (settings : Settings)
    (warnings : List Warning) : Prop where
  accepted : Options.read start.arguments = .run options
  loaded : Settings.load start.world.files start.world.directory options.config
    start.world.environment.home? = ⟨.ok settings, warnings⟩

/-- What the session of a start goes through. -/
def turns (start : Start) (options : Options) (settings : Settings) : List Turn :=
  ((start.script (overridden options settings)).run start.platform).turns

/-- Two results that differ at most in what hidden files hold in the end. -/
structure Result.SameBut (hidden : NodeId → Prop) (result other : Result) : Prop where
  code : other.code = result.code
  output : other.output = result.output
  errors : other.errors = result.errors
  files : Files.Apart hidden result.files other.files

/-- Where nothing is hidden, they do not differ. -/
theorem Result.SameBut.eq {result other : Result} (same : result.SameBut (fun _ => False) other) :
    other = result := by
  obtain ⟨code, output, errors, apart⟩ := same
  have files := apart.eq
  cases result
  cases other
  simp_all only

/-- The same start with other arguments, in other files. -/
def refitted (start : Start) (arguments : List Bytes) (files : Files) : Start :=
  { start with arguments, world := { start.world with files } }

variable {start : Start} {options : Options} {settings : Settings} {warnings : List Warning}

/-- A script is started without a banner and without a history. -/
theorem run_of_loads (script : start.terminal = false)
    (loads : start.Loads options settings warnings) (time : String) :
    start.run time = start.resultOf time "" (log start.world.environment time warnings)
      (start.script (overridden options settings)) := by
  have begun : start.begun = (.plain (start.script (overridden options settings)), warnings) := by
    simp only [Start.begun, loads.accepted, loads.loaded, session, script]
    rfl
  simp only [run, begun]

/-- The sessions of scripts begin alike whatever is set for a terminal. -/
theorem script_unseen {hidden : NodeId → Prop} {files : Files}
    (apart : start.world.files.Apart hidden files) {otherSettings : Settings}
    (same : settings.SameInScripts otherSettings) (arguments : List Bytes) :
    Session.Unseen hidden (start.script settings)
      ((start.refitted arguments files).script otherSettings) where
  stage :=
    { shell := rfl
      settings := same
      world := rfl
      files := apart
      writer := rfl }
  source := rfl

theorem flatMap_of_showsSame {shown : Turn → Bytes}
    (alike : ∀ {turn other}, Turn.ShowsSame turn other → shown other = shown turn)
    {turns others : List Turn} (same : List.Forall₂ Turn.ShowsSame turns others) :
    others.flatMap shown = turns.flatMap shown := by
  induction same with
  | nil => rfl
  | cons first _ ih => rw [List.flatMap_cons, List.flatMap_cons, alike first, ih]

/-- Two scripts that load settings which differ for a terminal only give the same result, if no
program that is started looks into the hidden files. -/
theorem run_sameBut {hidden : NodeId → Prop} {arguments : List Bytes} {files : Files}
    {otherOptions : Options} {otherSettings : Settings} (script : start.terminal = false)
    (loads : start.Loads options settings warnings)
    (apart : start.world.files.Apart hidden files)
    (otherLoads : (start.refitted arguments files).Loads otherOptions otherSettings warnings)
    (same : settings.SameInScripts otherSettings)
    (overlook : ∀ turn ∈ start.turns options settings, turn.Overlooks hidden start.platform)
    (time : String) :
    (start.run time).SameBut hidden ((start.refitted arguments files).run time) := by
  have step : Session.InStep (Session.Unseen hidden) Turn.ShowsSame
      ((start.script (overridden options settings)).run start.platform)
      (((start.refitted arguments files).script (overridden otherOptions otherSettings)).run
        start.platform) :=
    .run_along (fun met looks => met.goTogether start.platform looks)
      (script_unseen apart (same.overridden options otherOptions) arguments) overlook
  have output := flatMap_of_showsSame
    (fun shows => congrArg Printed.output shows.printed) step.turns
  have errors := flatMap_of_showsSame
    (fun shows => congrArg₂ (fun warnings printed =>
      Bytes.ofString (log start.world.environment time warnings) ++ Printed.errors printed)
      shows.warnings shows.printed) step.turns
  have otherScript : (start.refitted arguments files).terminal = false := script
  rw [run_of_loads script loads, run_of_loads otherScript otherLoads]
  exact
    { code := congrArg exitCode step.code
      output := congrArg (Bytes.ofString "" ++ ·) output
      errors := congrArg (Bytes.ofString (log start.world.environment time warnings) ++ ·) errors
      files := step.final.stage.files }

/-- The file that the settings of a start are loaded from. -/
def settingsFile? (start : Start) (options : Options) : Option Bytes :=
  Settings.file? start.world.files start.world.directory options.config
    start.world.environment.home?

open Classical in
/-- What comes of a script. -/
structure RunsAsScript (start : Start) (options : Options) (settings : Settings)
    (warnings : List Warning) : Prop where
  /-- After the warnings of its settings there is nothing but a session, -/
  result : ∀ time, start.run time =
    start.resultOf time "" (log start.world.environment time warnings)
      (start.script (overridden options settings))
  /-- and in that nothing but prompts, what lines print and what is reported of them. -/
  inOrder : ∀ turn ∈ start.turns options settings,
    turn.PrintsInOrder start.platform ∧ turn.warnings = []
  /-- Files are touched by the programs that are started, and by nothing else. -/
  files : ∀ property : Files → Prop, property start.world.files →
    (∀ turn ∈ start.turns options settings, ∀ invocation,
      turn.child? start.platform = some invocation → property turn.world.files →
        property (start.programs invocation turn.world.files).files) →
    ∀ time, property (start.run time).files
  /-- Settings for a terminal may be others, in whatever files that no program looks into. -/
  unseen : ∀ hidden arguments files otherOptions otherSettings,
    start.world.files.Apart hidden files →
    (start.refitted arguments files).Loads otherOptions otherSettings warnings →
    settings.SameInScripts otherSettings →
    (∀ turn ∈ start.turns options settings, turn.Overlooks hidden start.platform) →
    ∀ time, (start.run time).SameBut hidden ((start.refitted arguments files).run time)
  /-- Flags for a terminal may be added or left out, -/
  flags : ∀ bare arguments otherOptions, Options.Extended bare start.arguments →
    Options.Extended bare arguments → Options.read arguments = .run otherOptions →
    ∀ time, (start.refitted arguments start.world.files).run time = start.run time
  /-- and the settings file may also have other lines for a terminal. -/
  rewritten : ∀ path id content fresh freshSettings files bare arguments otherOptions,
    start.settingsFile? options = some path →
    start.world.files.find start.world.directory path = .ok id →
    start.world.files.Refilled id content fresh files →
    Settings.ofContent path content = .ok settings →
    Settings.ofContent path fresh = .ok freshSettings →
    (∀ key ∈ [Setting.Key.multiLinePrompt, .truncation, .showErrors],
      (Text.lines fresh).filter (Settings.HasKey key ·) =
        (Text.lines content).filter (Settings.HasKey key ·)) →
    Options.Extended bare start.arguments → Options.Extended bare arguments →
    Options.read arguments = .run otherOptions →
    (∀ turn ∈ start.turns options settings, turn.Overlooks (· = id) start.platform) →
    ∀ time, (start.run time).SameBut (· = id) ((start.refitted arguments files).run time)
  /-- Any other file, be it the one that a history is kept in, may hold anything. -/
  unread : ∀ id content fresh files, start.world.files.Refilled id content fresh files →
    (∀ path, start.settingsFile? options = some path →
      start.world.files.find start.world.directory path ≠ .ok id) →
    (∀ turn ∈ start.turns options settings, turn.Overlooks (· = id) start.platform) →
    ∀ time, (start.run time).SameBut (· = id) ((start.refitted start.arguments files).run time)

/-- **What is set for a terminal makes no difference to a script.** -/
theorem run_asScript (script : start.terminal = false)
    (loads : start.Loads options settings warnings) :
    start.RunsAsScript options settings warnings := by
  have result (time : String) := run_of_loads script loads time
  constructor
  case result => exact result
  case inOrder => exact Session.run_printsInOrder _ _
  case files =>
    intro property holds kept time
    rw [result]
    exact Session.run_keepsFiles holds kept
  case unseen =>
    intro hidden arguments files otherOptions otherSettings
    exact run_sameBut script loads
  case flags =>
    intro bare arguments otherOptions extended otherwise accepted time
    have config := Options.config_of_extended extended otherwise loads.accepted accepted
    have otherLoads : (start.refitted arguments start.world.files).Loads otherOptions settings
        warnings := ⟨accepted, by rw [config]; exact loads.loaded⟩
    refine (run_sameBut script loads (.refl _ _) otherLoads ⟨rfl, rfl, rfl⟩ ?_ time).eq
    exact fun turn _ invocation _ => Program.overlooks_nothing _ _ _
  case rewritten =>
    intro path id content fresh freshSettings files bare arguments otherOptions source found
      refilled read freshRead lines extended otherwise accepted overlook time
    have loaded := Settings.load_of_file source
      ((Settings.ofFile_of_read (refilled.read_before found)).trans read)
    obtain rfl : warnings = [] := by
      rw [loads.loaded] at loaded
      exact congrArg Settings.Loaded.warnings loaded
    have config := Options.config_of_extended extended otherwise loads.accepted accepted
    have otherSource := (Settings.file?_of_likewise refilled.apart.likewise _ _).trans source
    have otherLoaded := Settings.load_of_file otherSource
      ((Settings.ofFile_of_read (refilled.read found)).trans freshRead)
    have otherLoads : (start.refitted arguments files).Loads otherOptions freshSettings [] :=
      ⟨accepted, by rw [config]; exact otherLoaded⟩
    have same := Settings.sameInScripts_of_lines read freshRead lines
    exact run_sameBut script loads refilled.apart otherLoads same overlook time
  case unread =>
    intro id content fresh files refilled elsewhere overlook
    have otherLoads : (start.refitted start.arguments files).Loads options settings warnings :=
      ⟨loads.accepted, (Settings.load_of_refilled refilled elsewhere).trans loads.loaded⟩
    exact run_sameBut script loads refilled.apart otherLoads ⟨rfl, rfl, rfl⟩ overlook

/-- A script whose settings name a history file that is there, and a flag for the banner. -/
theorem run_asScript_rc :
    let rc := Bytes.ofString "rc"
    let history := Bytes.ofString "log"
    let content := Bytes.ofString "show-banner: no\nhistory-file: log\nshow-errors: off\n"
    let files : Files :=
      ⟨#[.directory 0 [(rc, 1), (history, 2)], .file 0o644 content,
        .file 0o644 (Bytes.ofString "ls\n")]⟩
    let start : Start :=
      { arguments := [Bytes.ofString "--config", rc, Bytes.ofString "--no-banner"]
        world := ⟨files, Files.root, ⟨[]⟩, {}⟩
        users := []
        userNumber := 0
        programs := fun _ files => ⟨0, files, [], 0⟩
        terminal := false
        input := Bytes.ofString "echo a\nexit 3\n" }
    let options : Options := { config := some rc, noBanner := true }
    let settings : Settings :=
      { showBanner := false, showErrors := false, historyFile := some history }
    start.terminal = false ∧ start.Loads options settings [] ∧
      start.RunsAsScript options settings [] := by
  intro rc history content files start options settings
  have loads : start.Loads options settings [] := ⟨by decide, rfl⟩
  exact ⟨rfl, loads, run_asScript rfl loads⟩

end Start

end LineShell
