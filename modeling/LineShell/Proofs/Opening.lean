import LineShell.Input.Editor
import LineShell.Proofs.FileLines
import LineShell.Proofs.Writing

/-!
# Opening an editor on a history file

A history file is read whole exactly if it is text (`History.whole_loadContent`). Any other file is
dealt with as if there were none: an editor that is opened on it makes it anew. So the file stays as
it is if it is text, and is emptied if it is not (`Editor.create_takesUp`).
-/
namespace LineShell

namespace History

theorem whole_loadRest (escaped : Bool) (history : History) (lines : List Bytes) :
    (loadRest escaped history lines).whole = true ↔ ∀ line ∈ lines, Utf8.valid line = true := by
  induction lines generalizing history with
  | nil => simp [loadRest]
  | cons line rest ih =>
    rw [List.forall_mem_cons]
    cases text : Utf8.valid line with
    | false => simp [loadRest, Utf8.decode?, text]
    | true =>
      have decoded : Utf8.decode? line = some (Utf8.lossy line) := if_pos text
      rw [loadRest.eq_def, eq_self, true_and]
      simp only [decoded]
      split
      · next none => cases none
      · exact ih history
      · exact ih _

/-- What has been read comes from the whole file exactly if all of it is text. -/
theorem whole_loadContent (history : History) (content : Bytes) :
    (history.loadContent content).whole = true ↔ Utf8.valid content = true := by
  have settled (loading : Loading) :
      (if loading.whole then
        { loading with history := { loading.history with unsaved := 0 } } else loading).whole =
        loading.whole := by
    split <;> rfl
  rw [Text.valid_iff_lines, loadContent, settled]
  cases Text.lines content with
  | nil => simp
  | cons first rest =>
    rw [List.forall_mem_cons]
    cases text : Utf8.valid first with
    | false => simp [Utf8.decode?, text]
    | true =>
      have decoded : Utf8.decode? first = some (Utf8.lossy first) := if_pos text
      rw [eq_self, true_and]
      simp only [decoded]
      split <;> exact whole_loadRest ..

variable {world : World} {path content : Bytes}

/-- A file of text is read as it stands. -/
theorem load_of_text (holds : world.files.Holds world.directory path content)
    (text : Utf8.valid content = true) (history : History) :
    history.load world path =
      ⟨(history.loadContent content).history, world.files,
        (history.loadContent content).warnings⟩ := by
  rw [load, holds.read]
  exact if_pos ((whole_loadContent history content).mpr text)

/-- A file that is no text is emptied. -/
theorem load_of_noText (holds : world.files.Holds world.directory path content)
    (noText : Utf8.valid content = false) (history : History) :
    world.files.write world.directory path [] = .ok (history.load world path).files := by
  have partly : ¬ (history.loadContent content).whole = true := by
    rw [whole_loadContent, noText]
    exact Bool.false_ne_true
  obtain ⟨id, mode, _, _, written, _⟩ := holds.write []
  rw [load, holds.read]
  simp only [if_neg partly, written]

end History

namespace Editor

variable {world : World} {path content : Bytes}

/-- An editor opens with the files that are left when its history has been taken up. -/
theorem files_create (world : World) (path : Bytes) (limit : Option Nat) (input : Input) :
    ∃ history : History, (create world (some path) limit input).files =
      (history.load world path).files := by
  cases limit <;> exact ⟨_, rfl⟩

/-- What becomes of a file with this content when an editor is opened on it. -/
structure Opened.TakesUp (world : World) (path content : Bytes) (opened : Opened) : Prop where
  /-- The file has its content afterwards exactly if that is text, -/
  kept : opened.files.read world.directory path = .ok content ↔ ∃ text, Utf8.encode text = content
  /-- and then nothing at all has changed. -/
  untouched : (∃ text, Utf8.encode text = content) → opened.files = world.files
  /-- Otherwise it is empty. -/
  emptied : (¬ ∃ text, Utf8.encode text = content) → opened.files.Holds world.directory path []
  /-- Every path leads where it did, -/
  places : ∀ here other, opened.files.find here other = world.files.find here other
  /-- and all other files are as they were. -/
  others : ∀ here other, world.files.find here other ≠ world.files.find world.directory path →
    opened.files.read here other = world.files.read here other

/-- **Opening an editor leaves a history file as it is exactly if that is text**, under any limit.
A file that is no text is taken for one that is missing, and emptied. -/
theorem create_takesUp (holds : world.files.Holds world.directory path content)
    (limit : Option Nat) (input : Input) :
    (create world (some path) limit input).TakesUp world path content := by
  obtain ⟨history, files⟩ := files_create world path limit input
  by_cases isText : ∃ text, Utf8.encode text = content
  case pos =>
    have same : (create world (some path) limit input).files = world.files := by
      rw [files, History.load_of_text holds (Utf8.valid_iff.mpr isText)]
    exact
      { kept := ⟨fun _ => isText, fun _ => same ▸ holds.read⟩
        untouched := fun _ => same
        emptied := fun noText => absurd isText noText
        places := fun _ _ => by rw [same]
        others := fun _ _ _ => by rw [same] }
  case neg =>
    have noText : Utf8.valid content = false := by
      rw [← Bool.not_eq_true, Utf8.valid_iff]
      exact isText
    obtain ⟨id, mode, found, there, written, after⟩ := holds.write []
    have set : (create world (some path) limit input).files =
        world.files.set id (.file mode []) := by
      have loaded := History.load_of_noText holds noText history
      rw [written, ← files] at loaded
      exact (Except.ok.inj loaded).symm
    rw [← set] at after
    have likewise : Files.Likewise world.files (world.files.set id (.file mode [])) :=
      Files.likewise_set there trivial trivial
    exact
      { kept := by
          refine ⟨fun read => ?_, fun text => absurd text isText⟩
          rw [after.read] at read
          exact ⟨[], Except.ok.inj read⟩
        untouched := fun text => absurd text isText
        emptied := fun _ => after
        places := fun here other => by rw [set, Files.find_of_likewise likewise]
        others := fun here other apart => by
          rw [found] at apart
          rw [set, Files.read_set_of_ne likewise apart] }

/-- A directory with a history file in it. -/
def historyWorld (content : Bytes) : World where
  files := ⟨#[.directory 0 [(Bytes.ofString "hist", 1)], .file 0o644 content]⟩
  directory := Files.root
  environment := ⟨[]⟩

/-- An entry, and a line that is no text. -/
theorem create_takesUp_latin :
    let content := Bytes.ofString "#V2\nok\n" ++ [0xFF, Text.lineFeed]
    let world := historyWorld content
    world.files.Holds world.directory (Bytes.ofString "hist") content ∧
      (create world (some (Bytes.ofString "hist")) none (.typed [])).TakesUp world
        (Bytes.ofString "hist") content := by
  intro content world
  have holds : world.files.Holds world.directory (Bytes.ofString "hist") content :=
    ⟨1, 0o644, by decide, by decide⟩
  exact ⟨holds, create_takesUp holds none _⟩

/-- So a history file does not always survive: that one is empty afterwards, its entry included. -/
theorem not_create_keeps :
    ¬ ∀ (world : World) (path content : Bytes) (limit : Option Nat) (input : Input),
      world.files.Holds world.directory path content →
      (create world (some path) limit input).files.read world.directory path = .ok content := by
  intro kept
  let content := Bytes.ofString "#V2\nok\n" ++ [0xFF, Text.lineFeed]
  have holds : (historyWorld content).files.Holds Files.root (Bytes.ofString "hist") content :=
    ⟨1, 0o644, by decide, by decide⟩
  have same := kept (historyWorld content) (Bytes.ofString "hist") content none (.typed []) holds
  exact absurd same (by decide)

end Editor

end LineShell
