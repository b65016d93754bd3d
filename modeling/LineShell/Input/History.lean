import LineShell.Text.Blank
import LineShell.Text.Lines
import LineShell.Warning
import LineShell.World

/-!
The lines an editor remembers, and the file it keeps them in. The file begins with a mark; each
entry stands on a line of its own, with its line feeds and backslashes escaped
(`unescape_escape`). A file without the mark is read line by line as it stands.
-/
namespace LineShell

/-- Entries, the oldest first, and how many of them the file does not hold yet. -/
structure History where
  entries : List Text := []
  limit : Nat := 100
  unsaved : Nat := 0
  deriving DecidableEq, Repr

namespace History

/-- Lines that are not worth remembering: empty ones, those that begin with a blank, and
repetitions. -/
def ignores (history : History) (line : Text) : Bool :=
  history.limit == 0 || line.head?.all Text.isBlank || history.entries.getLast? == some line

/-- Remembers a line. The oldest entry makes room for it if need be. -/
def add (history : History) (line : Text) : History :=
  if history.ignores line then history
  else
    let kept :=
      if history.entries.length = history.limit then history.entries.tail else history.entries
    let entries := kept ++ [line]
    { history with entries, unsaved := min (history.unsaved + 1) entries.length }

/-- The mark at the beginning of a file. -/
def fileMark : Text := "#V2".toList

def escape (entry : Text) : Text :=
  entry.flatMap fun c =>
    if c = '\\' then ['\\', '\\'] else if c = '\n' then ['\\', 'n'] else [c]

/-- The entry that was escaped. A backslash before anything else is no escape. -/
def unescape : Text → Option Text
  | [] => some []
  | '\\' :: 'n' :: rest => (unescape rest).map ('\n' :: ·)
  | '\\' :: '\\' :: rest => (unescape rest).map ('\\' :: ·)
  | c :: rest => if c = '\\' then none else (unescape rest).map (c :: ·)

theorem unescape_escape (entry : Text) : unescape (escape entry) = some entry := by
  induction entry with
  | nil => rfl
  | cons c rest ih =>
    simp only [escape, List.flatMap_cons] at ih ⊢
    split
    · next back => simp [unescape, ih, back]
    · next plain =>
      split
      · next feed => simp [unescape, ih, feed]
      · next other =>
        rw [List.singleton_append, unescape, if_neg plain, ih]
        · rfl
        · rintro tail rfl; exact absurd rfl plain
        · rintro tail rfl; exact absurd rfl plain

/-- The content of a history file. -/
def toBytes (history : History) : Bytes :=
  Utf8.encode (fileMark ++ '\n' :: history.entries.flatMap fun entry => escape entry ++ ['\n'])

/-- What came of reading a file. Entries before a line that is no text are kept. -/
structure Loading where
  history : History
  warnings : List Warning
  whole : Bool

/-- One entry of a file that has the mark. An entry that was not escaped is taken as it stands. -/
def readEscaped (line : Text) : Text × List Warning :=
  match unescape line with
  | some entry => (entry, [])
  | none => (line, [⟨.editing, "bad escaped line: " ++ String.ofList line⟩])

/-- Reads the lines after the first. -/
def loadRest (escaped : Bool) (history : History) : List Bytes → Loading
  | [] => ⟨history, [], true⟩
  | line :: rest =>
    match Utf8.decode? line with
    | none => ⟨history, [], false⟩
    | some [] => loadRest escaped history rest
    | some text =>
      let (entry, warnings) := if escaped then readEscaped text else (text, [])
      let loading := loadRest escaped (history.add entry) rest
      { loading with warnings := warnings ++ loading.warnings }

/-- Reads the content of a file. What has been read whole need not be saved again. -/
def loadContent (history : History) (content : Bytes) : Loading :=
  let loading : Loading := match Text.lines content with
    | [] => ⟨history, [], true⟩
    | first :: rest =>
      match Utf8.decode? first with
      | none => ⟨history, [], false⟩
      | some text =>
        if text = fileMark then loadRest true history rest
        else loadRest false (history.add text) rest
  if loading.whole then
    { loading with history := { loading.history with unsaved := 0 } }
  else loading

/-- A history and the files it left, with what was warned about. -/
structure Kept where
  history : History
  files : Files
  warnings : List Warning

/-- Takes up a history from its file. A file that cannot be read whole begins anew. -/
def load (history : History) (world : World) (path : Bytes) : Kept :=
  let loading : Loading := match world.files.read world.directory path with
    | .ok content => history.loadContent content
    | .error _ => ⟨history, [], false⟩
  if loading.whole then ⟨loading.history, world.files, loading.warnings⟩
  else match world.files.write world.directory path [] with
    | .ok files => ⟨loading.history, files, loading.warnings⟩
    | .error _ =>
      let text :=
        "Failed to create history file: failed to create file \x60" ++ path.display ++ "\x60"
      ⟨loading.history, world.files, loading.warnings ++ [⟨.reading, text⟩]⟩

/-- Saves a history in which something is new. -/
def save (history : History) (world : World) (path : Bytes) : Kept :=
  if history.entries.isEmpty || history.unsaved == 0 then ⟨history, world.files, []⟩
  else match world.files.write world.directory path history.toBytes with
    | .ok files => ⟨{ history with unsaved := 0 }, files, []⟩
    | .error _ =>
      ⟨history, world.files, [⟨.reading, "Failed to save history file: " ++ path.display⟩]⟩

end History

end LineShell
