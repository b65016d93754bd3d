import LineShell.Proofs.Editing
import LineShell.Proofs.Remembering
import Mathlib.Data.List.Infix

/-!
# History across restarts

An editor takes one text at a time from its terminal, remembers it and saves that before it hands
the line over (`Remembers.read`). An editor that is opened later takes up what has been saved, so a
row of sessions leaves the same file as one session over all their lines (`sessions_survive`).
-/
namespace LineShell

/-- The control characters of Unicode. -/
def Text.isControl (c : Char) : Bool := c.toNat < 0x20 || (0x7F ≤ c.toNat && c.toNat < 0xA0)

/-- A byte of control is no part of a text without control characters. -/
theorem Utf8.not_mem_encode {text : Text} (plain : ∀ c ∈ text, Text.isControl c = false)
    {byte : UInt8} (small : byte < 0x80)
    (control : Text.isControl (Char.ofNat byte.toNat) = true) : byte ∉ encode text := by
  intro within
  have letter := plain _ (mem_of_mem_encode small within)
  rw [letter] at control
  cases control

namespace Key

/-- A character that controls nothing is the key of a letter. -/
theorem ofText_cons {c : Char} (plain : Text.isControl c = false) (rest : Text) :
    ofText (c :: rest) = .letter c :: ofText rest := by
  have apart : ∀ other : Char, Text.isControl other = true → c ≠ other := by
    rintro other control rfl
    rw [plain] at control
    cases control
  have noEnter : ¬ (c = '\r' ∨ c = '\n') := not_or.mpr ⟨apart _ (by decide), apart _ (by decide)⟩
  have noErase : ¬ (c = '\x08' ∨ c = '\x7f') :=
    not_or.mpr ⟨apart _ (by decide), apart _ (by decide)⟩
  rw [ofText, if_neg noEnter, if_neg (apart _ (by decide)), if_neg (apart _ (by decide)),
    if_neg noErase]
  rintro tail same -
  exact apart '\x1b' (by decide) same

theorem ofText_append {text : Text} (plain : ∀ c ∈ text, Text.isControl c = false) (rest : Text) :
    ofText (text ++ rest) = text.map .letter ++ ofText rest := by
  induction text with
  | nil => rfl
  | cons c text ih =>
    obtain ⟨first, others⟩ := List.forall_mem_cons.mp plain
    rw [List.cons_append, ofText_cons first, ih others]
    rfl

end Key

theorem Typed.ofKeys_letters (text : Text) (draft : Draft) (rest : List Key) :
    Typed.ofKeys draft (text.map .letter ++ rest) =
      Typed.ofKeys { draft with before := draft.before ++ text } rest := by
  induction text generalizing draft with
  | nil => simp
  | cons c text ih =>
    rw [List.map_cons, List.cons_append, Typed.ofKeys, ih]
    simp

namespace Editor

/-- The keys that end what is typed for one line. -/
inductive Ending where
  | carriageReturn
  | lineFeed
  | interrupt
  deriving DecidableEq, Repr

def Ending.char : Ending → Char
  | .carriageReturn => '\r'
  | .lineFeed => '\n'
  | .interrupt => '\x03'

/-- A prompt, and what is typed at it. -/
structure Asked where
  prompt : String
  text : Text
  ending : Ending

namespace Asked

def keys (asked : Asked) : Bytes := Utf8.encode (asked.text ++ [asked.ending.char])

/-- The text that is entered, unless it is given up. -/
def entered? (asked : Asked) : Option Text :=
  if asked.ending = .interrupt then none else some asked.text

/-- The line that is read: of a text that is given up there is nothing. -/
def line (asked : Asked) : Bytes := Utf8.encode (asked.entered?.getD [])

/-- The text holds no control characters. A terminal that cannot be drawn on hands over no keys but
whole lines, which a line feed ends. -/
structure Suits (environment : Environment) (asked : Asked) : Prop where
  text : ∀ c ∈ asked.text, Text.isControl c = false
  ending : isPlain environment = true → asked.ending = .lineFeed

instance (environment : Environment) : DecidablePred (Suits environment) := fun asked =>
  decidable_of_iff ((asked.text.all fun c => !Text.isControl c) = true ∧
      (isPlain environment = true → asked.ending = .lineFeed))
    ⟨fun ⟨text, ending⟩ => ⟨by simpa using text, ending⟩,
      fun suits => ⟨by simpa using suits.text, suits.ending⟩⟩

end Asked

/-- All texts that are entered. -/
def entered (asked : List Asked) : List Text := asked.filterMap Asked.entered?

theorem entered_singleton (asked : Asked) : entered [asked] = asked.entered?.toList := by
  cases given : asked.entered? <;> simp [entered, given]

theorem entered_append (before after : List Asked) :
    entered (before ++ after) = entered before ++ entered after :=
  List.filterMap_append

/-- What is entered holds no carriage return. -/
theorem noReturn_of_mem_entered {environment : Environment} {asked : List Asked}
    (suits : ∀ one ∈ asked, one.Suits environment) : ∀ line ∈ entered asked, '\r' ∉ line := by
  intro line within returns
  obtain ⟨one, there, given⟩ := List.mem_filterMap.mp within
  unfold Asked.entered? at given
  split at given
  · cases given
  · cases given
    exact absurd ((suits one there).text _ returns) (by decide)

/-! ## One line -/

/-- Keys that are all used leave nothing of their handfuls. -/
theorem leftover_self (keys : Bytes) : leftover keys keys.length = [] := by
  refine List.drop_eq_nil_of_le ?_
  simp only [handful]
  omega

theorem carried_nil (later : List Bytes) : carried [] later = later := by
  cases later <;> rfl

variable {editor : Editor} {asked : Asked} {environment : Environment}

/-- The keys write the text, and all of them are used. -/
theorem ofKeys_keys (plain : ∀ c ∈ asked.text, Text.isControl c = false) (entries : List Text) :
    Typed.ofKeys (.blank entries) (Key.ofText (Utf8.lossy asked.keys)) =
      ((asked.entered?.map Typed.line).getD .interrupted, []) := by
  rcases asked with ⟨prompt, text, ending⟩
  have written : Draft.text ⟨[] ++ text, [], entries.reverse⟩ = text := List.append_nil text
  rw [Asked.keys, Utf8.lossy_encode, Key.ofText_append plain, Typed.ofKeys_letters]
  cases ending with
  | carriageReturn | lineFeed =>
    change (Typed.line (Draft.text ⟨[] ++ text, [], entries.reverse⟩), ([] : List Key)) = _
    rw [written]
    rfl
  | interrupt => rfl

/-- Keys at a terminal give the line that they write. -/
theorem next_of_typed {later : List Bytes} (input : editor.input = .typed (asked.keys :: later))
    (plain : ∀ c ∈ asked.text, Text.isControl c = false) :
    editor.next = (.ok (some (asked.line, asked.entered?.isSome)), .typed later) := by
  have spent : carried (leftover asked.keys asked.keys.length) later = later := by
    rw [leftover_self, carried_nil]
  unfold next
  rw [input]
  simp only [ofKeys_keys plain, List.map_nil, List.foldl_nil, Nat.sub_zero, spent, Asked.line]
  cases asked.entered? <;> rfl

/-- Lines of a terminal that hands over no keys are taken as they are. -/
theorem next_of_lines {later : Bytes} (input : editor.input = .lines (asked.keys ++ later))
    (plain : ∀ c ∈ asked.text, Text.isControl c = false) (ending : asked.ending = .lineFeed) :
    editor.next = (.ok (some (asked.line, asked.entered?.isSome)), .lines later) := by
  have entered : asked.entered? = some asked.text := by rw [Asked.entered?, ending]; rfl
  have keys : asked.keys = Utf8.encode asked.text ++ [Text.lineFeed] := by
    rw [Asked.keys, ending, Utf8.encode, List.flatMap_append]
    rfl
  have text : Utf8.valid asked.keys = true := Utf8.valid_iff.mpr ⟨_, rfl⟩
  have noControl {byte : UInt8} (small : byte < 0x80)
      (control : Text.isControl (Char.ofNat byte.toNat) = true) :
      byte ∉ Utf8.encode asked.text := Utf8.not_mem_encode plain small control
  have bare : Text.backspace ∉ asked.keys := by
    rw [keys, List.mem_append, not_or]
    exact ⟨noControl (by decide) (by decide), by decide⟩
  have cut : Text.cutLine (asked.keys ++ later) = (asked.keys, later) := by
    rw [keys, List.append_assoc, List.singleton_append,
      Text.cutLine_append_feed (noControl (by decide) (by decide))]
  have without : withoutEnding asked.keys = Utf8.encode asked.text := by
    rw [withoutEnding, keys, List.getLast?_concat, if_pos rfl, List.dropLast_concat]
    refine Text.withoutReturn_of_last fun last => ?_
    exact noControl (by decide) (by decide) (List.mem_of_getLast? last)
  have some : asked.keys ≠ [] := by simp [keys]
  unfold next
  rw [input]
  simp only [cut, lineOf_eq some text bare, without, Asked.line, entered]
  rfl

/-- Whatever the terminal is, an editor gets the line that is typed, and keeps what is typed later
for later. -/
theorem next_of_asked {later : List Bytes}
    (input : editor.input = .ofKeys environment (asked.keys :: later))
    (suits : asked.Suits environment) :
    editor.next = (.ok (some (asked.line, asked.entered?.isSome)), .ofKeys environment later) := by
  unfold Input.ofKeys at input ⊢
  by_cases isPlain : isPlain environment = true
  · rw [if_pos isPlain] at input ⊢
    exact next_of_lines input suits.text (suits.ending isPlain)
  · rw [if_neg isPlain] at input ⊢
    exact next_of_typed input suits.text

/-- An editor that remembers these lines and has saved them at this path. -/
structure Remembers (path : Bytes) (limit : Nat) (lines : List Text) (editor : Editor)
    (world : World) : Prop where
  historyFile : editor.historyFile = some path
  history : editor.history = { entries := History.remembered limit lines, limit }
  file : world.files.Holds world.directory path (History.fileOf (History.remembered limit lines))

/-- An editor in a world, about to ask for a line. -/
structure Visit where
  editor : Editor
  world : World
  prompt : String

namespace Visit

def reading (visit : Visit) : Reading Editor := visit.editor.read visit.prompt visit.world

/-- The world after the reading. -/
def left (visit : Visit) : World := { visit.world with files := visit.reading.files }

/-- What is in a file after the reading, -/
def kept (path : Bytes) (visit : Visit) : Except Refusal Bytes :=
  visit.reading.files.read visit.world.directory path

end Visit

/-- What comes of the keys for one line. -/
structure Visit.Answers (path : Bytes) (limit : Nat) (lines : List Text) (asked : Asked)
    (later : List Bytes) (visit : Visit) : Prop where
  answer : visit.reading.answer = .ok (some asked.line)
  input : visit.reading.source.input = .ofKeys visit.world.environment later
  remembers : Remembers path limit (lines ++ asked.entered?.toList) visit.reading.source visit.left
  silent : visit.reading.warnings = []

/-- A line that is read is remembered and saved. -/
theorem Remembers.remember {path : Bytes} {limit : Nat} {lines : List Text} {world : World}
    (remembers : Remembers path limit lines editor world) (text : Text) :
    let opened := editor.remember world (Utf8.encode text)
    Remembers path limit (lines ++ [text]) opened.editor { world with files := opened.files } ∧
      opened.editor.input = editor.input ∧ opened.warnings = [] := by
  obtain ⟨history, file, silent⟩ := History.save_holds remembers.history remembers.file text
  have opened : editor.remember world (Utf8.encode text) =
      ⟨{ editor with history := (History.save (editor.history.add text) world path).history },
        (History.save (editor.history.add text) world path).files,
        (History.save (editor.history.add text) world path).warnings⟩ := by
    unfold Editor.remember
    rw [remembers.historyFile, Utf8.lossy_encode]
  rw [opened]
  exact ⟨⟨remembers.historyFile, history, file⟩, rfl, silent⟩

section Reading

variable {line : Bytes} {input : Input} (prompt : String) (world : World)

/-- A line that is given up is handed over and changes nothing else. -/
theorem read_of_givenUp (next : editor.next = (.ok (some (line, false)), input)) :
    ∃ printed, editor.read prompt world =
      ⟨.ok (some line), { editor with input }, world.files, printed, []⟩ := by
  refine ⟨if editor.plain then Printed.of .prompt (Bytes.ofString prompt) else [], ?_⟩
  rw [Editor.read, next]

/-- A line that is entered is remembered first. -/
theorem read_of_entered (next : editor.next = (.ok (some (line, true)), input)) :
    let opened := ({ editor with input } : Editor).remember world line
    ∃ printed, editor.read prompt world =
      ⟨.ok (some line), opened.editor, opened.files, printed, opened.warnings⟩ := by
  refine ⟨if editor.plain then Printed.of .prompt (Bytes.ofString prompt) else [], ?_⟩
  rw [Editor.read, next]

end Reading

/-- A line is remembered and saved before it is handed over, and one that is given up is not. -/
theorem Remembers.read {path : Bytes} {limit : Nat} {lines : List Text} {world : World}
    (remembers : Remembers path limit lines editor world) {later : List Bytes}
    (input : editor.input = .ofKeys world.environment (asked.keys :: later))
    (suits : asked.Suits world.environment) (prompt : String) :
    Visit.Answers path limit lines asked later ⟨editor, world, prompt⟩ := by
  have next := next_of_asked input suits
  have fed : Remembers path limit lines { editor with input := .ofKeys world.environment later }
      world := ⟨remembers.historyFile, remembers.history, remembers.file⟩
  cases entered : asked.entered? with
  | none =>
    rw [entered] at next
    obtain ⟨printed, reading⟩ := read_of_givenUp prompt world next
    have nothing : lines ++ asked.entered?.toList = lines := by simp [entered]
    exact
      { answer := congrArg Reading.answer reading
        input := congrArg (·.source.input) reading
        remembers := by
          rw [nothing, Visit.left, Visit.reading, reading]
          exact fed
        silent := congrArg Reading.warnings reading }
  | some text =>
    have line : asked.line = Utf8.encode text := by rw [Asked.line, entered]; rfl
    rw [entered, line] at next
    obtain ⟨printed, reading⟩ := read_of_entered prompt world next
    obtain ⟨again, waits, silent⟩ := fed.remember text
    exact
      { answer := (congrArg Reading.answer reading).trans (by rw [line])
        input := (congrArg (·.source.input) reading).trans waits
        remembers := by
          rw [Visit.left, Visit.reading, reading, entered]
          exact again
        silent := (congrArg Reading.warnings reading).trans silent }

/-! ## Sessions -/

/-- Visits one after the other, and the world after them. -/
structure Course where
  visits : List Visit
  world : World

/-- An editor asks for one line after the other. -/
def readAll (editor : Editor) (world : World) : List Asked → Course
  | [] => ⟨[], world⟩
  | asked :: later =>
    let visit : Visit := ⟨editor, world, asked.prompt⟩
    let course := readAll visit.reading.source visit.left later
    ⟨visit :: course.visits, course.world⟩

/-- A session: an editor is opened at a terminal and asks for each line that is typed there. -/
def session (world : World) (path : Bytes) (limit : Option Nat) (asked : List Asked) : Course :=
  let input := Input.ofKeys world.environment (asked.map Asked.keys)
  let opened := create world (some path) limit input
  opened.editor.readAll { world with files := opened.files } asked

/-- Sessions one after the other over the same history file. -/
def sessions (world : World) (path : Bytes) (limit : Option Nat) : List (List Asked) → Course
  | [] => ⟨[], world⟩
  | asked :: later =>
    let first := session world path limit asked
    let course := sessions first.world path limit later
    ⟨first.visits ++ course.visits, course.world⟩

/-- Visits at which this is typed, after others at which these lines have been entered. -/
structure Course.Keeps (world : World) (path : Bytes) (limit : Nat) (lines : List Text)
    (asked : List Asked) (course : Course) : Prop where
  answers : (course.visits.map fun visit => visit.reading.answer) =
    asked.map fun asked => .ok (some asked.line)
  /-- After each visit the file holds what is remembered of all lines so far. -/
  kept : course.visits.map (Visit.kept path) = asked.inits.tail.map fun begun =>
    .ok (History.fileOf (History.remembered limit (lines ++ entered begun)))
  silent : ∀ visit ∈ course.visits, visit.reading.warnings = []
  /-- Nothing but files has changed. -/
  stays : course.world = { world with files := course.world.files }
  file : course.world.files.Holds world.directory path
    (History.fileOf (History.remembered limit (lines ++ entered asked)))

namespace Course.Keeps

variable {world : World} {path : Bytes} {limit : Nat} {lines : List Text}
  {before after : List Asked} {first second : Course}

theorem none
    (file : world.files.Holds world.directory path
      (History.fileOf (History.remembered limit lines))) :
    Course.Keeps world path limit lines [] ⟨[], world⟩ := by
  have nothing : lines ++ entered [] = lines := List.append_nil lines
  exact
    { answers := rfl
      kept := rfl
      silent := fun _ within => absurd within List.not_mem_nil
      stays := rfl
      file := by rw [nothing]; exact file }

theorem surroundings (keeps : first.Keeps world path limit lines before) :
    first.world.directory = world.directory ∧ first.world.environment = world.environment := by
  rw [keeps.stays]
  exact ⟨rfl, rfl⟩

/-- What is kept over one row of visits and over the next is kept over both. -/
theorem append (keeps : first.Keeps world path limit lines before)
    (more : second.Keeps first.world path limit (lines ++ entered before) after) :
    Course.Keeps world path limit lines (before ++ after)
      ⟨first.visits ++ second.visits, second.world⟩ := by
  have initial : (before ++ after).inits.tail =
      before.inits.tail ++ after.inits.tail.map (before ++ ·) := by
    have some : before.inits ≠ [] := List.ne_nil_of_mem ((List.mem_inits _ _).mpr List.nil_prefix)
    rw [List.inits_append, List.tail_append_of_ne_nil some]
  have together (begun : List Asked) :
      lines ++ entered (before ++ begun) = (lines ++ entered before) ++ entered begun := by
    rw [entered_append, List.append_assoc]
  constructor
  case answers => rw [List.map_append, keeps.answers, more.answers, List.map_append]
  case kept =>
    rw [List.map_append, keeps.kept, more.kept, initial, List.map_append, List.map_map]
    simp only [Function.comp_def, together]
  case silent =>
    intro visit within
    rcases List.mem_append.mp within with earlier | later
    · exact keeps.silent visit earlier
    · exact more.silent visit later
  case stays => rw [more.stays, keeps.stays]
  case file =>
    rw [together, ← keeps.surroundings.1]
    exact more.file

end Course.Keeps

/-- One visit keeps what is typed at it. -/
theorem Visit.Answers.alone {path : Bytes} {limit : Nat} {lines : List Text} {later : List Bytes}
    {visit : Visit} (answers : visit.Answers path limit lines asked later) :
    Course.Keeps visit.world path limit lines [asked] ⟨[visit], visit.left⟩ := by
  have file := answers.remembers.file
  rw [← entered_singleton] at file
  exact
    { answers := by simp [answers.answer]
      kept := congrArg (fun content => [content]) file.read
      silent := by simp [answers.silent]
      stays := rfl
      file }

/-- An editor that has saved what it remembers goes on doing so with each line. -/
theorem Remembers.readAll {path : Bytes} {limit : Nat} {lines : List Text} {world : World}
    (remembers : Remembers path limit lines editor world) {asked : List Asked}
    (input : editor.input = .ofKeys world.environment (asked.map Asked.keys))
    (suits : ∀ one ∈ asked, one.Suits world.environment) :
    (editor.readAll world asked).Keeps world path limit lines asked := by
  induction asked generalizing editor world lines with
  | nil => exact .none remembers.file
  | cons one later ih =>
    obtain ⟨first, others⟩ := List.forall_mem_cons.mp suits
    have visit := remembers.read input first one.prompt
    have alone := visit.alone
    refine alone.append ?_
    rw [entered_singleton]
    exact ih visit.remembers visit.input others

/-- A new editor takes up what has been saved, -/
theorem create_remembers {world : World} {path : Bytes} {limit : Option Nat} {lines : List Text}
    (plain : ∀ line ∈ lines, '\r' ∉ line)
    (file : world.files.Holds world.directory path
      (History.fileOf (History.remembered (limit.getD 100) lines))) (input : Input) :
    let opened := create world (some path) limit input
    Remembers path (limit.getD 100) lines opened.editor { world with files := opened.files } := by
  have loads := History.load_holds plain file
  cases limit <;> exact ⟨rfl, loads.history, loads.file⟩

/-- or makes a new file. -/
theorem create_remembers_of_absent {world : World} {path name : Bytes} {directory : NodeId}
    (absent : world.files.locate true world.directory path = .ok (.absent directory name))
    (writable : (world.files.pathOf directory).isSome) (limit : Option Nat) (input : Input) :
    let opened := create world (some path) limit input
    Remembers path (limit.getD 100) [] opened.editor { world with files := opened.files } := by
  have loads := History.load_holds_of_absent absent writable (limit.getD 100)
  cases limit <;> exact ⟨rfl, loads.history, loads.file⟩

/-- A session whose editor has taken up these lines keeps them with its own. -/
theorem session_keeps {world : World} {path : Bytes} {limit : Option Nat} {lines : List Text}
    (opens : ∀ input, Remembers path (limit.getD 100) lines
      (create world (some path) limit input).editor
      { world with files := (create world (some path) limit input).files })
    {asked : List Asked} (suits : ∀ one ∈ asked, one.Suits world.environment) :
    (session world path limit asked).Keeps world path (limit.getD 100) lines asked := by
  have opened := opens (.ofKeys world.environment (asked.map Asked.keys))
  obtain ⟨answers, kept, silent, stays, file⟩ := opened.readAll rfl suits
  exact ⟨answers, kept, silent, stays, file⟩

/-- A row of sessions, of which the first has taken up these lines, keeps them with all its own. -/
theorem sessions_keeps {world : World} {path : Bytes} {limit : Option Nat} {lines : List Text}
    (opens : ∀ input, Remembers path (limit.getD 100) lines
      (create world (some path) limit input).editor
      { world with files := (create world (some path) limit input).files })
    (plain : ∀ line ∈ lines, '\r' ∉ line) (asked : List Asked) (later : List (List Asked))
    (suits : ∀ one ∈ (asked :: later).flatten, one.Suits world.environment) :
    (sessions world path limit (asked :: later)).Keeps world path (limit.getD 100) lines
      (asked :: later).flatten := by
  -- By induction on the later sessions: only the first of all may find no file to take up.
  induction later generalizing asked world lines with
  | nil =>
    have own := List.forall_mem_append.mp suits
    have first := session_keeps opens own.1
    exact first.append (.none (first.surroundings.1 ▸ first.file))
  | cons next later ih =>
    have own := List.forall_mem_append.mp suits
    have first := session_keeps opens own.1
    obtain ⟨directory, environment⟩ := first.surroundings
    have all := List.forall_mem_append.mpr ⟨plain, noReturn_of_mem_entered own.1⟩
    refine first.append (ih (create_remembers all (directory ▸ first.file)) all next ?_)
    rw [environment]
    exact own.2

/-- What a reading gives does not depend on its prompt. -/
theorem read_prompt (editor : Editor) (prompt other : String) (world : World) :
    (editor.read prompt world).answer = (editor.read other world).answer ∧
      (editor.read prompt world).files = (editor.read other world).files := by
  unfold Editor.read
  -- The prompt is printed and goes nowhere else, whatever is read.
  generalize editor.next = next
  rcases next with ⟨fault | _ | ⟨line, _ | _⟩, input⟩ <;> exact ⟨rfl, rfl⟩

/-- A row of sessions over a history file that was missing at first. -/
structure Survives (world : World) (path : Bytes) (limit : Option Nat)
    (rounds : List (List Asked)) : Prop where
  /-- Each line is handed over as it was typed, and a line that is given up is an empty one. -/
  answers : ((sessions world path limit rounds).visits.map fun visit => visit.reading.answer) =
    rounds.flatten.map fun asked => .ok (some asked.line)
  /-- After each reading the file holds what is remembered of all lines so far, of all sessions, -/
  kept : (sessions world path limit rounds).visits.map (Visit.kept path) =
    rounds.flatten.inits.tail.map fun begun =>
      .ok (History.fileOf (History.remembered (limit.getD 100) (entered begun)))
  /-- which is what it would hold after the same reading of a single session. -/
  once : (sessions world path limit rounds).visits.map (Visit.kept path) =
    (session world path limit rounds.flatten).visits.map (Visit.kept path)
  /-- Nothing is warned about. -/
  silent : ∀ visit ∈ (sessions world path limit rounds).visits, visit.reading.warnings = []
  /-- A round of a session of the shell evaluates its line over the files that the reading has left,
  whatever the line is. -/
  dispatched : ∀ visit ∈ (sessions world path limit rounds).visits,
    ∀ (platform : Platform) (shell : Shell) (writer : Writer),
      let turn := (Session.turn platform ⟨shell, visit.world, writer, visit.editor⟩).1
      turn.answer = visit.reading.answer ∧ turn.world.files = visit.reading.files

/-- **History survives restarts.** -/
theorem sessions_survive {world : World} {path name : Bytes} {directory : NodeId}
    (absent : world.files.locate true world.directory path = .ok (.absent directory name))
    (writable : (world.files.pathOf directory).isSome) (limit : Option Nat)
    {rounds : List (List Asked)}
    (suits : ∀ asked ∈ rounds.flatten, asked.Suits world.environment) :
    Survives world path limit rounds := by
  have opens := create_remembers_of_absent absent writable limit
  have single := session_keeps opens suits
  have row : ((sessions world path limit rounds).visits.map fun visit => visit.reading.answer) =
        (rounds.flatten.map fun asked => .ok (some asked.line)) ∧
      (sessions world path limit rounds).visits.map (Visit.kept path) =
        (rounds.flatten.inits.tail.map fun begun =>
          .ok (History.fileOf (History.remembered (limit.getD 100) (entered begun)))) ∧
      ∀ visit ∈ (sessions world path limit rounds).visits, visit.reading.warnings = [] := by
    cases rounds with
    | nil => exact ⟨rfl, rfl, fun _ within => absurd within List.not_mem_nil⟩
    | cons asked later =>
      have keeps := sessions_keeps opens (fun _ within => absurd within List.not_mem_nil)
        asked later suits
      exact ⟨keeps.answers, keeps.kept, keeps.silent⟩
  obtain ⟨answers, kept, silent⟩ := row
  constructor
  case answers => exact answers
  case kept => exact kept
  case once => exact kept.trans single.kept.symm
  case silent => exact silent
  case dispatched =>
    intro visit _ platform shell writer
    let session : Session Editor := ⟨shell, visit.world, writer, visit.editor⟩
    obtain ⟨stage, _, answer, _⟩ := Session.answered_turn platform session (session.ask platform)
    obtain ⟨same, files⟩ := read_prompt visit.editor
      (shell.prompt platform.colours visit.world) visit.prompt visit.world
    have left := congrArg (·.world.files) stage
    exact ⟨answer.trans same, left.trans files⟩

/-- Three sessions under a limit of two entries: one with a backslash and a line that is given up,
one without lines, and one with a repetition, a line that is not remembered and an end. -/
theorem sessions_survive_three :
    let world : World := ⟨.bare, Files.root, ⟨[]⟩, {}⟩
    let typed (text : String) (ending : Ending) : Asked := ⟨"> ", text.toList, ending⟩
    let rounds :=
      [[typed "cd größe\\n" .carriageReturn, typed "echo a" .lineFeed, typed "exit" .interrupt], [],
        [typed "echo a" .carriageReturn, typed " secret" .lineFeed, typed "exit" .carriageReturn]]
    let path := Bytes.ofString "hist"
    world.files.locate true world.directory path = .ok (.absent Files.root path) ∧
      (world.files.pathOf Files.root).isSome ∧
      (∀ asked ∈ rounds.flatten, asked.Suits world.environment) ∧
      Survives world path (some 2) rounds := by
  intro world typed rounds path
  have absent : world.files.locate true world.directory path = .ok (.absent Files.root path) := by
    decide
  have writable : (world.files.pathOf Files.root).isSome := by decide
  have suits : ∀ asked ∈ rounds.flatten, asked.Suits world.environment := by decide
  exact ⟨absent, writable, suits, sessions_survive absent writable (some 2) suits⟩

end Editor

end LineShell
