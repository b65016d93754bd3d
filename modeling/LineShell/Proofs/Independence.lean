import LineShell.Proofs.Buffering
import LineShell.Proofs.Restarts

/-!
# Reading without the history

What is typed is read with the help of the history only if the key that goes back in it is among the
keys (`Typed.ofKeys_above`), and that key leaves its bytes in what is typed (`Key.infix_of_up_mem`).
Without it two editors over one input answer alike, whatever they remember and wherever they keep it
(`Editor.Alike.read`). Neither does the file get in the way: one that cannot be read, made or written
is warned about, and that is all (`History.takenUp_load`, `Editor.keeps_reading`). Together:
`Editor.create_readsAlike`.
-/
namespace LineShell

namespace Key

/-- What a terminal sends for the arrow up. -/
def upBytes : Bytes := [0x1B, 0x5B, 0x41]

/-- The arrow up is read from its characters alone. -/
theorem chars_of_up_mem {text : Text} (within : .up ∈ ofText text) :
    ∃ front back, text = front ++ '\x1b' :: '[' :: 'A' :: back := by
  fun_induction ofText text with
  | case1 => cases within
  | case2 rest => exact ⟨[], rest, rfl⟩
  | case3 c rest _ ih =>
    have later : .up ∈ ofText rest := by
      rcases List.mem_cons.mp within with first | later
      · split_ifs at first
      · exact later
    obtain ⟨front, back, rfl⟩ := ih later
    exact ⟨c :: front, back, rfl⟩

/-- Its characters are ASCII, so they come from its bytes. -/
theorem infix_of_up_mem {bytes : Bytes} (within : .up ∈ ofText (Utf8.lossy bytes)) :
    upBytes <:+: bytes := by
  have small : ∀ byte ∈ ([0x5B, 0x41] : Bytes), byte < 0x80 := by simp
  obtain ⟨front, back, text⟩ := chars_of_up_mem within
  obtain ⟨before, rest, rfl, -, others⟩ :=
    @Utf8.exists_cut_of_lossy 0x1B (by decide) bytes front _ text
  obtain ⟨after, rfl⟩ := @Utf8.prefix_of_lossy _ small rest back others
  exact ⟨before, after, by simp [upBytes]⟩

end Key

/-- Without the arrow up nothing is looked for above the draft. -/
theorem Typed.ofKeys_above {keys : List Key} (noUp : .up ∉ keys) (before after : Text)
    (above other : List Text) :
    ofKeys ⟨before, after, above⟩ keys = ofKeys ⟨before, after, other⟩ keys := by
  induction keys generalizing before after with
  | nil => rfl
  | cons key rest ih =>
    rw [List.mem_cons, not_or] at noUp
    obtain ⟨first, later⟩ := noUp
    cases key with
    | letter c => exact ih later ..
    | enter => rfl
    | interrupt => rfl
    | endOfInput =>
      by_cases empty : before ++ after = []
      · rw [ofKeys, ofKeys, Draft.text, Draft.text, if_pos empty, if_pos empty]
      · rw [ofKeys, ofKeys, Draft.text, Draft.text, if_neg empty, if_neg empty]
        exact ih later ..
    | backspace => exact ih later ..
    | up => exact absurd rfl first

namespace History

/-- What is warned about when a history file cannot be made, -/
def creationWarning (path : Bytes) : Warning :=
  ⟨.reading, "Failed to create history file: failed to create file \x60" ++ path.display ++ "\x60"⟩

/-- and when it cannot be written. -/
def savingWarning (path : Bytes) : Warning :=
  ⟨.reading, "Failed to save history file: " ++ path.display⟩

/-- Saving finds nothing to do, or writes the file, or warns. -/
theorem save_cases (history : History) (world : World) (path : Bytes) :
    history.save world path = ⟨history, world.files, []⟩ ∨
      (world.files.write world.directory path history.toBytes =
          .ok (history.save world path).files ∧
        (history.save world path).history = { history with unsaved := 0 } ∧
        (history.save world path).warnings = []) ∨
      ∃ refusal, world.files.write world.directory path history.toBytes = .error refusal ∧
        history.save world path = ⟨history, world.files, [savingWarning path]⟩ := by
  rw [save]
  split
  · exact .inl rfl
  · split
    · next files written => exact .inr (.inl ⟨written, rfl, rfl⟩)
    · next refusal failed => exact .inr (.inr ⟨refusal, failed, rfl⟩)

/-- A history file that can be read to its end. -/
def Readable (world : World) (path : Bytes) : Prop :=
  ∃ content, world.files.read world.directory path = .ok content ∧ Utf8.valid content = true

/-- The warnings that are none of the shell's own: entries that were escaped badly. -/
def Notes (warnings : List Warning) : Prop := ∀ warning ∈ warnings, warning.origin = .editing

theorem notes_readEscaped (line : Text) : Notes (readEscaped line).2 := by
  unfold readEscaped
  split <;> simp [Notes]

theorem notes_loadRest (escaped : Bool) (history : History) (lines : List Bytes) :
    Notes (loadRest escaped history lines).warnings := by
  induction lines generalizing history with
  | nil => exact List.forall_mem_nil _
  | cons line rest ih =>
    rw [loadRest.eq_def]
    simp only
    split
    · exact List.forall_mem_nil _
    · exact ih history
    · next text _ _ =>
      refine List.forall_mem_append.mpr ⟨?_, ih _⟩
      cases escaped with
      | false => exact List.forall_mem_nil _
      | true => exact notes_readEscaped text

theorem notes_loadContent (history : History) (content : Bytes) :
    Notes (history.loadContent content).warnings := by
  have settled (loading : Loading) :
      (if loading.whole then
        { loading with history := { loading.history with unsaved := 0 } } else loading).warnings =
        loading.warnings := by
    split <;> rfl
  rw [loadContent, settled]
  cases Text.lines content with
  | nil => exact List.forall_mem_nil _
  | cons first rest =>
    simp only
    split
    · exact List.forall_mem_nil _
    · split <;> exact notes_loadRest _ _ rest

/-- What becomes of the files and what is warned about when a history is taken up. -/
inductive TakenUp (world : World) : Option Bytes → Files → List Warning → Prop where
  | nowhere : TakenUp world none world.files []
  | read {path : Bytes} {notes : List Warning} (readable : Readable world path)
      (own : Notes notes) : TakenUp world (some path) world.files notes
  | anew {path : Bytes} {files : Files} {notes : List Warning}
      (unreadable : ¬ Readable world path)
      (written : world.files.write world.directory path [] = .ok files)
      (own : Notes notes) : TakenUp world (some path) files notes
  | refused {path : Bytes} {refusal : Refusal} {notes : List Warning}
      (unreadable : ¬ Readable world path)
      (failed : world.files.write world.directory path [] = .error refusal)
      (own : Notes notes) :
      TakenUp world (some path) world.files (notes ++ [creationWarning path])

/-- What is read of a file that may not be there. -/
def loaded (history : History) (world : World) (path : Bytes) : Loading :=
  match world.files.read world.directory path with
  | .ok content => history.loadContent content
  | .error _ => ⟨history, [], false⟩

theorem notes_loaded (history : History) (world : World) (path : Bytes) :
    Notes (history.loaded world path).warnings := by
  unfold loaded
  split
  · exact notes_loadContent history _
  · exact List.forall_mem_nil _

theorem whole_loaded (history : History) (world : World) (path : Bytes) :
    (history.loaded world path).whole = true ↔ Readable world path := by
  unfold loaded Readable
  split
  · next content holds => simp [holds, whole_loadContent]
  · next refusal failed => simp [failed]

/-- Taking up a history never fails: what cannot be read is begun anew, if that can be done. -/
theorem takenUp_load (history : History) (world : World) (path : Bytes) :
    TakenUp world (some path) (history.load world path).files
      (history.load world path).warnings := by
  have own := history.notes_loaded world path
  by_cases readable : Readable world path
  · have whole := (history.whole_loaded world path).mpr readable
    have same : history.load world path = ⟨(history.loaded world path).history, world.files,
        (history.loaded world path).warnings⟩ := if_pos whole
    rw [same]
    exact .read readable own
  · have partly : ¬ (history.loaded world path).whole = true := by
      rwa [whole_loaded]
    cases written : world.files.write world.directory path [] with
    | ok files =>
      have same : history.load world path = ⟨(history.loaded world path).history, files,
          (history.loaded world path).warnings⟩ := (if_neg partly).trans (by rw [written]; rfl)
      rw [same]
      exact .anew readable written own
    | error refusal =>
      have same : history.load world path = ⟨(history.loaded world path).history, world.files,
          (history.loaded world path).warnings ++ [creationWarning path]⟩ :=
        (if_neg partly).trans (by rw [written]; rfl)
      rw [same]
      exact .refused readable written own

end History

namespace Editor

/-! ## Two editors over one input -/

/-- The arrow up is not typed. -/
def Input.NeverRecalls : Input → Prop
  | .typed keys => ¬ Key.upBytes <:+: keys.flatten
  | .lines _ => True
  | .shared _ => True

instance : DecidablePred Input.NeverRecalls
  | .typed keys => inferInstanceAs (Decidable (¬ Key.upBytes <:+: keys.flatten))
  | .lines _ => isTrue trivial
  | .shared _ => isTrue trivial

theorem flatten_carried (left : Bytes) (later : List Bytes) :
    (carried left later).flatten = left ++ later.flatten := by
  cases later with
  | nil => by_cases none : left = [] <;> simp [carried, none]
  | cons keys later => simp [carried]

/-- Keys that are left over have been typed. -/
theorem carried_neverRecalls {keys : Bytes} {later : List Bytes}
    (never : (Input.typed (keys :: later)).NeverRecalls) (used : Nat) :
    (Input.typed (carried (leftover keys used) later)).NeverRecalls := by
  intro recalled
  rw [flatten_carried] at recalled
  have last : leftover keys used <:+ keys := List.drop_suffix ..
  exact never (recalled.trans (List.suffix_append_self_iff.mpr last).isInfix)

/-- The same lines lie before both, which need not share anything else. -/
structure Alike (editor other : Editor) : Prop where
  input : other.input = editor.input
  never : editor.input.NeverRecalls

variable {editor other : Editor}

/-- What comes out of the input is the same, and the arrow up is not typed later on either. -/
theorem Alike.next (alike : Alike editor other) :
    other.next = editor.next ∧ editor.next.2.NeverRecalls := by
  obtain ⟨same, never⟩ := alike
  cases input : editor.input with
  | lines bytes =>
    rw [input] at same
    simp only [Editor.next, input, same]
    exact ⟨trivial, trivial⟩
  | shared buffer =>
    rw [input] at same
    simp only [Editor.next, input, same]
    exact ⟨trivial, trivial⟩
  | typed keys =>
    rw [input] at same never
    cases keys with
    | nil =>
      simp only [Editor.next, input, same]
      exact ⟨trivial, never⟩
    | cons keys later =>
      have noUp : .up ∉ Key.ofText (Utf8.lossy keys) := fun within =>
        never ((Key.infix_of_up_mem within).trans (List.prefix_append ..).isInfix)
      have typed := Typed.ofKeys_above noUp [] [] other.history.entries.reverse
        editor.history.entries.reverse
      simp only [Editor.next, input, same, Draft.blank, typed, true_and]
      split <;> exact carried_neverRecalls never _

variable (editor) (prompt : String) (world : World)

/-- A reading hands over what comes out of the input, and saves where it always does. -/
theorem read_eq :
    (editor.read prompt world).answer = editor.next.1.map (Option.map Prod.fst) ∧
      (editor.read prompt world).source.input = editor.next.2 ∧
      (editor.read prompt world).source.historyFile = editor.historyFile := by
  unfold Editor.read
  generalize editor.next = next
  rcases next with ⟨fault | _ | ⟨line, _ | _⟩, input⟩ <;> exact ⟨rfl, rfl, rfl⟩

variable {editor} {prompt world}

theorem Alike.read (alike : Alike editor other) (otherPrompt : String) (otherWorld : World) :
    (other.read otherPrompt otherWorld).answer = (editor.read prompt world).answer ∧
      Alike (editor.read prompt world).source (other.read otherPrompt otherWorld).source := by
  obtain ⟨answer, input, _⟩ := editor.read_eq prompt world
  obtain ⟨otherAnswer, otherInput, _⟩ := other.read_eq otherPrompt otherWorld
  obtain ⟨same, never⟩ := alike.next
  rw [same] at otherAnswer otherInput
  exact ⟨otherAnswer.trans answer.symm, otherInput.trans input.symm, input ▸ never⟩

/-- A time at which an editor is asked. Programs that share its input may have read on in it. -/
structure Occasion where
  prompt : String
  world : World
  left : Option Supply := none

/-- An editor on an occasion. -/
def Occasion.visit (occasion : Occasion) (editor : Editor) : Visit :=
  ⟨occasion.left.elim editor (LineSource.restock editor), occasion.world, occasion.prompt⟩

/-- The visits of an editor that is asked on these occasions, one after the other. -/
def visits : Editor → List Occasion → List Visit
  | _, [] => []
  | editor, occasion :: rest =>
    occasion.visit editor :: visits (occasion.visit editor).reading.source rest

theorem Alike.restock (alike : Alike editor other) (left : Supply) :
    Alike (LineSource.restock editor left) (LineSource.restock other left) := by
  obtain ⟨same, never⟩ := alike
  cases input : editor.input <;> rw [input] at same <;>
    simp only [LineSource.restock, input, same]
  case shared buffer => exact ⟨rfl, trivial⟩
  case typed keys => exact ⟨same.trans input.symm, never⟩
  case lines bytes => exact ⟨same.trans input.symm, never⟩

theorem Alike.visit (alike : Alike editor other) {occasion another : Occasion}
    (left : another.left = occasion.left) :
    (another.visit other).reading.answer = (occasion.visit editor).reading.answer ∧
      Alike (occasion.visit editor).reading.source (another.visit other).reading.source := by
  unfold Occasion.visit
  rw [left]
  cases occasion.left with
  | none => exact alike.read ..
  | some left => exact (alike.restock left).read ..

/-- Any number of readings are answered alike, whatever happens to the files between them. -/
theorem Alike.answers (alike : Alike editor other) {occasions others : List Occasion}
    (left : others.map (·.left) = occasions.map (·.left)) :
    (visits other others).map (·.reading.answer) =
      (visits editor occasions).map (·.reading.answer) := by
  induction occasions generalizing editor other others with
  | nil =>
    obtain rfl : others = [] := List.map_eq_nil_iff.mp left
    rfl
  | cons occasion occasions ih =>
    obtain ⟨another, others, rfl, first, later⟩ := List.map_eq_cons_iff.mp left
    obtain ⟨answer, after⟩ := alike.visit first
    exact congrArg₂ (· :: ·) answer (ih after later)

/-- Readings that follow each other at once are visits of this kind. -/
theorem exists_occasions (world : World) (editor : Editor) (prompts : List String) :
    ∃ occasions : List Occasion, occasions.map (·.left) = prompts.map (fun _ => none) ∧
      (visits editor occasions).map (·.reading) = LineSource.readings world editor prompts := by
  induction prompts generalizing world editor with
  | nil => exact ⟨[], rfl, rfl⟩
  | cons prompt prompts ih =>
    let visit : Visit := ⟨editor, world, prompt⟩
    obtain ⟨occasions, left, readings⟩ := ih visit.left visit.reading.source
    exact ⟨⟨prompt, world, none⟩ :: occasions, congrArg (_ :: ·) left,
      congrArg (_ :: ·) readings⟩

theorem Alike.answers_readings (alike : Alike editor other) (world otherWorld : World)
    (prompts : List String) :
    (LineSource.readings otherWorld other prompts).map (·.answer) =
      (LineSource.readings world editor prompts).map (·.answer) := by
  obtain ⟨occasions, left, readings⟩ := exists_occasions world editor prompts
  obtain ⟨others, otherLeft, otherReadings⟩ := exists_occasions otherWorld other prompts
  rw [← readings, ← otherReadings, List.map_map, List.map_map]
  exact alike.answers (otherLeft.trans left.symm)

/-! ## The history file -/

theorem remember_of_file {path : Bytes} (file : editor.historyFile = some path) (world : World)
    (line : Bytes) :
    let kept := (editor.history.add (Utf8.lossy line)).save world path
    editor.remember world line =
      ⟨{ editor with history := kept.history }, kept.files, kept.warnings⟩ := by
  rw [remember, file]

/-- A reading and the history file. Only a line that is handed over is saved, and it is handed over
even if that fails. -/
inductive Visit.Keeps (visit : Visit) : Option Bytes → Prop where
  | quiet {file : Option Bytes} (files : visit.reading.files = visit.world.files)
      (warnings : visit.reading.warnings = []) : Keeps visit file
  | saved {path : Bytes}
      (written : visit.world.files.write visit.world.directory path
        visit.reading.source.history.toBytes = .ok visit.reading.files)
      (warnings : visit.reading.warnings = []) : Keeps visit (some path)
  | refused {path line : Bytes} {refusal : Refusal}
      (failed : visit.world.files.write visit.world.directory path
        visit.reading.source.history.toBytes = .error refusal)
      (files : visit.reading.files = visit.world.files)
      (warnings : visit.reading.warnings = [History.savingWarning path])
      (answer : visit.reading.answer = .ok (some line)) : Keeps visit (some path)

/-- An editor saves where it keeps its history, and nowhere else. -/
theorem keeps_reading (visit : Visit) : visit.Keeps visit.editor.historyFile := by
  rcases visit with ⟨editor, world, prompt⟩
  rcases next : editor.next with ⟨fault | _ | ⟨line, _ | _⟩, input⟩
  case error | ok.none | ok.some.false =>
    refine .quiet ?_ ?_ <;> rw [Visit.reading, Editor.read, next]
  case ok.some.true =>
    obtain ⟨printed, reading⟩ := read_of_entered prompt world next
    cases file : editor.historyFile with
    | none => refine .quiet ?_ ?_ <;> simp [Visit.reading, reading, Editor.remember, file]
    | some path =>
      have remembered := @remember_of_file { editor with input } path file world line
      rw [remembered] at reading
      -- A line that is ignored is not saved either, unless an earlier one waits to be saved.
      rcases (editor.history.add (Utf8.lossy line)).save_cases world path with
        spared | ⟨written, history, silent⟩ | ⟨refusal, failed, kept⟩
      · refine .quiet ?_ ?_ <;> simp only [Visit.reading, reading, spared]
      · refine .saved ?_ ?_ <;> simp only [Visit.reading, reading]
        · rw [history]
          exact written
        · exact silent
      · have same : (Visit.reading ⟨editor, world, prompt⟩).source.history =
            editor.history.add (Utf8.lossy line) := by
          simp only [Visit.reading, reading, kept]
        refine .refused (same ▸ failed) ?_ ?_ (congrArg Reading.answer reading) <;>
          simp only [Visit.reading, reading, kept]

/-- What opening an editor and reading with it do to the files, and that a history that cannot be
had is no more than warned about. -/
structure Opened.OnlyWarns (world : World) (file : Option Bytes) (limit : Option Nat)
    (input : Input) (opened : Opened) : Prop where
  /-- The editor of a terminal that has one can be had without a fault, -/
  obtained : obtain world file limit (some input) = .ok opened
  /-- and is over the whole input. -/
  input : opened.editor.input = input
  /-- Its history has been taken up, or begun anew, or there is none; -/
  opening : History.TakenUp world file opened.files opened.warnings
  /-- and each reading keeps it in the file, or does not. -/
  reading : ∀ occasions, ∀ visit ∈ visits opened.editor occasions, visit.Keeps file

/-- An editor keeps its history where it always did, -/
theorem historyFile_visit (editor : Editor) (occasion : Occasion) :
    (occasion.visit editor).editor.historyFile = editor.historyFile := by
  unfold Occasion.visit
  cases occasion.left with
  | none => rfl
  | some left => cases input : editor.input <;> simp [LineSource.restock, input]

/-- however often it is asked. -/
theorem historyFile_visits {visit : Visit} {occasions : List Occasion}
    (within : visit ∈ visits editor occasions) : visit.editor.historyFile = editor.historyFile := by
  induction occasions generalizing editor with
  | nil => cases within
  | cons occasion occasions ih =>
    rcases List.mem_cons.mp within with rfl | later
    · exact historyFile_visit editor occasion
    · obtain ⟨_, _, kept⟩ := (occasion.visit editor).editor.read_eq occasion.prompt occasion.world
      exact (ih later).trans (kept.trans (historyFile_visit editor occasion))

theorem create_onlyWarns (world : World) (file : Option Bytes) (limit : Option Nat)
    (input : Input) : (create world file limit input).OnlyWarns world file limit input where
  obtained := rfl
  input := rfl
  opening := by
    cases file with
    | none => exact .nowhere
    | some path => cases limit <;> exact History.takenUp_load ..
  reading := fun occasions visit within => by
    have same : visit.editor.historyFile = file := historyFile_visits within
    exact same ▸ keeps_reading visit

/-- Two editors that have been opened over one input, each with a history of its own. -/
structure Opened.ReadsAlike (world otherWorld : World) (file otherFile : Option Bytes)
    (limit otherLimit : Option Nat) (input : Input) (opened other : Opened) : Prop where
  /-- Whatever becomes of their histories, both can read, -/
  one : opened.OnlyWarns world file limit input
  another : other.OnlyWarns otherWorld otherFile otherLimit input
  /-- and what they read are the same lines, ends of the input and faults, -/
  answers : ∀ prompts : List String,
    (LineSource.readings { otherWorld with files := other.files } other.editor prompts).map
        (·.answer) =
      (LineSource.readings { world with files := opened.files } opened.editor prompts).map
        (·.answer)
  /-- also if anything else happens between the readings. -/
  anywhere : ∀ occasions others : List Occasion,
    others.map (·.left) = occasions.map (·.left) →
    (visits other.editor others).map (·.reading.answer) =
      (visits opened.editor occasions).map (·.reading.answer)

/-- **The history does not interfere with reading.** Where the arrow up is not typed, any two
choices of a history file and a limit give an editor each, and any number of readings the same
answers; a file that cannot be read, made or written is warned about and stands in nobody's way. -/
theorem create_readsAlike {input : Input} (never : input.NeverRecalls) (world otherWorld : World)
    (file otherFile : Option Bytes) (limit otherLimit : Option Nat) :
    (create world file limit input).ReadsAlike world otherWorld file otherFile limit otherLimit
      input (create otherWorld otherFile otherLimit input) :=
  have alike : Alike (create world file limit input).editor
      (create otherWorld otherFile otherLimit input).editor := ⟨rfl, never⟩
  { one := create_onlyWarns world file limit input
    another := create_onlyWarns otherWorld otherFile otherLimit input
    answers := alike.answers_readings _ _
    anywhere := fun _ _ left => alike.answers left }

/-- A history that is no text, and one in a directory that is missing. -/
theorem create_readsAlike_greeting :
    let input := Input.typed [Bytes.ofString "hi\r", [0xFF, 0x0D]]
    let latin := historyWorld [0xFF]
    input.NeverRecalls ∧
      (create latin (some (Bytes.ofString "hist")) none input).ReadsAlike latin (historyWorld [])
        (some (Bytes.ofString "hist")) (some (Bytes.ofString "gone/hist")) none (some 0) input
        (create (historyWorld []) (some (Bytes.ofString "gone/hist")) (some 0) input) := by
  intro input latin
  have never : input.NeverRecalls := by decide
  exact ⟨never, create_readsAlike never latin (historyWorld []) _ _ none (some 0)⟩

/-- The arrow up does bring back what is remembered: at the beginning of a line it is the latest
entry. -/
theorem next_of_up {entries : List Text} {entry : Text} {later : List Bytes}
    (input : editor.input = .typed ((Key.upBytes ++ [0x0D]) :: later))
    (remembers : editor.history.entries = entries ++ [entry]) :
    editor.next.1 = .ok (some (Utf8.encode entry, true)) := by
  have keys : Key.ofText (Utf8.lossy (Key.upBytes ++ [0x0D])) = [.up, .enter] := by decide
  have above : (Draft.blank (entries ++ [entry])).goUp = ⟨entry, [], entries.reverse⟩ := by
    simp [Draft.goUp, Draft.blank, Text.pieces]
  have typed : Typed.ofKeys (Draft.blank (entries ++ [entry])) [.up, .enter] =
      (.line entry, []) := by
    rw [Typed.ofKeys, above, Typed.ofKeys, Draft.text, List.append_nil]
  simp only [Editor.next, input, remembers, keys, typed]

end Editor

end LineShell
