import LineShell.Input.Editor
import LineShell.Proofs.FileLines
import LineShell.Proofs.Lockstep
import LineShell.Proofs.Respelling

/-!
# Sessions over an editor

Over an input that is no terminal, an editor hands over the lines that a stream does, without their
endings. The words of a line do not depend on its ending, so a session over the editor takes the same
rounds as one over the stream (`run_overEditor`).
-/
namespace LineShell

/-- Evaluation goes by the words of a line. -/
theorem Command.evaluate_of_words {line other : Bytes} (same : words other = words line)
    (programs : Programs) (limit : Option Nat) (world : World) (writer : Writer) :
    evaluate programs limit world writer other = evaluate programs limit world writer line := by
  rw [evaluate_eq_fulfil, evaluate_eq_fulfil, Arguments.read_eq_listed, Arguments.read_eq_listed,
    same]

/-- The byte that takes back the character before it. -/
abbrev Text.backspace : UInt8 := 0x08

namespace Editor

/-- A line without its line feed, if it ends in one. -/
theorem withoutEnding_cases (line : Bytes) :
    withoutEnding line = line ∨
      ∃ front, line = front ++ [Text.lineFeed] ∧ withoutEnding line = Text.withoutReturn front := by
  by_cases ends : line.getLast? = some Text.lineFeed
  · have whole := List.dropLast_append_getLast? _ ends
    exact .inr ⟨line.dropLast, whole.symm, if_pos ends⟩
  · exact .inl (if_neg ends)

/-- The ending of a line is in no word. -/
theorem words_withoutEnding (line : Bytes) : words (withoutEnding line) = words line := by
  obtain same | ⟨front, rfl, without⟩ := withoutEnding_cases line
  · rw [same]
  · rw [without, words_concat_delimiter isDelimiter_lineFeed]
    obtain same | ended := Text.withoutReturn_cases front
    · rw [same]
    · have delimits : isDelimiter Text.carriageReturn = true := rfl
      rw [← words_concat_delimiter delimits, ← ended]

/-- The ending of a line is no more than ASCII, so a line that has a text has one without it. -/
theorem valid_withoutEnding {line : Bytes} (text : Utf8.valid line = true) :
    Utf8.valid (withoutEnding line) = true := by
  obtain same | ⟨front, rfl, without⟩ := withoutEnding_cases line
  · rwa [same]
  · rw [Utf8.valid_append_ascii (by decide), Bool.and_eq_true] at text
    rw [without, Text.valid_withoutReturn]
    exact text.1

theorem mem_of_mem_withoutEnding {byte : UInt8} {line : Bytes}
    (within : byte ∈ withoutEnding line) : byte ∈ line := by
  obtain same | ⟨front, rfl, without⟩ := withoutEnding_cases line
  · rwa [same] at within
  · rw [without] at within
    refine List.mem_append_left _ ?_
    obtain same | ended := Text.withoutReturn_cases front
    · rwa [same] at within
    · rw [ended]
      exact List.mem_append_left _ within

/-- Without backspaces a line is taken as it stands. -/
theorem withoutBackspaces_lossy {line : Bytes} (text : Utf8.valid line = true)
    (plain : Text.backspace ∉ line) : withoutBackspaces (Utf8.lossy line) = line := by
  have same := Utf8.encode_lossy text
  have none : (Utf8.lossy line).contains '\x08' = false := by
    rw [← Bool.not_eq_true, List.contains_iff_mem]
    intro within
    refine plain ?_
    rw [← same]
    exact List.mem_flatMap.mpr ⟨'\x08', within, by decide⟩
  rw [withoutBackspaces, none]
  exact same

/-- A line of text without backspaces is handed over without its ending. -/
theorem lineOf_eq {line : Bytes} (nonempty : line ≠ []) (text : Utf8.valid line = true)
    (plain : Text.backspace ∉ line) : lineOf line = .ok (some (withoutEnding line, true)) := by
  have bare := valid_withoutEnding text
  have unmarked : Text.backspace ∉ withoutEnding line :=
    fun within => plain (mem_of_mem_withoutEnding within)
  rw [lineOf, if_neg nonempty, Utf8.decode?, if_pos bare]
  simp only [withoutBackspaces_lossy bare unmarked]

/-- What is cut off has a text, and what is left has one. -/
theorem valid_cutLine {bytes : Bytes} (text : Utf8.valid bytes = true) :
    Utf8.valid (Text.cutLine bytes).1 = true ∧ Utf8.valid (Text.cutLine bytes).2 = true := by
  by_cases feed : Text.lineFeed ∈ bytes
  · obtain ⟨front, back, rfl, noFeed⟩ := List.eq_append_cons_of_mem feed
    have small : Text.lineFeed < 0x80 := by decide
    rw [Utf8.valid_append_ascii small, Bool.and_eq_true] at text
    rw [Text.cutLine_append_feed noFeed, Utf8.valid_append_ascii small, text.1]
    exact ⟨rfl, text.2⟩
  · rw [Text.cutLine_of_noFeed feed]
    exact ⟨text, rfl⟩

/-- An editor and a stream over the same bytes come to the same lines but for their endings, and to
the same bytes after them. -/
theorem next_eq {editor : Editor} {stream : Stream} (unbroken : stream.failure = none)
    (input : editor.input = .lines stream.input) (text : Utf8.valid stream.input = true)
    (plain : Text.backspace ∉ stream.input) :
    editor.next =
      (stream.next.1.map (Option.map fun line => (withoutEnding line, true)),
        .lines stream.next.2) := by
  have line := (valid_cutLine text).1
  have bare : Text.backspace ∉ (Text.cutLine stream.input).1 := by
    intro within
    refine plain ?_
    rw [← Text.append_cutLine stream.input]
    exact List.mem_append_left _ within
  simp only [next, input, Stream.next, unbroken]
  by_cases empty : (Text.cutLine stream.input).1 = []
  · have spent : stream.input = [] := by_contra fun more => by
      have less := Text.length_cutLine_lt more
      rw [← List.nil_append (Text.cutLine stream.input).2, ← empty, Text.append_cutLine] at less
      exact Nat.lt_irrefl _ less
    simp [spent, Text.cutLine, lineOf, Except.map]
  · rw [if_neg empty, lineOf_eq empty line bare]
    rfl

/-- What is left has a text without backspaces again. -/
theorem plain_of_next {stream : Stream} (unbroken : stream.failure = none)
    (text : Utf8.valid stream.input = true) (plain : Text.backspace ∉ stream.input) :
    Utf8.valid stream.next.2 = true ∧ Text.backspace ∉ stream.next.2 := by
  simp only [Stream.next, unbroken]
  split
  · exact ⟨rfl, List.not_mem_nil⟩
  · refine ⟨(valid_cutLine text).2, fun within => plain ?_⟩
    rw [← Text.append_cutLine stream.input]
    exact List.mem_append_right _ within

/-- Programs find no input behind an editor of whole lines, and leave it as it is. -/
theorem supply_of_lines {editor : Editor} {bytes : Bytes} (input : editor.input = .lines bytes) :
    LineSource.supply editor = {} ∧ ∀ left, LineSource.restock editor left = editor := by
  simp [LineSource.supply, LineSource.restock, input]

/-- A reading of an editor that goes with the next reading of a stream. -/
structure ReadsAlong (stream : Stream) (prompt : String) (world : World)
    (reading : Reading Editor) : Prop where
  answer : reading.answer = stream.next.1.map (Option.map withoutEnding)
  input : reading.source.input = .lines stream.next.2
  forgetful : reading.source.historyFile = none
  files : reading.files = world.files
  shown : ∃ shown, shown <+: Bytes.ofString prompt ∧ reading.printed = Printed.of .prompt shown
  warnings : reading.warnings = []

/-- An editor without a history file reads along with a stream over the same bytes. -/
theorem read_alongside {editor : Editor} {stream : Stream} (unbroken : stream.failure = none)
    (input : editor.input = .lines stream.input) (text : Utf8.valid stream.input = true)
    (plain : Text.backspace ∉ stream.input) (forgetful : editor.historyFile = none)
    (prompt : String) (world : World) :
    ReadsAlong stream prompt world (editor.read prompt world) := by
  have shown : ∃ shown, shown <+: Bytes.ofString prompt ∧
      (if editor.plain then Printed.of .prompt (Bytes.ofString prompt) else []) =
        Printed.of .prompt shown := by
    split
    · exact ⟨_, List.prefix_rfl, rfl⟩
    · exact ⟨[], List.nil_prefix, rfl⟩
  simp only [read, next_eq unbroken input text plain]
  cases answer : stream.next.1 with
  | error fault => exact ⟨by rw [answer]; rfl, rfl, forgetful, rfl, shown, rfl⟩
  | ok given =>
    cases given with
    | none => exact ⟨by rw [answer]; rfl, rfl, forgetful, rfl, shown, rfl⟩
    | some line =>
      simp only [Except.map, Option.map_some, remember, forgetful]
      exact ⟨by rw [answer]; rfl, rfl, rfl, rfl, shown, rfl⟩

end Editor

namespace Session

/-- A session over a stream that ends, and one over an editor with the same bytes before it. -/
structure OverEditor (session : Session Stream) (other : Session Editor) : Prop where
  /-- The shell, the files, the working directory and the writer are the same. -/
  stage : other.stage = session.stage
  unbroken : session.source.failure = none
  input : other.source.input = .lines session.source.input
  text : Utf8.valid session.source.input = true
  plain : Text.backspace ∉ session.source.input
  forgetful : other.source.historyFile = none

end Session

/-- Two rounds that differ in the ending of what is read and in what is shown of the prompt. -/
structure Turn.SameButEnding (platform : Platform) (turn other : Turn) : Prop where
  /-- The shell, the files, the working directory and the writer are the same. -/
  stage : other.stage = turn.stage
  prompt : other.prompt = turn.prompt
  /-- The same line is read, but without its ending, or the end is met. -/
  answer : other.answer = turn.answer.map (Option.map Editor.withoutEnding)
  /-- The line comes to the same, with all that a builtin or a program prints. -/
  evaluated : other.evaluated? platform = turn.evaluated? platform
  /-- The same faults are reported. -/
  diagnostics : other.diagnostics platform = turn.diagnostics platform
  /-- Each round prints its prompt, what its line does and what it reports. -/
  printed : turn.PrintsInOrder platform
  otherPrinted : other.PrintsInOrder platform
  warnings : other.warnings = turn.warnings

namespace Stage

variable (platform : Platform) (stage : Stage) (line : Bytes)

/-- On any stage a line comes to the same without its ending, -/
theorem evaluate_withoutEnding :
    stage.evaluate platform (Editor.withoutEnding line) = stage.evaluate platform line :=
  Command.evaluate_of_words (Editor.words_withoutEnding line) ..

/-- and leaves the same for the next one. -/
theorem settle_withoutEnding :
    stage.settle platform (Editor.withoutEnding line) = stage.settle platform line ∧
      stage.next platform (Editor.withoutEnding line) = stage.next platform line := by
  unfold next settle
  rw [evaluate_withoutEnding]
  exact ⟨rfl, rfl⟩

end Stage

/-- So does what is read in a round, with what is reported of it. -/
theorem Turn.came_of_withoutEnding {platform : Platform} {turn other : Turn}
    (stage : other.stage = turn.stage)
    (answer : other.answer = turn.answer.map (Option.map Editor.withoutEnding)) :
    other.evaluated? platform = turn.evaluated? platform ∧
      other.diagnostics platform = turn.diagnostics platform := by
  have shell : other.shell = turn.shell := congrArg Stage.shell stage
  unfold evaluated? diagnostics reported
  rw [answer, stage, shell]
  cases turn.answer with
  | error fault => exact ⟨rfl, rfl⟩
  | ok given =>
    cases given with
    | none => exact ⟨rfl, rfl⟩
    | some line =>
      simp only [Except.map, Option.map_some, Stage.evaluate_withoutEnding]
      exact ⟨trivial, trivial⟩

namespace Session.OverEditor

variable {session : Session Stream} {other : Session Editor} (platform : Platform)
  (met : OverEditor session other)

include met

/-- The editor reads along with the stream. -/
theorem ask : Editor.ReadsAlong session.source (other.stage.prompt platform) other.world
    (other.ask platform) :=
  Editor.read_alongside met.unbroken met.input met.text met.plain met.forgetful ..

/-- What they have read meets the same stage. -/
theorem meeting : other.meeting (other.ask platform) = session.meeting (session.ask platform) := by
  have reads := met.ask platform
  calc other.meeting (other.ask platform)
      = { other.stage with world := { other.stage.world with input := {} } } := by
        unfold Session.meeting
        rw [reads.files, (Editor.supply_of_lines reads.input).1]
        rfl
    _ = { session.stage with world := { session.stage.world with input := {} } } := by
        rw [met.stage]
    _ = session.meeting (session.ask platform) := rfl

/-- Their rounds differ in the endings alone. -/
theorem turn : Turn.SameButEnding platform (session.turn platform).1 (other.turn platform).1 := by
  have reads := met.ask platform
  obtain ⟨meets, prompt, given, silent⟩ := answered_turn platform session (session.ask platform)
  obtain ⟨otherMeets, otherPrompt, otherGiven, otherSilent⟩ :=
    answered_turn platform other (other.ask platform)
  rw [turn_eq, turn_eq]
  have stage := otherMeets.trans ((met.meeting platform).trans meets.symm)
  have answer : (other.answered platform (other.ask platform)).1.answer =
      (session.answered platform (session.ask platform)).1.answer.map
        (Option.map Editor.withoutEnding) := by
    rw [given, otherGiven]
    exact reads.answer
  obtain ⟨evaluated, diagnostics⟩ := @Turn.came_of_withoutEnding platform _ _ stage answer
  obtain ⟨shown, begins, prints⟩ := reads.shown
  exact
    { stage
      prompt := by rw [prompt, otherPrompt, met.stage]
      answer
      evaluated
      diagnostics
      printed := printsInOrder_turn platform session
      otherPrinted := printsInOrder_answered platform other begins prints
      warnings := by rw [silent, otherSilent, reads.warnings]; rfl }

/-- They are so after one more round, and end with the same code if they end. -/
theorem goTogether : GoTogether platform OverEditor (Turn.SameButEnding platform) session other := by
  have reads := met.ask platform
  have stage := met.meeting platform
  obtain ⟨text, plain⟩ := Editor.plain_of_next met.unbroken met.text met.plain
  refine @GoTogether.of_asked _ _ _ _ platform _ _ _ _ (fun stage other => other = stage)
    (met.turn platform) stage ?lines ?ends (fun _ => rfl)
    (Editor.supply_of_lines reads.input).2 ?again
  case lines =>
    intro line given
    obtain ⟨settles, leaves⟩ :=
      (session.meeting (session.ask platform)).settle_withoutEnding platform line
    refine ⟨Editor.withoutEnding line, ?_, ?_, ?_⟩
    · exact reads.answer.trans (congrArg (Except.map (Option.map Editor.withoutEnding)) given)
    · rw [stage, leaves]
    · rw [stage, settles]
  case ends =>
    intro spelled given
    rw [reads.answer] at given
    cases answer : session.source.next.1 with
    | error fault => simp [answer, Except.map] at given
    | ok read =>
      cases read with
      | none => simp [answer, Except.map] at given
      | some line => exact ⟨line, answer⟩
  case again =>
    intro next otherNext stage source otherSource
    exact
      { stage
        unbroken := by rw [source]; exact met.unbroken
        input := by rw [source, otherSource]; exact reads.input
        text := by rw [source]; exact text
        plain := by rw [source]; exact plain
        forgetful := by rw [otherSource]; exact reads.forgetful }

end Session.OverEditor

namespace Session

/-- The same session over a new editor, which keeps no history file and reads the same bytes from
something that is no terminal. -/
def overEditor (session : Session Stream) (limit : Option Nat) : Session Editor where
  shell := session.shell
  world := session.world
  writer := session.writer
  source := (Editor.create session.world none limit (.lines session.source.input)).editor

/-- **An editor drives the session that a stream does**, over any input that is text without
backspaces. -/
theorem run_overEditor (platform : Platform) (session : Session Stream) {input : Bytes}
    (text : Utf8.valid input = true) (plain : Text.backspace ∉ input) (limit : Option Nat) :
    InStep OverEditor (Turn.SameButEnding platform) ((session.given input).run platform)
      (((session.given input).overEditor limit).run platform) := by
  refine InStep.run (fun met => met.goTogether platform) ?_
  exact { stage := rfl, unbroken := rfl, input := rfl, text, plain, forgetful := rfl }

/-- A line with both marks at its end, an empty one, one with a carriage return inside, and one
without an end, in characters of one and of two bytes. -/
theorem run_overEditor_lines :
    let programs : Programs := fun _ files => ⟨0, files, [], 0⟩
    let platform : Platform := ⟨programs, some 64, false⟩
    let shell : Shell := ⟨⟨"user", false⟩, {}, .success⟩
    let session : Session Stream := ⟨shell, ⟨.bare, Files.root, ⟨[]⟩, {}⟩, {}, { input := [] }⟩
    let input := Bytes.ofString "echo größe\r\n\necho\ra\nexit 3"
    Utf8.valid input = true ∧ Text.backspace ∉ input ∧
      InStep OverEditor (Turn.SameButEnding platform) ((session.given input).run platform)
        (((session.given input).overEditor (some 10)).run platform) :=
  ⟨by decide, by decide, run_overEditor _ _ (by decide) (by decide) _⟩

end Session

end LineShell
