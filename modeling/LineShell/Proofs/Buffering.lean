import LineShell.Input.Buffered
import LineShell.Proofs.Lines
import LineShell.Proofs.Output
import Mathlib.Data.List.Forall2

/-!
# A stream behind a buffer

Whatever room a buffer has, a stream is read through it as it would be read on its own
(`BufferedStream.read_whole`). So the calls of a reader are answered with the lines of all its input,
one after the other, and then all alike (`Stream.answers_readings`); prompts go where they can go and
are not looked at (`BufferedStream.splitsInput`).
-/
namespace LineShell

/-- What a source answers to some prompts, one after the other. -/
def LineSource.readings {σ : Type} [LineSource σ] (world : World) :
    σ → List String → List (Reading σ)
  | _, [] => []
  | source, prompt :: rest =>
    let reading := LineSource.read source prompt world
    reading :: readings { world with files := reading.files } reading.source rest

/-- What the writer of the prompts has taken in a reading. -/
def Reading.shown {σ : Type} (reading : Reading σ) : Bytes :=
  Printed.select (· == .prompt) reading.printed

/-! ## The prompts -/

namespace Writer

/-- What is left of a writer after a prompt, which is passed on if it has been taken whole. -/
def prompted (writer : Writer) (prompt : String) : Writer :=
  let written := writer.write (Bytes.ofString prompt)
  if written.whole then written.writer.flush.2 else written.writer

/-- What a writer takes of some prompts, one after the other. -/
def takenEach : Writer → List String → List Bytes
  | _, [] => []
  | writer, prompt :: rest =>
    (writer.write (Bytes.ofString prompt)).taken :: takenEach (writer.prompted prompt) rest

/-- Of each prompt a first piece is taken. -/
theorem takenEach_prefix (writer : Writer) (prompts : List String) :
    List.Forall₂ (· <+: ·) (writer.takenEach prompts) (prompts.map Bytes.ofString) := by
  induction prompts generalizing writer with
  | nil => exact .nil
  | cons prompt rest ih => exact .cons (taken_write_isPrefix ..) (ih _)

/-- A writer that takes so many bytes in all takes the first bytes of all prompts. -/
theorem flatten_takenEach_limited (room : Nat) (flushFails : Bool) (prompts : List String) :
    ((limited room flushFails).takenEach prompts).flatten =
      ((prompts.map Bytes.ofString).flatten).take room := by
  induction prompts generalizing room with
  | nil => simp [takenEach]
  | cons prompt rest ih =>
    have left : (limited room flushFails).prompted prompt =
        limited (room - (Bytes.ofString prompt).length) flushFails := by
      simp [prompted, write_limited, flush_limited]
    rw [takenEach, left, List.flatten_cons, ih, List.map_cons, List.flatten_cons, List.take_append]
    rfl

/-- One that takes all it is given takes them all. -/
theorem flatten_takenEach_unlimited (flushFails : Bool) (prompts : List String) :
    ((⟨none, flushFails, []⟩ : Writer).takenEach prompts).flatten =
      (prompts.map Bytes.ofString).flatten := by
  induction prompts with
  | nil => rfl
  | cons prompt rest ih => exact congrArg (Bytes.ofString prompt ++ ·) ih

end Writer

/-- First pieces of some byte strings make up a first piece of them all, if nothing is taken after
one that is cut. -/
theorem flatten_isPrefix {pieces wholes : List Bytes} (each : List.Forall₂ (· <+: ·) pieces wholes)
    (stops : (pieces.zip wholes).Pairwise fun earlier later =>
      earlier.1 ≠ earlier.2 → later.1 = []) :
    pieces.flatten <+: wholes.flatten := by
  induction each with
  | nil => exact List.prefix_rfl
  | @cons piece whole pieces wholes first others ih =>
    obtain ⟨after, later⟩ := List.pairwise_cons.mp stops
    rw [List.flatten_cons, List.flatten_cons]
    by_cases same : piece = whole
    · rw [same]
      exact (List.prefix_append_right_inj whole).mpr (ih later)
    · have none : ∀ other ∈ pieces, other = [] := by
        intro other within
        rw [← List.map_fst_zip others.length_eq.le] at within
        obtain ⟨pair, paired, rfl⟩ := List.mem_map.mp within
        exact after pair paired same
      rw [List.flatten_eq_nil_iff.mpr none, List.append_nil]
      exact first.trans (List.prefix_append ..)

/-! ## The lines of a stream -/

/-- Every byte string is made of ended lines and of a rest without line feeds. -/
theorem Text.exists_ended (bytes : Bytes) :
    ∃ (ended : List Bytes) (last : Bytes), (∀ line ∈ ended, IsEnded line) ∧ lineFeed ∉ last ∧
      bytes = ended.flatten ++ last := by
  induction bytes using line_induction with
  | last line noFeed => exact ⟨[], line, by simp, noFeed, rfl⟩
  | ended front back noFeed ih =>
    obtain ⟨ended, last, feeds, lastNoFeed, rfl⟩ := ih
    refine ⟨(front ++ [lineFeed]) :: ended, last, ?_, lastNoFeed, by simp⟩
    rw [List.forall_mem_cons]
    exact ⟨⟨front, noFeed, rfl⟩, feeds⟩

/-- An ended line has one line feed, its last byte. -/
theorem Text.IsEnded.feed {line : Bytes} (isEnded : IsEnded line) :
    line ≠ [] ∧ lineFeed ∉ line.dropLast ∧ line.getLast? = some lineFeed := by
  obtain ⟨front, noFeed, rfl⟩ := isEnded
  simpa using noFeed

namespace Stream

/-- The stream with these bytes left of it. -/
def withInput (stream : Stream) (input : Bytes) : Stream := { stream with input }

@[simp] theorem input_withInput (stream : Stream) (input : Bytes) :
    (stream.withInput input).input = input := rfl

@[simp] theorem failure_withInput (stream : Stream) (input : Bytes) :
    (stream.withInput input).failure = stream.failure := rfl

@[simp] theorem withInput_withInput (stream : Stream) (first second : Bytes) :
    (stream.withInput first).withInput second = stream.withInput second := rfl

theorem withInput_input (stream : Stream) : stream.withInput stream.input = stream := rfl

/-- The answer to a call, the first one having the number 0. -/
def answerAt (stream : Stream) (count : Nat) : Except Fault (Option Bytes) :=
  match stream.lines[count]? with
  | some line => .ok (some line)
  | none => stream.closing

variable (stream : Stream) (prompt : String) (world : World)

/-- A reading uses up the first line. -/
theorem lines_read : (stream.read prompt world).source.lines = stream.lines.tail := by
  cases ready : stream.lines with
  | nil => exact (next_of_lines_nil ready).2 _
  | cons line rest => exact (next_of_lines_cons ready).2 _

theorem answer_read : (stream.read prompt world).answer = stream.answerAt 0 := by
  unfold answerAt
  cases ready : stream.lines with
  | nil => exact (next_of_lines_nil ready).1
  | cons line rest => exact (next_of_lines_cons ready).1

theorem answerAt_read (count : Nat) :
    (stream.read prompt world).source.answerAt count = stream.answerAt (count + 1) := by
  rw [answerAt, lines_read, List.getElem?_tail]
  rfl

/-- The calls of a reader are answered by its lines in order. -/
theorem answers_readings (prompts : List String) :
    (LineSource.readings world stream prompts).map (·.answer) =
      (List.range prompts.length).map stream.answerAt := by
  induction prompts generalizing stream world with
  | nil => rfl
  | cons prompt rest ih =>
    have shift : (stream.read prompt world).source.answerAt =
        fun count => stream.answerAt (count + 1) := funext (answerAt_read stream prompt world)
    have later := ih (stream.read prompt world).source world
    rw [shift] at later
    rw [List.length_cons, List.range_succ_eq_map, List.map_cons, List.map_map, ← answer_read]
    exact congrArg (_ :: ·) later

/-- The prompts of its calls go to the writer. -/
theorem shown_readings (prompts : List String) :
    (LineSource.readings world stream prompts).map Reading.shown =
      stream.prompts.takenEach prompts := by
  induction prompts generalizing stream world with
  | nil => rfl
  | cons prompt rest ih =>
    have first : (stream.read prompt world).shown =
        (stream.prompts.write (Bytes.ofString prompt)).taken := Printed.select_of rfl _
    exact congrArg₂ (· :: ·) first (ih (stream.read prompt world).source world)

end Stream

/-! ## The buffer -/

namespace BufferedStream

/-- All that can still be read, as one stream. -/
def whole (buffered : BufferedStream) : Stream :=
  buffered.stream.withInput (buffered.held ++ buffered.stream.input)

variable (buffered : BufferedStream)

/-- Filling a buffer changes nothing about what there is to read. -/
theorem whole_fill : buffered.fill.whole = buffered.whole := by
  unfold fill
  split
  · next empty => simp [whole, Stream.withInput, empty]
  · rfl

/-- Nothing is held after that only if there is nothing to read. -/
theorem held_fill_eq_nil_iff : buffered.fill.held = [] ↔ buffered.whole.input = [] := by
  have := buffered.positive
  unfold fill whole
  split
  · next empty => simp [empty, List.take_eq_nil_iff]; omega
  · next some => simp [some]

theorem input_whole : buffered.whole.input = buffered.fill.held ++ buffered.fill.stream.input :=
  congrArg Stream.input buffered.whole_fill.symm

theorem whole_held (held : Bytes) :
    ({ buffered.fill with held } : BufferedStream).whole =
      buffered.whole.withInput (held ++ buffered.fill.stream.input) := by
  unfold fill
  split <;> rfl

/-- A line that is gathered is the next one of all there is to read, with what has been gathered
before it. -/
theorem gather_eq {gathered : Bytes} (noFeed : Text.lineFeed ∉ gathered) :
    (buffered.gather gathered).1 =
        (buffered.whole.withInput (gathered ++ buffered.whole.input)).next.1 ∧
      (buffered.gather gathered).2.whole =
        buffered.whole.withInput
          (buffered.whole.withInput (gathered ++ buffered.whole.input)).next.2 := by
  fun_induction gather gathered buffered with
  | case1 gathered buffered empty reason broken | case2 gathered buffered empty broken =>
    have spent := buffered.held_fill_eq_nil_iff.mp empty
    have failure : buffered.whole.failure = buffered.stream.failure := rfl
    have same : buffered.whole.withInput [] = buffered.whole := by
      rw [← spent, Stream.withInput_input]
    rw [spent, List.append_nil, Stream.next_of_noFeed noFeed, whole_fill, same]
    exact ⟨by by_cases none : gathered = [] <;> simp [failure, broken, none], rfl⟩
  | case3 gathered buffered _ ready =>
    obtain ⟨front, back, cut, frontNoFeed⟩ :=
      List.eq_append_cons_of_mem (List.contains_iff_mem.mp ready)
    have plain : Text.lineFeed ∉ gathered ++ front := by simp [noFeed, frontNoFeed]
    have line : gathered ++ buffered.whole.input =
        gathered ++ front ++ Text.lineFeed :: (back ++ buffered.fill.stream.input) := by
      simp [input_whole, cut]
    rw [line, Stream.next_of_feed plain rfl, whole_held, cut, Text.cutLine_append_feed frontNoFeed]
    exact ⟨by simp, rfl⟩
  | case4 gathered buffered _ pending ih =>
    have plain : Text.lineFeed ∉ gathered ++ buffered.fill.held := by simpa [noFeed] using pending
    have later := ih plain
    rw [whole_held, List.nil_append, Stream.withInput_withInput, Stream.input_withInput,
      List.append_assoc, ← input_whole] at later
    exact later

/-- Reading through a buffer is reading without one. -/
theorem read_whole (prompt : String) (world : World) :
    (buffered.read prompt world).answer = (buffered.whole.read prompt world).answer ∧
      (buffered.read prompt world).printed = (buffered.whole.read prompt world).printed ∧
      (buffered.read prompt world).source.whole = (buffered.whole.read prompt world).source := by
  obtain ⟨answer, left⟩ := @gather_eq buffered [] List.not_mem_nil
  rw [List.nil_append, Stream.withInput_input] at answer left
  refine ⟨answer, rfl, ?_⟩
  exact congrArg (fun rest : Stream =>
    { rest with prompts := buffered.stream.prompts.prompted prompt }) left

/-- So are the readings of any number of calls. -/
theorem readings_whole (world : World) (prompts : List String) :
    ((LineSource.readings world buffered prompts).map fun reading =>
        (reading.answer, reading.shown)) =
      (LineSource.readings world buffered.whole prompts).map fun reading =>
        (reading.answer, reading.shown) := by
  induction prompts generalizing buffered with
  | nil => rfl
  | cons prompt rest ih =>
    obtain ⟨answer, printed, left⟩ := buffered.read_whole prompt world
    have later := ih (buffered.read prompt world).source
    rw [left] at later
    have first : ((buffered.read prompt world).answer, (buffered.read prompt world).shown) =
        ((buffered.whole.read prompt world).answer, (buffered.whole.read prompt world).shown) := by
      rw [answer, Reading.shown, printed]
      rfl
    exact congrArg₂ (· :: ·) first later

theorem answers_readings (world : World) (prompts : List String) :
    (LineSource.readings world buffered prompts).map (·.answer) =
      (List.range prompts.length).map buffered.whole.answerAt := by
  have same := congrArg (List.map Prod.fst) (buffered.readings_whole world prompts)
  rw [List.map_map, List.map_map] at same
  exact same.trans (buffered.whole.answers_readings world prompts)

theorem shown_readings (world : World) (prompts : List String) :
    (LineSource.readings world buffered prompts).map Reading.shown =
      buffered.stream.prompts.takenEach prompts := by
  have same := congrArg (List.map Prod.snd) (buffered.readings_whole world prompts)
  rw [List.map_map, List.map_map] at same
  exact same.trans (buffered.whole.shown_readings world prompts)

/-- How the calls of a reader are answered, given what there is to read and how that ends. -/
structure SplitsInput (buffered : BufferedStream) (world : World) (input : Bytes)
    (lines : List Bytes) (closing : Except Fault (Option Bytes)) : Prop where
  /-- Each call is answered with the next line, and all calls after the last line alike. -/
  answers : ∀ prompts : List String,
    (LineSource.readings world buffered prompts).map (·.answer) =
      (List.range prompts.length).map fun count =>
        match lines[count]? with
        | some line => .ok (some line)
        | none => closing
  nonempty : ∀ line ∈ lines, line ≠ []
  /-- A line feed is nothing but the last byte of a line, -/
  noFeed : ∀ line ∈ lines, Text.lineFeed ∉ line.dropLast
  /-- and only the last line may lack it. -/
  ended : ∀ line ∈ lines.dropLast, line.getLast? = some Text.lineFeed
  /-- If the input ends, its lines are all of it, and the calls after them are told so. -/
  total : buffered.stream.failure = none → lines.flatten = input ∧ closing = .ok none
  /-- If it breaks off, all lines are ended, the rest of it is none, and the fault comes again with
  each call. -/
  broken : ∀ reason, buffered.stream.failure = some reason →
    (∀ line ∈ lines, line.getLast? = some Text.lineFeed) ∧
      (∃ lost, Text.lineFeed ∉ lost ∧ lines.flatten ++ lost = input) ∧
      closing = .error { cause := .lineNotRead reason }
  /-- The room of the buffer, the prompts and what becomes of them make no difference to the
  answers. -/
  indifferent : ∀ (room : Nat) (positive : 0 < room) (writer : Writer)
      (prompts others : List String),
    others.length = prompts.length →
    let other : BufferedStream :=
      { held := buffered.held, stream := { buffered.stream with prompts := writer }, room, positive }
    (LineSource.readings world other others).map (·.answer) =
      (LineSource.readings world buffered prompts).map (·.answer)
  /-- Of each prompt the writer takes a first piece. -/
  shown : ∀ prompts : List String, List.Forall₂ (· <+: ·)
    ((LineSource.readings world buffered prompts).map Reading.shown) (prompts.map Bytes.ofString)
  /-- These make up a first piece of all prompts if it takes nothing more once it has cut one, -/
  stopped : ∀ prompts : List String,
    let pieces := (LineSource.readings world buffered prompts).map Reading.shown
    let wholes := prompts.map Bytes.ofString
    ((pieces.zip wholes).Pairwise fun earlier later => earlier.1 ≠ earlier.2 → later.1 = []) →
      pieces.flatten <+: wholes.flatten
  /-- and so they do if it takes a number of bytes in all, whether it passes them on or not. -/
  limited : buffered.stream.prompts.replies = [] → ∀ prompts : List String,
    ((LineSource.readings world buffered prompts).map Reading.shown).flatten =
      match buffered.stream.prompts.room with
      | some room => (prompts.map Bytes.ofString).flatten.take room
      | none => (prompts.map Bytes.ofString).flatten

/-- **A reader splits its input without loss**, whatever room its buffer has and whatever becomes of
its prompts. -/
theorem splitsInput (buffered : BufferedStream) (world : World) :
    buffered.SplitsInput world (buffered.held ++ buffered.stream.input) buffered.whole.lines
      buffered.whole.closing := by
  obtain ⟨ended, last, feeds, noFeed, cut⟩ := Text.exists_ended buffered.whole.input
  have lines := Stream.lines_eq feeds noFeed cut
  have failure : buffered.whole.failure = buffered.stream.failure := rfl
  -- The rest is a line if it is not empty and the stream ends, and it is none otherwise.
  have given : buffered.whole.lines = ended ∨
      last ≠ [] ∧ buffered.whole.lines = ended ++ [last] := by
    rw [lines]
    split
    · exact .inl (List.append_nil _)
    · next some => exact .inr ⟨fun empty => some (.inl empty), rfl⟩
  have each : ∀ line ∈ buffered.whole.lines, line ∈ ended ∨ line = last ∧ last ≠ [] := by
    intro line within
    rcases given with same | ⟨some, same⟩
    · exact .inl (same ▸ within)
    · rw [same, List.mem_append, List.mem_singleton] at within
      exact within.imp_right fun isLast => ⟨isLast, some⟩
  constructor
  case answers => exact buffered.answers_readings world
  case nonempty =>
    intro line within
    rcases each line within with earlier | ⟨rfl, some⟩
    · exact (feeds line earlier).feed.1
    · exact some
  case noFeed =>
    intro line within
    rcases each line within with earlier | ⟨rfl, _⟩
    · exact (feeds line earlier).feed.2.1
    · exact fun feed => noFeed (List.dropLast_subset _ feed)
  case ended =>
    intro line within
    have earlier : line ∈ ended := by
      rcases given with same | ⟨_, same⟩
      · exact List.dropLast_subset _ (same ▸ within)
      · rwa [same, List.dropLast_concat] at within
    exact (feeds line earlier).feed.2.2
  case total =>
    intro complete
    refine ⟨?_, by rw [Stream.closing, failure, complete]⟩
    rw [failure, complete] at lines
    change _ = buffered.whole.input
    rw [lines, cut, List.flatten_append]
    by_cases empty : last = [] <;> simp [empty]
  case broken =>
    intro reason breaks
    rw [failure, breaks] at lines
    have same : buffered.whole.lines = ended := by simpa using lines
    rw [same]
    refine ⟨fun line within => (feeds line within).feed.2.2, ⟨last, noFeed, cut.symm⟩, ?_⟩
    rw [Stream.closing, failure, breaks]
  case indifferent =>
    intro room positive writer prompts others same other
    rw [answers_readings, answers_readings, same]
    rfl
  case shown =>
    intro prompts
    rw [shown_readings]
    exact Writer.takenEach_prefix _ prompts
  case stopped =>
    intro prompts pieces wholes stops
    refine flatten_isPrefix ?_ stops
    simp only [pieces, shown_readings]
    exact Writer.takenEach_prefix _ prompts
  case limited =>
    intro settled prompts
    rw [shown_readings]
    generalize buffered.stream.prompts = writer at settled
    obtain ⟨room, flushFails, replies⟩ := writer
    obtain rfl : replies = [] := settled
    cases room with
    | some room => exact Writer.flatten_takenEach_limited room flushFails prompts
    | none => exact Writer.flatten_takenEach_unlimited flushFails prompts

end BufferedStream

end LineShell
