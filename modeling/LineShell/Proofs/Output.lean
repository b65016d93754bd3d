import LineShell.Proofs.Children
import Mathlib.Data.List.TakeDrop

/-!
# Output to a writer that has little room

Lines that are evaluated one after the other share the room of their writer: it takes what they
have to say, in order, up to its last byte (`Stage.sharesRoom`). A builtin whose output is cut, or
not passed on, fails, and no other line learns of it.
-/
namespace LineShell

/-- A writer that takes so many bytes in all, and whose flushes may fail. -/
def Writer.limited (room : Nat) (flushFails : Bool) : Writer := ⟨some room, flushFails, []⟩

namespace Writer

variable (room : Nat) (flushFails : Bool)

theorem write_limited (bytes : Bytes) :
    (limited room flushFails).write bytes =
      ⟨bytes.take room, bytes.length ≤ room, limited (room - bytes.length) flushFails⟩ := rfl

theorem flush_limited : (limited room flushFails).flush = (!flushFails, limited room flushFails) :=
  rfl

/-- A write that is whole is followed by the others, -/
theorem writeEach_cons_of_whole {writer : Writer} {bytes : Bytes}
    (whole : (writer.write bytes).whole = true) (rest : List Bytes) :
    writer.writeEach (bytes :: rest) =
      let others := (writer.write bytes).writer.writeEach rest
      ⟨(writer.write bytes).taken ++ others.taken, others.whole, others.writer⟩ :=
  if_pos whole

/-- and one that is cut is the last. -/
theorem writeEach_cons_of_cut {writer : Writer} {bytes : Bytes}
    (cut : (writer.write bytes).whole = false) (rest : List Bytes) :
    writer.writeEach (bytes :: rest) = writer.write bytes :=
  if_neg (by simp [cut])

/-- Several writes take what one would. -/
theorem writeEach_limited (all : List Bytes) :
    (limited room flushFails).writeEach all =
      ⟨all.flatten.take room, all.flatten.length ≤ room,
        limited (room - all.flatten.length) flushFails⟩ := by
  induction all generalizing room with
  | nil => simp [writeEach]
  | cons bytes rest ih =>
    rw [List.flatten_cons, List.length_append, List.take_append]
    by_cases fits : bytes.length ≤ room
    · have later : rest.flatten.length ≤ room - bytes.length ↔
          bytes.length + rest.flatten.length ≤ room := by omega
      have whole : ((limited room flushFails).write bytes).whole = true := decide_eq_true fits
      rw [writeEach_cons_of_whole whole, write_limited, ih, Nat.sub_sub]
      simp only [later]
    · have cut : ¬ bytes.length + rest.flatten.length ≤ room := by omega
      have none : room - bytes.length = 0 := by omega
      have spent : room - (bytes.length + rest.flatten.length) = 0 := by omega
      have first : ((limited room flushFails).write bytes).whole = false := decide_eq_false fits
      rw [writeEach_cons_of_cut first, write_limited, none, spent, List.take_zero,
        List.append_nil, decide_eq_false fits, decide_eq_false cut]

end Writer

/-- The builtin whose output is asked for. -/
def Action.printing? : Action → Option Builtin
  | .builtin .echo => some .echo
  | .builtin .env => some .env
  | _ => none

theorem Action.printing?_eq_some_iff {action : Action} {command : Builtin} :
    action.printing? = some command ↔ action = .builtin command ∧ command ≠ .exit := by
  cases action with
  | nothing | changeDirectory _ | program => simp [printing?]
  | builtin own => cases own <;> cases command <;> simp [printing?]

namespace Command

/-- The builtin whose output a line is. A line that finds no storage is not looked at. -/
def printing? (limit : Option Nat) (line : Bytes) : Option Builtin :=
  match Arguments.ofLine limit line with
  | .error _ => none
  | .ok arguments => (Action.ofArguments arguments.toList).printing?

/-- All that a line writes if there is room for it. Echo writes the words after its name, with
single spaces between them and a line feed at the end; env writes every variable with its value, each
on a line of its own. -/
def fullOutput (limit : Option Nat) (environment : Environment) (line : Bytes) : Bytes :=
  match printing? limit line with
  | some .echo => [0x20].intercalate (words line).tail ++ [Text.lineFeed]
  | some .env =>
    environment.entries.flatMap fun (name, value) => name ++ 0x3D :: value ++ [Text.lineFeed]
  | _ => []

/-- What the writer of the builtins has taken of a line. -/
def accepted (limit : Option Nat) (line : Bytes) (evaluated : Evaluated) : Bytes :=
  if (printing? limit line).isSome then Printed.select (· == .builtin) evaluated.printed else []

variable {programs : Programs} {limit : Option Nat} {world : World} {line : Bytes}

theorem printing?_eq_some_iff {command : Builtin} :
    printing? limit line = some command ↔
      (∃ arguments, Arguments.ofLine limit line = .ok arguments) ∧
        (words line).head? = some (Bytes.ofString command.name) ∧ command ≠ .exit := by
  rw [← Action.ofArguments_eq_builtin_iff, ← Action.printing?_eq_some_iff]
  unfold printing?
  cases stored : Arguments.ofLine limit line with
  | error fault => simp
  | ok arguments => simp [Arguments.toList_of_ofLine stored]

/-- This is what the builtin writes, in one write or in several. -/
theorem fullOutput_of_printing {command : Builtin} (prints : printing? limit line = some command)
    (environment : Environment) :
    fullOutput limit environment line =
      (command.output environment (words line).tail).flatten := by
  cases command with
  | exit => exact absurd rfl (printing?_eq_some_iff.mp prints).2.2
  | echo =>
    simp only [fullOutput, prints]
    exact (List.append_nil _).symm
  | env =>
    have sign : Bytes.ofString "=" = [0x3D] := by decide
    simp only [fullOutput, prints, Builtin.output, Environment.lines, List.map_map]
    refine congrArg List.flatten (List.map_congr_left fun (name, value) _ => ?_)
    simp only [Function.comp_apply, Environment.line, sign, List.append_assoc, List.cons_append]
    rfl

/-- A line that prints is whole or has failed, and takes its output from the room. -/
theorem evaluate_of_printing {command : Builtin} (prints : printing? limit line = some command)
    (room : Nat) (flushFails : Bool) :
    let full := fullOutput limit world.environment line
    evaluate programs limit world (.limited room flushFails) line =
      ⟨if full.length ≤ room ∧ flushFails = false then .ok (.completed .success)
        else .error { cause := .outputNotWritten command.name },
        world, .limited (room - full.length) flushFails, Printed.of .builtin (full.take room)⟩ := by
  intro full
  have full_eq : full = (command.output world.environment (words line).tail).flatten :=
    fullOutput_of_printing prints _
  obtain ⟨⟨arguments, stored⟩, name, writes⟩ := printing?_eq_some_iff.mp prints
  have asked := Action.ofArguments_eq_builtin_iff.mpr name
  rw [evaluate_of_stored stored]
  simp only [perform, asked]
  have ran : command.run world.environment (words line).tail (.limited room flushFails) =
      ⟨if full.length ≤ room ∧ flushFails = false then .ok (.completed .success)
        else .error { cause := .outputNotWritten command.name },
        full.take room, .limited (room - full.length) flushFails⟩ := by
    cases command with
    | exit => exact absurd rfl writes
    | echo | env =>
      simp only [Builtin.run, Writer.writeEach_limited, ← full_eq, Writer.flush_limited]
      by_cases fits : full.length ≤ room
      · cases flushFails <;> simp [fits]
      · simp [fits]
  rw [ran]

/-- Any other line comes to the same with any writer, and a writer with some room keeps it. -/
theorem evaluate_of_not_printing (prints : printing? limit line = none) (writer other : Writer) :
    evaluate programs limit world other line =
      { evaluate programs limit world writer line with
        writer := (evaluate programs limit world other line).writer } := by
  cases stored : Arguments.ofLine limit line with
  | error fault => rw [evaluate_of_refused stored, evaluate_of_refused stored]
  | ok arguments =>
    rw [evaluate_of_stored stored, evaluate_of_stored stored]
    have silent : (Action.ofArguments (words line)).printing? = none := by
      simpa only [printing?, stored, Arguments.toList_of_ofLine stored] using prints
    cases asked : Action.ofArguments (words line) with
    | nothing | program => simp only [perform, asked]
    | changeDirectory target =>
      simp only [perform, asked]
      cases world.changeDirectory target <;> rfl
    | builtin command =>
      cases command with
      | exit =>
        simp only [perform, asked]
        rfl
      | echo | env => simp [asked, Action.printing?] at silent

/-- What a line makes of the world does not depend on its writer. -/
theorem world_evaluate_of_writer (writer other : Writer) :
    (evaluate programs limit world other line).world =
      (evaluate programs limit world writer line).world := by
  cases prints : printing? limit line with
  | none => rw [evaluate_of_not_printing prints writer other]
  | some command =>
    obtain ⟨⟨arguments, stored⟩, name, _⟩ := printing?_eq_some_iff.mp prints
    have asked := Action.ofArguments_eq_builtin_iff.mpr name
    have kept (any : Writer) : (evaluate programs limit world any line).world = world := by
      have same : command = .env → world.environment = world.environment := fun _ => rfl
      have builtin := @perform_of_builtin programs programs world world any _ command asked same
      rw [evaluate_of_stored stored]
      exact builtin.1
    rw [kept, kept]

/-- A line takes its output from the room of its writer, -/
theorem writer_evaluate_limited (room : Nat) (flushFails : Bool) :
    (evaluate programs limit world (.limited room flushFails) line).writer =
      .limited (room - (fullOutput limit world.environment line).length) flushFails := by
  cases prints : printing? limit line with
  | some command => rw [evaluate_of_printing prints]
  | none =>
    have full : fullOutput limit world.environment line = [] := by rw [fullOutput, prints]
    rw [full, List.length_nil, Nat.sub_zero]
    cases stored : Arguments.ofLine limit line with
    | error fault => rw [evaluate_of_refused stored]
    | ok arguments =>
      rw [evaluate_of_stored stored]
      generalize given : Writer.limited room flushFails = writer
      have course := perform_course programs world writer (words line)
      generalize perform programs world writer (words line) = evaluated at course
      cases course with
      | nothing | moved | stayed | ended => rfl
      | ran | unstarted => rw [← given, Writer.flush_limited]
      | wrote asked writes | unwritten asked writes =>
        have name := Action.ofArguments_eq_builtin_iff.mp asked
        rw [printing?_eq_some_iff.mpr ⟨⟨arguments, stored⟩, name, writes⟩] at prints
        cases prints

/-- as far as there is any. -/
theorem accepted_evaluate_limited (room : Nat) (flushFails : Bool) :
    accepted limit line (evaluate programs limit world (.limited room flushFails) line) =
      (fullOutput limit world.environment line).take room := by
  cases prints : printing? limit line with
  | none => simp [accepted, fullOutput, prints]
  | some command =>
    rw [evaluate_of_printing prints]
    generalize (fullOutput limit world.environment line).take room = bytes
    by_cases none : bytes = [] <;> simp [accepted, prints, Printed.of, Printed.select, none]

end Command

namespace Stage

open Command

/-- What lines come to, each on the stage that the one before leaves. -/
def evaluateEach (platform : Platform) : Stage → List Bytes → List Evaluated
  | _, [] => []
  | stage, line :: rest =>
    stage.evaluate platform line :: (stage.next platform line).evaluateEach platform rest

/-- What the writer of the builtins takes of lines. -/
def acceptedEach (platform : Platform) (stage : Stage) (lines : List Bytes) : Bytes :=
  (List.zipWith (accepted platform.storageLimit) lines (stage.evaluateEach platform lines)).flatten

/-- All that lines write if there is room for it. -/
def fullOutputEach (platform : Platform) (stage : Stage) (lines : List Bytes) : Bytes :=
  lines.flatMap (fullOutput platform.storageLimit stage.world.environment)

variable (platform : Platform) {stage other : Stage} {room : Nat} {flushFails : Bool}

theorem length_evaluateEach (lines : List Bytes) :
    (stage.evaluateEach platform lines).length = lines.length := by
  induction lines generalizing stage with
  | nil => rfl
  | cons line rest ih => exact congrArg Nat.succ ih

/-- Each line is evaluated, on the stage that all before it lead to. -/
theorem evaluateEach_append_cons (before : List Bytes) (line : Bytes) (rest : List Bytes) :
    (stage.evaluateEach platform (before ++ line :: rest))[before.length]? =
      some ((stage.after platform before).evaluate platform line) := by
  induction before generalizing stage with
  | nil => rfl
  | cons first before ih => exact ih

/-- The worlds that lines lead to do not depend on writers. -/
theorem world_after_of_world (same : other.world = stage.world) (lines : List Bytes) :
    (other.after platform lines).world = (stage.after platform lines).world := by
  induction lines generalizing stage other with
  | nil => exact same
  | cons line rest ih =>
    refine ih ?_
    show (other.evaluate platform line).world = (stage.evaluate platform line).world
    rw [evaluate, evaluate, same]
    exact world_evaluate_of_writer _ _

/-- A line that is no output comes to the same in the same world. -/
theorem evaluate_of_world (same : other.world = stage.world) {line : Bytes}
    (prints : printing? platform.storageLimit line = none) :
    other.evaluate platform line =
      { stage.evaluate platform line with writer := (other.evaluate platform line).writer } := by
  rw [evaluate, evaluate, same]
  exact evaluate_of_not_printing prints _ _

theorem writer_next (limited : stage.writer = .limited room flushFails) (line : Bytes) :
    (stage.next platform line).writer =
      .limited (room - (fullOutput platform.storageLimit stage.world.environment line).length)
        flushFails := by
  show (stage.evaluate platform line).writer = _
  rw [evaluate, limited]
  exact writer_evaluate_limited room flushFails

theorem fullOutputEach_next (line : Bytes) (lines : List Bytes) :
    (stage.next platform line).fullOutputEach platform lines =
      stage.fullOutputEach platform lines := by
  have kept : (stage.next platform line).world.environment = stage.world.environment :=
    environment_evaluate line
  rw [fullOutputEach, kept, fullOutputEach]

/-- Lines take their output from the room of their writer. -/
theorem writer_after (limited : stage.writer = .limited room flushFails) (lines : List Bytes) :
    (stage.after platform lines).writer =
      .limited (room - (stage.fullOutputEach platform lines).length) flushFails := by
  induction lines generalizing stage room with
  | nil => exact limited
  | cons line rest ih =>
    have later := ih (writer_next platform limited line)
    rw [fullOutputEach_next, Nat.sub_sub, ← List.length_append] at later
    exact later

/-- What is taken of lines is the first piece of all they have to say. -/
theorem acceptedEach_limited (limited : stage.writer = .limited room flushFails)
    (lines : List Bytes) :
    stage.acceptedEach platform lines = (stage.fullOutputEach platform lines).take room := by
  induction lines generalizing stage room with
  | nil => simp [acceptedEach, fullOutputEach]
  | cons line rest ih =>
    have later := ih (writer_next platform limited line)
    rw [fullOutputEach_next] at later
    have first : accepted platform.storageLimit line (stage.evaluate platform line) =
        (fullOutput platform.storageLimit stage.world.environment line).take room := by
      rw [evaluate, limited]
      exact accepted_evaluate_limited room flushFails
    calc stage.acceptedEach platform (line :: rest)
        = accepted platform.storageLimit line (stage.evaluate platform line) ++
            (stage.next platform line).acceptedEach platform rest := rfl
      _ = (fullOutput platform.storageLimit stage.world.environment line ++
            stage.fullOutputEach platform rest).take room := by
          rw [first, later, List.take_append]
      _ = (stage.fullOutputEach platform (line :: rest)).take room := by
          rw [fullOutputEach, fullOutputEach, List.flatMap_cons]

/-- What comes of lines that share the room of a writer. -/
structure SharesRoom (platform : Platform) (opening : Stage) (flushFails : Bool) (room : Nat)
    (lines : List Bytes) : Prop where
  /-- All lines are evaluated, -/
  length : (opening.evaluateEach platform lines).length = lines.length
  /-- each on the stage that those before it lead to. -/
  each : ∀ before line rest, lines = before ++ line :: rest →
    (opening.evaluateEach platform lines)[before.length]? =
      some ((opening.after platform before).evaluate platform line)
  /-- Of all that they write in order, the writer takes the first bytes, as many as there is room
  for. -/
  taken : opening.acceptedEach platform lines = (opening.fullOutputEach platform lines).take room
  /-- A line of output is completed if it is taken whole and passed on, -/
  completed : ∀ before line rest command, lines = before ++ line :: rest →
    printing? platform.storageLimit line = some command →
    let came := (opening.after platform before).evaluate platform line
    came.outcome = .ok (.completed ⟨0⟩) ↔
      accepted platform.storageLimit line came =
        fullOutput platform.storageLimit opening.world.environment line ∧ flushFails = false
  /-- and otherwise fails, which does not end the session. -/
  failed : ∀ before line rest command, lines = before ++ line :: rest →
    printing? platform.storageLimit line = some command →
    let came := (opening.after platform before).evaluate platform line
    came.outcome ≠ .ok (.completed ⟨0⟩) →
      ∃ fault, came.outcome = .error fault ∧ fault.cause = .outputNotWritten command.name ∧
        fault.status.code = 1 ∧ fault.isFatal = false
  /-- Any other line leaves the room as it is, and with any other writer it would have come to the
  same. -/
  steady : ∀ before line rest, lines = before ++ line :: rest →
    printing? platform.storageLimit line = none →
    ∀ writer : Writer,
      let came := (opening.after platform before).evaluate platform line
      let other := ({ opening with writer } : Stage)
      came.writer = (opening.after platform before).writer ∧
        (other.after platform before).evaluate platform line =
          { came with writer := ((other.after platform before).evaluate platform line).writer }

/-- A line after others, with what these have left of the room. -/
theorem evaluate_after_of_printing (limited : stage.writer = .limited room flushFails)
    (before : List Bytes) {line : Bytes} {command : Builtin}
    (prints : printing? platform.storageLimit line = some command) :
    let full := fullOutput platform.storageLimit stage.world.environment line
    let left := room - (stage.fullOutputEach platform before).length
    let came := (stage.after platform before).evaluate platform line
    came.outcome = (if full.length ≤ left ∧ flushFails = false then .ok (.completed .success)
        else .error { cause := .outputNotWritten command.name }) ∧
      accepted platform.storageLimit line came = full.take left := by
  intro full left came
  have environment := environment_after platform stage before
  have came_eq : came = Command.evaluate platform.programs platform.storageLimit
      (stage.after platform before).world (.limited left flushFails) line := by
    rw [← writer_after platform limited before]
    rfl
  rw [came_eq]
  constructor
  · rw [evaluate_of_printing prints, environment]
  · rw [accepted_evaluate_limited, environment]

/-- **Lines share the room of their writer.** -/
theorem sharesRoom (platform : Platform) (opening : Stage) (room : Nat) (flushFails : Bool)
    (lines : List Bytes) :
    ({ opening with writer := .limited room flushFails } : Stage).SharesRoom platform flushFails
      room lines := by
  generalize given : ({ opening with writer := .limited room flushFails } : Stage) = stage
  have limited : stage.writer = .limited room flushFails := by rw [← given]
  constructor
  case length => exact length_evaluateEach platform lines
  case each =>
    rintro before line rest rfl
    exact evaluateEach_append_cons platform before line rest
  case taken => exact acceptedEach_limited platform limited lines
  case completed =>
    intro before line rest command _ prints came
    obtain ⟨outcome, takes⟩ := evaluate_after_of_printing platform limited before prints
    rw [outcome, takes, List.take_eq_self_iff]
    split
    · next whole => exact iff_of_true rfl whole
    · next cut => exact iff_of_false nofun cut
  case failed =>
    intro before line rest command _ prints came other
    obtain ⟨outcome, _⟩ := evaluate_after_of_printing platform limited before prints
    rw [outcome] at other ⊢
    split at other
    · exact absurd rfl other
    · next cut => exact ⟨_, if_neg cut, rfl, rfl, rfl⟩
  case steady =>
    intro before line rest _ prints writer came other
    constructor
    · have full (environment : Environment) :
          fullOutput platform.storageLimit environment line = [] := by rw [fullOutput, prints]
      have reached := writer_after platform limited before
      have left := writer_next platform reached line
      rw [full, List.length_nil, Nat.sub_zero] at left
      exact left.trans reached.symm
    · have same : other.world = stage.world := rfl
      exact evaluate_of_world platform (world_after_of_world platform same before) prints

end Stage

end LineShell
