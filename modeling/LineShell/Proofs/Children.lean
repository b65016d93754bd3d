import LineShell.Proofs.Precedence
import LineShell.Proofs.Search
import LineShell.Proofs.Stage

/-!
# The programs that lines start

A line starts one program or none (`Command.child?`). A program that is started receives the words
of its line as they stand, in the environment of the session and in the directory that the lines
before have led to, and its wait status is all that the line comes to (`Stage.after_handsOver`).
Words that cannot be passed on are refused before anything is looked for.
-/
namespace LineShell

namespace Status

/-- A program that ends by itself leaves the code it gives. -/
theorem ofWait_exited {code : Nat} (byte : code < 256) :
    ofWait (Ending.toWait (.exited code)) = ⟨code⟩ := by
  have raw : (UInt32.ofNat (code % 256 * 256)).toNat = code * 256 := by
    rw [UInt32.toNat_ofNat_of_lt' (by simp only [UInt32.size]; omega), Nat.mod_eq_of_lt byte]
  have ending : Ending.ofWait (Ending.toWait (.exited code)) = .exited code := by
    simp only [Ending.ofWait, Ending.toWait, raw]
    rw [if_pos (by omega)]
    exact congrArg Ending.exited (by omega)
  rw [ofWait, ending, ofEnding]

/-- The bit that says that a program which was killed has left an image of itself. -/
def dumped : UInt32 := 0x80

/-- A program that is killed leaves 128 and its signal. -/
theorem ofWait_killed {signal : Nat} (some : 0 < signal) (few : signal < 127) (dumps : Bool) :
    ofWait (Ending.toWait (.killed signal) + if dumps then dumped else 0) = ⟨128 + signal⟩ := by
  have raw : (UInt32.ofNat (signal % 128) + if dumps then dumped else 0).toNat % 128 = signal := by
    have plain : (UInt32.ofNat (signal % 128)).toNat = signal := by
      rw [UInt32.toNat_ofNat_of_lt' (by simp only [UInt32.size]; omega)]
      omega
    rw [UInt32.toNat_add, plain]
    cases dumps
    · simp only [Bool.false_eq_true, if_false, UInt32.toNat_zero]
      omega
    · simp only [if_true, dumped, UInt32.reduceToNat]
      omega
  simp only [ofWait, Ending.ofWait, Ending.toWait, raw]
  rw [if_neg (by omega), if_pos few, ofEnding]

end Status

/-- What a line comes to whose program has ended. -/
def Evaluated.ofFinish (world : World) (writer : Writer) (finish : Finish) : Evaluated where
  outcome := .ok (.completed (.ofWait finish.wait))
  world := { world with files := finish.files, input := world.input.drop finish.used }
  writer := writer.flush.2
  printed := finish.printed

namespace Command

/-- The program that a line starts, if it starts one. -/
def child? (limit : Option Nat) (world : World) (line : Bytes) : Option Invocation :=
  match Arguments.ofLine limit line with
  | .error _ => none
  | .ok arguments =>
    if Action.ofArguments arguments.toList = .program then
      (Program.invocation world arguments.toList).toOption
    else none

variable {programs : Programs} {limit : Option Nat} {world : World} {writer : Writer} {line : Bytes}

theorem child?_eq_some_iff {invocation : Invocation} :
    child? limit world line = some invocation ↔
      (∃ arguments, Arguments.ofLine limit line = .ok arguments) ∧
        Action.ofArguments (words line) = .program ∧
        Program.invocation world (words line) = .ok invocation := by
  unfold child?
  cases stored : Arguments.ofLine limit line with
  | error fault => simp
  | ok arguments =>
    rw [← Arguments.toList_of_ofLine stored]
    cases started : Program.invocation world arguments.toList <;> simp [Except.toOption, started]

/-- Of a line that starts a program, what becomes of that is all that comes. -/
theorem evaluate_of_child {invocation : Invocation}
    (starts : child? limit world line = some invocation) :
    evaluate programs limit world writer line =
      .ofFinish world writer (programs invocation world.files) := by
  obtain ⟨⟨arguments, stored⟩, asked, started⟩ := child?_eq_some_iff.mp starts
  rw [evaluate_of_stored stored]
  simp only [perform, asked, Program.launch, started]
  rfl

/-- A line that asks for a program and starts none has failed. -/
theorem invocation_of_childless {arguments : Arguments} (none : child? limit world line = none)
    (stored : Arguments.ofLine limit line = .ok arguments)
    (asked : Action.ofArguments (words line) = .program) :
    ∃ fault, Program.invocation world (words line) = .error fault := by
  cases started : Program.invocation world (words line) with
  | error fault => exact ⟨fault, rfl⟩
  | ok invocation =>
    rw [child?_eq_some_iff.mpr ⟨⟨arguments, stored⟩, asked, started⟩] at none
    cases none

/-- A line that starts no program leaves the files alone. -/
theorem files_of_childless (none : child? limit world line = none) :
    (evaluate programs limit world writer line).world.files = world.files := by
  cases stored : Arguments.ofLine limit line with
  | error fault => rw [evaluate_of_refused stored]
  | ok arguments =>
    rw [evaluate_of_stored stored]
    have course := perform_course programs world writer (words line)
    generalize perform programs world writer (words line) = evaluated at course
    cases course with
    | nothing | stayed | ended | wrote | unwritten | unstarted => rfl
    | moved _ entered => exact (World.changeDirectory_keeps entered).1
    | ran asked started =>
      obtain ⟨fault, failed⟩ := invocation_of_childless none stored asked
      rw [failed] at started
      cases started

end Command

namespace Stage

/-- The stage that lines lead to. -/
def after (platform : Platform) (stage : Stage) (lines : List Bytes) : Stage :=
  lines.foldl (next platform) stage

theorem environment_after (platform : Platform) (stage : Stage) (lines : List Bytes) :
    (stage.after platform lines).world.environment = stage.world.environment := by
  induction lines generalizing stage with
  | nil => rfl
  | cons line rest ih =>
    have kept : (stage.next platform line).world.environment = stage.world.environment :=
      Command.environment_evaluate line
    exact (ih (stage.next platform line)).trans kept

/-- A line runs one program to its end, and comes to nothing else. -/
structure Runs (platform : Platform) (stage : Stage) (line : Bytes) (invocation : Invocation) :
    Prop where
  /-- What becomes of the program is taken over as it is, -/
  finished : stage.evaluate platform line =
    .ofFinish stage.world stage.writer (platform.programs invocation stage.world.files)
  /-- and no other program has a part in it. -/
  alone : ∀ others : Programs,
    others invocation stage.world.files = platform.programs invocation stage.world.files →
    stage.evaluate { platform with programs := others } line = stage.evaluate platform line
  /-- The status is the code that the program gives, -/
  exited : ∀ code < 256,
    (platform.programs invocation stage.world.files).wait = Status.Ending.toWait (.exited code) →
    (stage.evaluate platform line).outcome = .ok (.completed ⟨code⟩)
  /-- or else 128 and the signal that kills it. -/
  killed : ∀ signal, 0 < signal → signal < 127 → ∀ dumps : Bool,
    (platform.programs invocation stage.world.files).wait =
      Status.Ending.toWait (.killed signal) + (if dumps then Status.dumped else 0) →
    (stage.evaluate platform line).outcome = .ok (.completed ⟨128 + signal⟩)

/-- What a line that asks for a program does with its words, in an environment. -/
structure HandsOver (platform : Platform) (environment : Environment) (stage : Stage) (line : Bytes)
    (name : Bytes) (parameters : List Bytes) : Prop where
  /-- Words without NUL bytes go to the program that is found for the first of them, all as they
  are, in that environment and in the directory of the stage. -/
  started : (∀ word ∈ name :: parameters, (0 : UInt8) ∉ word) →
    ∀ image, Program.search stage.world (name :: parameters) name = .ok image →
      stage.Runs platform line
        ⟨image, words line, environment, stage.world.directory, stage.world.input⟩
  /-- If none is found, none is run, -/
  lost : (∀ word ∈ name :: parameters, (0 : UInt8) ∉ word) →
    ∀ refusal, Program.search stage.world (name :: parameters) name = .error refusal →
    ∀ others : Programs, stage.evaluate { platform with programs := others } line =
      ⟨.error (Program.faultOf name refusal), stage.world, stage.writer.flush.2, []⟩
  /-- and none is run if there is a NUL byte in a word, whatever there is to be found. -/
  barred : (∃ word ∈ name :: parameters, (0 : UInt8) ∈ word) →
    ∃ fault : Fault,
      fault.cause = .notSpawned name.display "nul byte found in provided data" ∧
      fault.message =
        name.display ++ ": failed to create process: " ++ "nul byte found in provided data" ∧
      fault.status.code = 1 ∧ fault.isFatal = false ∧
      ∀ others : Programs, stage.evaluate { platform with programs := others } line =
        ⟨.error fault, stage.world, stage.writer.flush.2, []⟩

variable {platform : Platform} {line name : Bytes} {parameters : List Bytes}

/-- A line that starts a program runs it. -/
theorem runs_of_child {stage : Stage} {invocation : Invocation}
    (starts : Command.child? platform.storageLimit stage.world line = some invocation) :
    stage.Runs platform line invocation := by
  have finished (others : Programs) :
      stage.evaluate { platform with programs := others } line =
        .ofFinish stage.world stage.writer (others invocation stage.world.files) :=
    Command.evaluate_of_child starts
  constructor
  case finished => exact finished platform.programs
  case alone =>
    intro others same
    rw [finished others, same]
    exact (finished platform.programs).symm
  case exited =>
    intro code byte wait
    rw [finished platform.programs, Evaluated.ofFinish, wait, Status.ofWait_exited byte]
  case killed =>
    intro signal some few dumps wait
    rw [finished platform.programs, Evaluated.ofFinish, wait, Status.ofWait_killed some few]

/-- Where no program can be started, the line fails for that reason alone. -/
theorem evaluate_of_unstarted {stage : Stage} {fault : Fault} {arguments : Arguments}
    (stored : Arguments.ofLine platform.storageLimit line = .ok arguments)
    (asked : Action.ofArguments (words line) = .program)
    (failed : Program.invocation stage.world (words line) = .error fault) :
    stage.evaluate platform line = ⟨.error fault, stage.world, stage.writer.flush.2, []⟩ := by
  rw [evaluate, Command.evaluate_of_stored stored]
  simp only [Command.perform, asked, Program.launch, failed]
  rfl

/-- **A program receives the words of its line byte for byte**, in the environment of the session
and where the lines before have led to. -/
theorem after_handsOver {arguments : Arguments}
    (stored : Arguments.ofLine platform.storageLimit line = .ok arguments)
    (first : words line = name :: parameters)
    (other : ∀ own ∈ ["cd", "echo", "env", "exit"], name ≠ Bytes.ofString own)
    (opening : Stage) (earlier : List Bytes) :
    (opening.after platform earlier).HandsOver platform opening.world.environment line name
      parameters := by
  have asked : Action.ofArguments (words line) = .program := by
    rw [first, Action.ofArguments_eq_program_iff]
    refine ⟨List.cons_ne_nil _ _, ?_, fun command => ?_⟩
    · rw [List.head?_cons, Ne, Option.some.injEq]
      exact other "cd" (by simp)
    · simpa using other command.name (by cases command <;> simp [Builtin.name])
  generalize reached : opening.after platform earlier = stage
  have environment : stage.world.environment = opening.world.environment := by
    rw [← reached, environment_after]
  constructor
  case started =>
    intro plain image found
    refine runs_of_child (Command.child?_eq_some_iff.mpr ⟨⟨arguments, stored⟩, asked, ?_⟩)
    rw [first, Program.invocation_of_plain plain, found, environment]
  case lost =>
    intro plain refusal refused others
    refine evaluate_of_unstarted stored asked ?_
    rw [first, Program.invocation_of_plain plain, refused]
  case barred =>
    intro nul
    refine ⟨Program.faultOf name .nulInArgument, rfl, rfl, rfl, rfl, fun others => ?_⟩
    refine evaluate_of_unstarted stored asked ?_
    rw [first, Program.invocation_of_nul nul]

/-- A program that is found only where the line before has led to, and a word that is no text. -/
theorem after_handsOver_show :
    let programs : Programs := fun _ files => ⟨Status.Ending.toWait (.exited 3), files, [], 0⟩
    let platform : Platform := ⟨programs, some 64, false⟩
    let files : Files :=
      ⟨#[.directory 0 [(Bytes.ofString "bin", 1)], .directory 0 [(Bytes.ofString "show", 2)],
        .program "show"]⟩
    let environment : Environment := ⟨[(Bytes.ofString "PATH", Bytes.ofString ":/none")]⟩
    let shell : Shell := ⟨⟨"user", false⟩, {}, .success⟩
    let opening : Stage := ⟨shell, ⟨files, Files.root, environment, {}⟩, {}⟩
    let stage := opening.after platform [Bytes.ofString "cd bin\n"]
    let name := Bytes.ofString "show"
    let line := name ++ [0x20, 0xFF, 0xFE, 0x0A]
    (∃ arguments, Arguments.ofLine platform.storageLimit line = .ok arguments) ∧
      words line = [name, [0xFF, 0xFE]] ∧
      (∀ own ∈ ["cd", "echo", "env", "exit"], name ≠ Bytes.ofString own) ∧
      Program.search stage.world [name, [0xFF, 0xFE]] name = .ok ⟨"show", []⟩ ∧
      stage.HandsOver platform environment line name [[0xFF, 0xFE]] := by
  intro programs platform files environment shell opening stage name line
  have first : words line = [name, [0xFF, 0xFE]] := by decide
  have other : ∀ own ∈ ["cd", "echo", "env", "exit"], name ≠ Bytes.ofString own := by decide
  refine ⟨⟨_, rfl⟩, first, other, rfl, ?_⟩
  exact after_handsOver rfl first other opening [Bytes.ofString "cd bin\n"]

end Stage

end LineShell
