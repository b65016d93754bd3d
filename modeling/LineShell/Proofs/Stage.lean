import LineShell.Proofs.Command
import LineShell.Proofs.Lines
import LineShell.Session

/-!
# Sessions over a stream, line by line

Of a session over a stream only the lines that are left and the stage they meet count: the shell,
its world and its writer. A round is opened by what its line makes of the stage
(`turn_of_lines_cons`) or by the end of the lines (`turn_of_lines_nil`), and a run by its first round,
after which the session goes on (`run_of_on`) or is over (`run_of_halt`).
-/
namespace LineShell

/-- What a line is evaluated on. -/
structure Stage where
  shell : Shell
  world : World
  writer : Writer

/-- The stage of a round. -/
def Turn.stage (turn : Turn) : Stage := ⟨turn.shell, turn.world, turn.writer⟩

/-- The stage a session has come to. -/
def Session.stage {σ : Type} (session : Session σ) : Stage :=
  ⟨session.shell, session.world, session.writer⟩

/-- The stage of the first line of a stream, in which programs find no input. -/
def Session.opening (session : Session Stream) : Stage :=
  ⟨session.shell, { session.world with input := {} }, session.writer⟩

/-- What a session comes to: its exit code, its rounds and its last stage. -/
structure Account where
  code : Int
  turns : List Turn
  stage : Stage

def Report.account {σ : Type} (report : Report σ) : Account :=
  ⟨report.code, report.turns, report.final.stage⟩

namespace Stage

/-- What a line comes to on a stage. -/
def evaluate (platform : Platform) (stage : Stage) (line : Bytes) : Evaluated :=
  Command.evaluate platform.programs platform.storageLimit stage.world stage.writer line

/-- The shell after a line, what is reported of it, and the exit code if the session is over. -/
def settle (platform : Platform) (stage : Stage) (line : Bytes) :
    Shell × List Printed × Option Int :=
  Session.settle stage.shell (stage.evaluate platform line).outcome

/-- What a line leaves for the next one. -/
def next (platform : Platform) (stage : Stage) (line : Bytes) : Stage :=
  ⟨(stage.settle platform line).1, (stage.evaluate platform line).world,
    (stage.evaluate platform line).writer⟩

/-- The prompt that is shown on a stage. -/
def prompt (platform : Platform) (stage : Stage) : String :=
  stage.shell.prompt platform.colours stage.world

/-- A round on a stage: what is printed comes after as much of the prompt as its writer takes. -/
def round (platform : Platform) (prompts : Writer) (stage : Stage)
    (answer : Except Fault (Option Bytes)) (printed : List Printed) : Turn :=
  { shell := stage.shell
    world := stage.world
    writer := stage.writer
    prompt := stage.prompt platform
    answer
    printed :=
      Printed.of .prompt (prompts.write (Bytes.ofString (stage.prompt platform))).taken ++ printed
    warnings := [] }

/-- The round in which a line is evaluated. -/
def lineRound (platform : Platform) (prompts : Writer) (stage : Stage) (line : Bytes) : Turn :=
  stage.round platform prompts (.ok (some line))
    ((stage.evaluate platform line).printed ++ (stage.settle platform line).2.1)

/-- The round in which a stream has no more lines. -/
def endRound (platform : Platform) (prompts : Writer) (stage : Stage)
    (closing : Except Fault (Option Bytes)) : Turn :=
  stage.round platform prompts closing
    (match closing with
      | .ok _ => []
      | .error fault => [Session.diagnostic fault])

variable {platform : Platform} (stage : Stage) {line : Bytes}

theorem evaluate_of_stored {arguments : Arguments}
    (stored : Arguments.ofLine platform.storageLimit line = .ok arguments) :
    stage.evaluate platform line =
      Command.perform platform.programs stage.world stage.writer arguments.toList := by
  rw [Arguments.toList_of_ofLine stored]
  exact Command.evaluate_of_stored stored

/-- A line without storage ends the session with the code of a fatal fault. -/
theorem settle_of_refused {fault : Fault}
    (refused : Arguments.ofLine platform.storageLimit line = .error fault) :
    (stage.settle platform line).2.2 = some Session.fatalCode := by
  obtain ⟨requested, rfl⟩ := Arguments.ofLine_error refused
  rw [settle, evaluate, Command.evaluate_of_refused refused]
  rfl

/-- What is left of the prompts' writer after the prompt of a stage. -/
def prompted (platform : Platform) (prompts : Writer) (stage : Stage) : Writer :=
  let written := prompts.write (Bytes.ofString (stage.prompt platform))
  if written.whole then written.writer.flush.2 else written.writer

/-- Rounds over lines that are given, up to the first that ends the session. If none does, the
last round is the one in which there are no more lines. -/
def play (platform : Platform) (closing : Except Fault (Option Bytes)) :
    Writer → Stage → List Bytes → Account
  | prompts, stage, [] => ⟨0, [stage.endRound platform prompts closing], stage⟩
  | prompts, stage, line :: rest =>
    match (stage.settle platform line).2.2 with
    | some code =>
      ⟨code, [stage.lineRound platform prompts line], stage.next platform line⟩
    | none =>
      let later := play platform closing (stage.prompted platform prompts)
        (stage.next platform line) rest
      { later with turns := stage.lineRound platform prompts line :: later.turns }

end Stage

namespace Session

section Rounds

variable {σ : Type} [LineSource σ] {platform : Platform} {session : Session σ}

theorem run_of_halt {code : Int} (halt : (session.turn platform).2.2 = some code) :
    session.run platform = ⟨code, [(session.turn platform).1], (session.turn platform).2.1⟩ := by
  rw [run]
  split
  · next given =>
    rw [halt] at given
    cases given
    rfl
  · next on => simp [halt] at on

theorem run_of_on (on : (session.turn platform).2.2 = none) :
    session.run platform =
      { (session.turn platform).2.1.run platform with
        turns := (session.turn platform).1 ::
          ((session.turn platform).2.1.run platform).turns } := by
  rw [run]
  split
  · next code halt => simp [halt] at on
  · rfl

/-- Induction along the rounds of a run, from the last one on. -/
theorem run_induction (platform : Platform) {motive : Session σ → Prop}
    (halt : ∀ session code, (session.turn platform).2.2 = some code → motive session)
    (on : ∀ session, (session.turn platform).2.2 = none →
      motive (session.turn platform).2.1 → motive session)
    (session : Session σ) : motive session :=
  run.induct platform motive halt (fun session goes _ later => on session goes later) session

end Rounds

variable {session : Session Stream} (platform : Platform)

theorem turn_of_lines_nil (spent : session.source.lines = []) :
    session.turn platform =
      (session.opening.endRound platform session.source.prompts session.source.closing,
        { session with
          world := session.opening.world
          source := { session.source with
            input := session.source.next.2
            prompts := session.opening.prompted platform session.source.prompts } },
        some 0) := by
  have answer := (Stream.next_of_lines_nil spent).1
  unfold turn answered ask
  simp only [LineSource.read, Stream.read, answer]
  unfold Stream.closing
  cases session.source.failure <;> rfl

theorem turn_of_lines_cons {line : Bytes} {rest : List Bytes}
    (ready : session.source.lines = line :: rest) :
    session.turn platform =
      (session.opening.lineRound platform session.source.prompts line,
        { shell := (session.opening.settle platform line).1
          world := (session.opening.evaluate platform line).world
          writer := (session.opening.evaluate platform line).writer
          source := { session.source with
            input := session.source.next.2
            prompts := session.opening.prompted platform session.source.prompts } },
        (session.opening.settle platform line).2.2) := by
  have answer := (Stream.next_of_lines_cons ready).1
  unfold turn answered ask
  simp only [LineSource.read, Stream.read, answer]
  rfl

theorem opening_of_bare {session : Session Stream} (bare : session.world.input = {}) :
    session.opening = session.stage := by
  obtain ⟨shell, ⟨files, directory, environment, input⟩, writer, source⟩ := session
  obtain rfl : input = {} := bare
  rfl

/-- The next line meets the stage that a line leaves. -/
theorem opening_turn {line : Bytes} {rest : List Bytes}
    (ready : session.source.lines = line :: rest) :
    (session.turn platform).2.1.opening = session.opening.next platform line := by
  have bare : (session.opening.evaluate platform line).world.input = {} :=
    Command.input_evaluate line rfl
  rw [turn_of_lines_cons platform ready, opening_of_bare bare]
  rfl

/-- What a session over a stream comes to is played on its opening stage by its lines. -/
theorem account_run (platform : Platform) (session : Session Stream) :
    (session.run platform).account =
      session.opening.play platform session.source.closing session.source.prompts
        session.source.lines := by
  generalize given : session.source.lines = lines
  induction lines generalizing session with
  | nil =>
    have turn := turn_of_lines_nil platform given
    have halt : (session.turn platform).2.2 = some 0 := by rw [turn]
    rw [run_of_halt halt, turn]
    rfl
  | cons line rest ih =>
    have turn := turn_of_lines_cons platform given
    have code : (session.turn platform).2.2 = (session.opening.settle platform line).2.2 := by
      rw [turn]
    cases ended : (session.opening.settle platform line).2.2 with
    | some last =>
      rw [run_of_halt (code.trans ended), turn]
      simp only [Stage.play, ended]
      rfl
    | none =>
      have later := ih (session.turn platform).2.1 (by
        rw [turn]
        exact (Stream.next_of_lines_cons given).2 _)
      rw [opening_turn platform given] at later
      rw [run_of_on (code.trans ended)]
      simp only [Stage.play, ended]
      rw [turn] at later ⊢
      exact congrArg (fun account : Account => { account with
        turns := session.opening.lineRound platform session.source.prompts line ::
          account.turns }) later

end Session

end LineShell
