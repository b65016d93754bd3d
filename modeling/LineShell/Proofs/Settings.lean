import LineShell.Proofs.Lockstep

/-!
# Sessions under other settings

Settings decide how a session looks and whether it reports the faults of its lines, and nothing else.
Two sessions that differ in their settings alone read the same lines, do the same for each of them
and end alike (`run_withSettings`).
-/
namespace LineShell

/-- Two stages that differ in the settings of their shells alone, which are these and those. -/
structure Stage.SettingsApart (these those : Settings) (stage other : Stage) : Prop where
  settings : stage.shell.settings = these
  /-- The user and the status are the same. -/
  shell : other.shell = { stage.shell with settings := those }
  /-- So are the files, the working directory and the variables. -/
  world : other.world = stage.world
  writer : other.writer = stage.writer

/-- Two rounds that differ in their settings, and in what these decide: the prompt, and whether a
fault that does not end the session is reported. -/
structure Turn.SettingsApart (platform : Platform) (these those : Settings) (turn other : Turn) :
    Prop where
  stage : Stage.SettingsApart these those turn.stage other.stage
  /-- The same is read. -/
  answer : other.answer = turn.answer
  /-- The line comes to the same, with all that a builtin or a program prints. -/
  evaluated : other.evaluated? platform = turn.evaluated? platform
  /-- Each round prints its prompt, what its line does and its own diagnostics. -/
  printed : turn.PrintsInOrder platform
  otherPrinted : other.PrintsInOrder platform
  /-- On the error stream stands what its program says there, and a line for each of the faults
  that it reports. -/
  complains : turn.Complains platform
  otherComplains : other.Complains platform
  warnings : other.warnings = turn.warnings

/-- Two sessions over the same stream that differ in their settings, and in what their prompts have
met with. -/
structure Session.SettingsApart (these those : Settings) (session other : Session Stream) :
    Prop where
  stage : Stage.SettingsApart these those session.stage other.stage
  input : other.source.input = session.source.input
  failure : other.source.failure = session.source.failure

namespace Stage.SettingsApart

variable {these those : Settings} {stage other : Stage}
  (apart : SettingsApart these those stage other) (platform : Platform) (line : Bytes)

include apart

/-- A line comes to the same under all settings. -/
theorem evaluate_eq : other.evaluate platform line = stage.evaluate platform line := by
  unfold evaluate
  rw [apart.world, apart.writer]

/-- It leaves the same but for the settings, and the session goes on or not alike. -/
theorem next : SettingsApart these those (stage.next platform line) (other.next platform line) ∧
    (other.settle platform line).2.2 = (stage.settle platform line).2.2 := by
  have same := apart.evaluate_eq platform line
  obtain ⟨settings, shell, _, _⟩ := apart
  simp only [Stage.next, settle, shell, same]
  cases (stage.evaluate platform line).outcome with
  | ok came => cases came <;> exact ⟨⟨settings, rfl, rfl, rfl⟩, rfl⟩
  | error fault =>
    simp only [Session.settle]
    cases fault.isFatal <;> exact ⟨⟨settings, rfl, rfl, rfl⟩, rfl⟩

end Stage.SettingsApart

/-- Where the same is read on stages that differ in their settings, it comes to the same. -/
theorem Turn.evaluated?_congr {these those : Settings} {platform : Platform} {turn other : Turn}
    (apart : Stage.SettingsApart these those turn.stage other.stage)
    (answer : other.answer = turn.answer) :
    other.evaluated? platform = turn.evaluated? platform := by
  unfold evaluated?
  rw [answer]
  split
  · rw [apart.evaluate_eq]
  · rfl

namespace Session.SettingsApart

variable {these those : Settings} {session other : Session Stream}
  (met : SettingsApart these those session other) (platform : Platform)

include met

/-- The same is read and left, whatever the prompts are. -/
theorem ask : (other.ask platform).answer = (session.ask platform).answer ∧
    (other.ask platform).source.input = (session.ask platform).source.input := by
  have read : other.source.next = session.source.next := by
    unfold Stream.next
    rw [met.input, met.failure]
  exact ⟨congrArg Prod.fst read, congrArg Prod.snd read⟩

theorem meeting : Stage.SettingsApart these those (session.meeting (session.ask platform))
    (other.meeting (other.ask platform)) := by
  obtain ⟨settings, shell, world, writer⟩ := met.stage
  exact ⟨settings, shell, congrArg (fun world : World => { world with input := {} }) world, writer⟩

/-- Their rounds differ in the settings alone. -/
theorem turn : Turn.SettingsApart platform these those (session.turn platform).1
    (other.turn platform).1 := by
  obtain ⟨meets, _, given, warnings⟩ := answered_turn platform session (session.ask platform)
  obtain ⟨otherMeets, _, otherGiven, otherWarnings⟩ :=
    answered_turn platform other (other.ask platform)
  rw [turn_eq, turn_eq]
  have stage := met.meeting platform
  rw [← meets, ← otherMeets] at stage
  have answer := otherGiven.trans ((met.ask platform).1.trans given.symm)
  exact
    { stage
      answer
      evaluated := Turn.evaluated?_congr stage answer
      printed := printsInOrder_turn platform session
      otherPrinted := printsInOrder_turn platform other
      complains := (printsInOrder_turn platform session).complains
      otherComplains := (printsInOrder_turn platform other).complains
      warnings := otherWarnings.trans warnings.symm }

/-- They are so after one more round, and end with the same code if they end. -/
theorem goTogether :
    GoTogether platform (SettingsApart these those) (Turn.SettingsApart platform these those)
      session other := by
  obtain ⟨answer, input⟩ := met.ask platform
  have stage := met.meeting platform
  refine GoTogether.of_asked (met.turn platform) stage ?lines ?ends (fun _ => rfl) (fun _ => rfl)
    ?again
  case lines =>
    intro line given
    obtain ⟨later, code⟩ := stage.next platform line
    exact ⟨line, answer.trans given, later, code⟩
  case ends => exact fun line given => ⟨line, answer.symm.trans given⟩
  case again =>
    intro next otherNext stage source otherSource
    exact
      { stage
        input := by rw [source, otherSource, input]
        failure := by rw [source, otherSource]; exact met.failure }

end Session.SettingsApart

namespace Session

/-- The same session under other settings. -/
def withSettings {σ : Type} (session : Session σ) (settings : Settings) : Session σ :=
  { session with shell := { session.shell with settings } }

/-- **Settings never change what commands do.** Under any two of them a session over a stream takes
the same rounds but for its prompts and for the faults it reports. -/
theorem run_withSettings (platform : Platform) (session : Session Stream) (settings : Settings) :
    InStep (SettingsApart session.shell.settings settings)
      (Turn.SettingsApart platform session.shell.settings settings) (session.run platform)
      ((session.withSettings settings).run platform) := by
  refine InStep.run (fun met => met.goTogether platform) ?_
  exact { stage := ⟨rfl, rfl, rfl, rfl⟩, input := rfl, failure := rfl }

end Session

end LineShell
