import LineShell.Input.Shared
import LineShell.Proofs.Lockstep
import LineShell.Proofs.Unseen

/-!
# Sessions of scripts

A session that shares its input with programs prints its prompts, what its lines print and what is
reported of them, and nothing else (`run_printsInOrder`); files are touched by those programs alone
(`run_keepsFiles`). Two such sessions show the same round by round if they differ in settings for a
terminal and in files that no program looks into (`Unseen.goTogether`).
-/
namespace LineShell

/-- Settings that differ in the banner and the history at most. -/
structure Settings.SameInScripts (settings other : Settings) : Prop where
  multiLinePrompt : other.multiLinePrompt = settings.multiLinePrompt
  truncation : other.truncation = settings.truncation
  showErrors : other.showErrors = settings.showErrors

namespace Session

/-- A line does not change the settings. -/
theorem settings_of_settle (shell : Shell) (outcome : Except Fault Outcome) :
    (settle shell outcome).1.settings = shell.settings := by
  cases outcome with
  | ok came => cases came <;> rfl
  | error fault =>
    simp only [settle]
    split <;> rfl

/-- What becomes of a session does not depend on settings for a terminal. -/
theorem settle_of_sameInScripts {shell : Shell} {settings : Settings}
    (same : shell.settings.SameInScripts settings) (outcome : Except Fault Outcome) :
    settle { shell with settings } outcome =
      ({ (settle shell outcome).1 with settings }, (settle shell outcome).2) := by
  cases outcome with
  | ok came => cases came <;> rfl
  | error fault =>
    simp only [settle, same.showErrors]
    split <;> rfl

end Session

/-- Two stages that are the same but for the banner, the history and what hidden files hold. -/
structure Stage.Unseen (hidden : NodeId → Prop) (stage other : Stage) : Prop where
  shell : other.shell = { stage.shell with settings := other.shell.settings }
  settings : stage.shell.settings.SameInScripts other.shell.settings
  world : other.world = { stage.world with files := other.world.files }
  files : Files.Apart hidden stage.world.files other.world.files
  writer : other.writer = stage.writer

namespace Stage.Unseen

variable {hidden : NodeId → Prop} {stage other : Stage} (unseen : Unseen hidden stage other)
  (platform : Platform)

include unseen

/-- The prompt is the same. -/
theorem prompt : other.prompt platform = stage.prompt platform := by
  have path : other.world.path? = stage.world.path? := by
    rw [World.path?, World.path?, unseen.world]
    exact unseen.files.pathOf _
  have environment : other.world.environment = stage.world.environment := by rw [unseen.world]
  have shown : other.shell.shownDirectory other.world =
      stage.shell.shownDirectory stage.world := by
    rw [Shell.shownDirectory, Shell.shownDirectory, path, environment, unseen.settings.truncation]
  have identity : other.shell.identity = stage.shell.identity := by rw [unseen.shell]
  have status : other.shell.status = stage.shell.status := by rw [unseen.shell]
  have colour : other.shell.tickColour = stage.shell.tickColour := by
    rw [Shell.tickColour, Shell.tickColour, status]
  have tick : other.shell.tick = stage.shell.tick := by rw [Shell.tick, Shell.tick, identity]
  simp only [Stage.prompt, Shell.prompt, shown, identity, colour, tick,
    unseen.settings.multiLinePrompt]

/-- A line comes to the same, if its program overlooks hidden files, and leaves stages that differ
in no more. -/
theorem next {line : Bytes}
    (overlooks : ∀ invocation,
      Command.child? platform.storageLimit stage.world line = some invocation →
      Program.Overlooks hidden platform.programs invocation stage.world.files) :
    Unseen hidden (stage.next platform line) (other.next platform line) ∧
      (other.evaluate platform line).printed = (stage.evaluate platform line).printed ∧
      (other.evaluate platform line).world.input = (stage.evaluate platform line).world.input ∧
      (other.settle platform line).2 = (stage.settle platform line).2 := by
  obtain ⟨left, apart, same⟩ : ∃ left,
      Files.Apart hidden (stage.evaluate platform line).world.files left ∧
        other.evaluate platform line =
          let came := stage.evaluate platform line
          { came with world := { came.world with files := left } } := by
    unfold evaluate
    rw [unseen.world, unseen.writer]
    exact Command.evaluate_of_apart unseen.files overlooks
  have settles : other.settle platform line =
      ({ (stage.settle platform line).1 with settings := other.shell.settings },
        (stage.settle platform line).2) := by
    unfold settle
    rw [same, unseen.shell]
    exact Session.settle_of_sameInScripts unseen.settings _
  have kept : (stage.settle platform line).1.settings = stage.shell.settings :=
    Session.settings_of_settle _ _
  refine ⟨?_, by rw [same], by rw [same], by rw [settles]⟩
  have settings : (stage.settle platform line).1.settings.SameInScripts
      (other.settle platform line).1.settings := by
    rw [settles, kept]
    exact unseen.settings
  constructor
  case shell => simp only [Stage.next, settles]
  case settings => exact settings
  case world => simp only [Stage.next, same]
  case files =>
    simp only [Stage.next, same]
    exact apart
  case writer => simp only [Stage.next, same]

end Stage.Unseen

/-- The program that the line of a round starts, if there is one. -/
def Turn.child? (platform : Platform) (turn : Turn) : Option Invocation :=
  match turn.answer with
  | .ok (some line) => Command.child? platform.storageLimit turn.world line
  | _ => none

/-- It does not look into hidden files. -/
def Turn.Overlooks (hidden : NodeId → Prop) (platform : Platform) (turn : Turn) : Prop :=
  ∀ invocation, turn.child? platform = some invocation →
    Program.Overlooks hidden platform.programs invocation turn.world.files

/-- Two rounds in which the same is shown. -/
structure Turn.ShowsSame (turn other : Turn) : Prop where
  printed : other.printed = turn.printed
  warnings : other.warnings = turn.warnings

namespace Session

/-- What a round prints after what its source does. -/
theorem printed_answered {σ : Type} [LineSource σ] (platform : Platform) (session : Session σ)
    (reading : Reading σ) :
    (session.answered platform reading).1.printed = reading.printed ++
      match reading.answer with
      | .error fault => [diagnostic fault]
      | .ok none => []
      | .ok (some line) =>
        ((session.meeting reading).evaluate platform line).printed ++
          ((session.meeting reading).settle platform line).2.1 := by
  unfold answered
  split
  · next answer => simp only [answer]
  · next answer => simp only [answer]
  · next answer =>
    simp only [answer]
    rfl

section Child

variable {σ : Type} [LineSource σ] {platform : Platform} {session : Session σ}

theorem world_turn (platform : Platform) (session : Session σ) :
    (session.turn platform).1.world = (session.meeting (session.ask platform)).world :=
  congrArg Stage.world (answered_turn platform session (session.ask platform)).1

/-- The program of a round is the one that its line starts in the world that it meets, -/
theorem child?_turn_of_line {line : Bytes}
    (read : (session.ask platform).answer = .ok (some line)) :
    (session.turn platform).1.child? platform =
      Command.child? platform.storageLimit (session.meeting (session.ask platform)).world line := by
  obtain ⟨_, _, given, _⟩ := answered_turn platform session (session.ask platform)
  rw [Turn.child?, turn_eq, given.trans read, ← turn_eq, world_turn]

/-- and a round without a line has none. -/
theorem child?_turn_of_end (ended : ∀ line, (session.ask platform).answer ≠ .ok (some line)) :
    (session.turn platform).1.child? platform = none := by
  obtain ⟨_, _, given, _⟩ := answered_turn platform session (session.ask platform)
  unfold Turn.child?
  split
  · next line answer => exact absurd (given.symm.trans answer) (ended line)
  · rfl

end Child

/-- Two sessions that have the same lines left, and differ in no more than their stages. -/
structure Unseen (hidden : NodeId → Prop) (session other : Session Shared) : Prop where
  stage : Stage.Unseen hidden session.stage other.stage
  source : other.source = session.source

namespace Unseen

variable {hidden : NodeId → Prop} {session other : Session Shared}
  (unseen : Unseen hidden session other) (platform : Platform)

include unseen

/-- The same is read after the same prompt. -/
theorem ask : other.ask platform = { session.ask platform with files := other.world.files } := by
  have prompt : other.shell.prompt platform.colours other.world =
      session.shell.prompt platform.colours session.world := unseen.stage.prompt platform
  simp only [Session.ask, LineSource.read, Shared.read, unseen.source, prompt]

theorem meeting : Stage.Unseen hidden (session.meeting (session.ask platform))
    (other.meeting (other.ask platform)) := by
  obtain ⟨shell, settings, world, files, writer⟩ := unseen.stage
  rw [unseen.ask platform]
  exact
    { shell
      settings
      world := congrArg (fun world : World => { world with
        files := other.world.files
        input := LineSource.supply (session.ask platform).source }) world
      files
      writer }

/-- The round shows the same, if its line comes to the same. -/
theorem showsSame
    (lines : ∀ line, (session.ask platform).answer = .ok (some line) →
      ((other.meeting (other.ask platform)).evaluate platform line).printed =
          ((session.meeting (session.ask platform)).evaluate platform line).printed ∧
        ((other.meeting (other.ask platform)).settle platform line).2 =
          ((session.meeting (session.ask platform)).settle platform line).2) :
    Turn.ShowsSame (session.turn platform).1 (other.turn platform).1 := by
  have same := unseen.ask platform
  obtain ⟨_, _, _, warned⟩ := answered_turn platform session (session.ask platform)
  obtain ⟨_, _, _, otherWarned⟩ := answered_turn platform other (other.ask platform)
  constructor
  case warnings => rw [turn_eq, turn_eq, warned, otherWarned, same]
  case printed =>
    have answer : (other.ask platform).answer = (session.ask platform).answer := by rw [same]
    have printed : (other.ask platform).printed = (session.ask platform).printed := by rw [same]
    rw [turn_eq, turn_eq, printed_answered, printed_answered, printed, answer]
    refine congrArg ((session.ask platform).printed ++ ·) ?_
    cases given : (session.ask platform).answer with
    | error fault => rfl
    | ok item =>
      cases item with
      | none => rfl
      | some line =>
        obtain ⟨evaluated, settled⟩ := lines line given
        simp only [evaluated, settled]

/-- The sessions go one round together, if its program does not look into hidden files. -/
theorem goTogether (overlooks : (session.turn platform).1.Overlooks hidden platform) :
    GoTogether platform (Unseen hidden) Turn.ShowsSame session other := by
  have met := unseen.meeting platform
  have same := unseen.ask platform
  have answer : (other.ask platform).answer = (session.ask platform).answer := by rw [same]
  have source : (other.ask platform).source = (session.ask platform).source := by rw [same]
  rw [Turn.Overlooks, world_turn] at overlooks
  have lines (line : Bytes) (read : (session.ask platform).answer = .ok (some line)) :=
    met.next platform (child?_turn_of_line read ▸ overlooks)
  have turn := unseen.showsSame platform fun line read =>
    ⟨(lines line read).2.1, (lines line read).2.2.2⟩
  by_cases line : ∃ line, (session.ask platform).answer = .ok (some line)
  · obtain ⟨line, read⟩ := line
    obtain ⟨next, left, code⟩ := answered_of_line platform session read
    obtain ⟨otherNext, otherLeft, otherCode⟩ :=
      answered_of_line platform other (answer.trans read)
    obtain ⟨later, _, input, settled⟩ := lines line read
    constructor
    case turn => exact turn
    case next =>
      rw [turn_eq, turn_eq]
      exact ⟨by rw [next, otherNext]; exact later, by rw [left, otherLeft, input, source]⟩
    case code => rw [turn_eq, turn_eq, code, otherCode, settled]
  · have none := not_exists.mp line
    obtain ⟨next, left, code⟩ := answered_of_end platform session none
    have otherNone : ∀ line, (other.ask platform).answer ≠ .ok (some line) := by
      rw [answer]
      exact none
    obtain ⟨otherNext, otherLeft, otherCode⟩ := answered_of_end platform other otherNone
    constructor
    case turn => exact turn
    case next =>
      rw [turn_eq, turn_eq]
      exact ⟨by rw [next, otherNext]; exact met, by rw [left, otherLeft, source]⟩
    case code => rw [turn_eq, turn_eq, code, otherCode]

end Unseen

variable {platform : Platform} {session : Session Shared}

/-- A shared input prints the prompt as it stands and warns of nothing. -/
theorem shown_ask (platform : Platform) (session : Session Shared) :
    (session.ask platform).printed =
        Printed.of .prompt (Bytes.ofString (session.stage.prompt platform)) ∧
      (session.ask platform).warnings = [] := by
  simp only [ask, LineSource.read, Shared.read]
  exact ⟨rfl, trivial⟩

/-- A round over a shared input shows its prompt, what its line prints and what is reported of
it. -/
theorem turn_printsInOrder (platform : Platform) (session : Session Shared) :
    (session.turn platform).1.PrintsInOrder platform ∧ (session.turn platform).1.warnings = [] := by
  obtain ⟨printed, quiet⟩ := shown_ask platform session
  obtain ⟨_, _, _, warnings⟩ := answered_turn platform session (session.ask platform)
  exact ⟨printsInOrder_answered platform session List.prefix_rfl printed, warnings.trans quiet⟩

theorem run_printsInOrder (platform : Platform) (session : Session Shared) :
    ∀ turn ∈ (session.run platform).turns, turn.PrintsInOrder platform ∧ turn.warnings = [] := by
  induction session using @run_induction Shared _ platform with
  | halt session code halt =>
    rw [run_of_halt halt]
    exact List.forall_mem_singleton.mpr (turn_printsInOrder platform session)
  | on session on ih =>
    rw [run_of_on on]
    exact List.forall_mem_cons.mpr ⟨turn_printsInOrder platform session, ih⟩

/-- The files after a round are those before it, or what its program leaves of them. -/
theorem files_turn (platform : Platform) (session : Session Shared) :
    let turn := (session.turn platform).1
    turn.world.files = session.world.files ∧
      (session.turn platform).2.1.world.files =
        match turn.child? platform with
        | some invocation => (platform.programs invocation turn.world.files).files
        | none => turn.world.files := by
  intro turn
  have world : turn.world = (session.meeting (session.ask platform)).world :=
    world_turn platform session
  refine ⟨by rw [world]; rfl, ?_⟩
  rw [world]
  by_cases line : ∃ line, (session.ask platform).answer = .ok (some line)
  · obtain ⟨line, read⟩ := line
    obtain ⟨next, _, _⟩ := answered_of_line platform session read
    have left : (session.turn platform).2.1.world.files =
        ((session.meeting (session.ask platform)).evaluate platform line).world.files :=
      congrArg (fun stage : Stage => stage.world.files) next
    rw [left, child?_turn_of_line read]
    cases starts : Command.child? platform.storageLimit
        (session.meeting (session.ask platform)).world line with
    | some invocation =>
      rw [Stage.evaluate, Command.evaluate_of_child starts]
      rfl
    | none => exact Command.files_of_childless starts
  · have ended := not_exists.mp line
    obtain ⟨next, _, _⟩ := answered_of_end platform session ended
    rw [child?_turn_of_end ended]
    exact congrArg (fun stage : Stage => stage.world.files) next

/-- What holds of the files and is kept by all programs that are started holds in the end. -/
theorem run_keepsFiles {property : Files → Prop} (holds : property session.world.files)
    (kept : ∀ turn ∈ (session.run platform).turns, ∀ invocation,
      turn.child? platform = some invocation → property turn.world.files →
        property (platform.programs invocation turn.world.files).files) :
    property (session.run platform).final.world.files := by
  have step (session : Session Shared) (holds : property session.world.files)
      (kept : ∀ invocation, (session.turn platform).1.child? platform = some invocation →
        property (session.turn platform).1.world.files →
        property (platform.programs invocation (session.turn platform).1.world.files).files) :
      property (session.turn platform).2.1.world.files := by
    obtain ⟨same, left⟩ := files_turn platform session
    rw [left]
    cases starts : (session.turn platform).1.child? platform with
    | some invocation => exact kept invocation starts (same ▸ holds)
    | none => exact same ▸ holds
  induction session using @run_induction Shared _ platform with
  | halt session code halt =>
    rw [run_of_halt halt] at kept ⊢
    exact step session holds (kept _ List.mem_cons_self)
  | on session on ih =>
    rw [run_of_on on] at kept ⊢
    exact ih (step session holds (kept _ List.mem_cons_self))
      fun turn within => kept turn (List.mem_cons_of_mem _ within)

end Session

end LineShell
