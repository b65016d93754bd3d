import LineShell.Proofs.Stage

/-!
# The status that a prompt shows

At each prompt the shell holds the status of the latest line that had words, whatever became of
that line, and the tick has the colour that goes with it. What one line leaves (`Leaves`) is
carried along the rounds of a run by `status_of_turn`. The source of the lines may be any.
-/
namespace LineShell

namespace Status

/-- A wait leaves a byte. -/
theorem ofWait_bounds (raw : UInt32) : 0 ≤ (ofWait raw).code ∧ (ofWait raw).code ≤ 255 := by
  unfold ofWait Ending.ofWait
  simp only
  split
  · simp only [ofEnding]
    omega
  · split
    · simp only [ofEnding]
      omega
    · simp [ofEnding, failure]

end Status

theorem Fault.status_code (fault : Fault) :
    fault.status.code = 1 ∨ fault.status.code = 126 ∨ fault.status.code = 127 := by
  unfold status
  split <;> simp [Status.failure]

/-- In colour a text that ends in a green sign does not end in the same sign in red. -/
theorem Colour.paintBold_green_ne_red (front other sign : String) :
    front ++ green.paintBold true sign ++ " " ≠ other ++ red.paintBold true sign ++ " " := by
  have same (before text : String) (colour : Colour) :
      before ++ colour.paintBold true text ++ " " =
        (before ++ "\x1b[38;5;" ++ colour.number.repr) ++
          ("m" ++ escape "1" ++ text ++ escape "0" ++ " ") := by
    simp only [paintBold, start, escape, if_true, String.append_assoc]
    rfl
  intro both
  rw [same, same, String.append_left_inj, show green.number.repr = "10" from rfl,
    show red.number.repr = "9" from rfl] at both
  have ends := congrArg (fun text => text.toList.getLast?) both
  simp at ends

/-- Whether a prompt ends in the tick of its shell in a colour, and a blank. -/
def Turn.ShowsTick (colours : Bool) (turn : Turn) (colour : Colour) : Prop :=
  ∃ front, turn.prompt = front ++ colour.paintBold colours turn.shell.tick ++ " "

namespace Stage

/-- The status that a line with words leaves: zero for another directory and for a builtin, the
status of its wait for a program, and the status of its fault for a line that fails. -/
inductive Leaves (platform : Platform) (stage : Stage) (line : Bytes) : Status → Prop where
  | moved {target : Option Bytes} {outcome : Outcome}
      (asked : Action.ofArguments (words line) = .changeDirectory target)
      (came : (stage.evaluate platform line).outcome = .ok outcome) :
      Leaves platform stage line ⟨0⟩
  | wrote {command : Builtin} {outcome : Outcome}
      (asked : Action.ofArguments (words line) = .builtin command)
      (came : (stage.evaluate platform line).outcome = .ok outcome) :
      Leaves platform stage line ⟨0⟩
  | ran {invocation : Invocation} {outcome : Outcome}
      (asked : Action.ofArguments (words line) = .program)
      (started : Program.invocation stage.world (words line) = .ok invocation)
      (came : (stage.evaluate platform line).outcome = .ok outcome) :
      Leaves platform stage line
        (.ofWait (platform.programs invocation stage.world.files).wait)
  | failed {fault : Fault} (came : (stage.evaluate platform line).outcome = .error fault) :
      Leaves platform stage line fault.status

variable {platform : Platform} {stage : Stage} {line : Bytes} {status : Status}

theorem Leaves.bounds (leaves : stage.Leaves platform line status) :
    0 ≤ status.code ∧ status.code ≤ 255 := by
  cases leaves with
  | moved | wrote => decide
  | ran => exact Status.ofWait_bounds _
  | @failed fault => rcases fault.status_code with code | code | code <;> simp [code]

/-- After a failure the status is one of three. -/
theorem Leaves.of_failed {fault : Fault} (leaves : stage.Leaves platform line status)
    (failed : (stage.evaluate platform line).outcome = .error fault) :
    status.code = 1 ∨ status.code = 126 ∨ status.code = 127 := by
  cases leaves with
  | moved _ came | wrote _ came | ran _ _ came => simp [came] at failed
  | @failed fault => exact fault.status_code

/-- A fault that does not end the session leaves its status. -/
theorem status_of_failed {fault : Fault}
    (came : (stage.evaluate platform line).outcome = .error fault)
    (on : (stage.settle platform line).2.2 = none) :
    (stage.settle platform line).1.status = fault.status := by
  unfold settle at on ⊢
  rw [came] at on ⊢
  cases fatal : fault.isFatal with
  | true => simp [Session.settle, fatal] at on
  | false => simp [Session.settle, fatal]

/-- A line without words leaves the status alone. -/
theorem status_of_blank (on : (stage.settle platform line).2.2 = none) (blank : words line = []) :
    (stage.settle platform line).1.status = stage.shell.status := by
  cases stored : Arguments.ofLine platform.storageLimit line with
  | error fault => simp [settle_of_refused stage stored] at on
  | ok arguments =>
    have performed := evaluate_of_stored stage stored
    rw [Arguments.toList_of_ofLine stored, blank] at performed
    rw [settle, performed]
    rfl

/-- Any other line that does not end the session leaves the status of what came of it. -/
theorem leaves_of_worded (on : (stage.settle platform line).2.2 = none)
    (worded : words line ≠ []) :
    stage.Leaves platform line (stage.settle platform line).1.status := by
  cases stored : Arguments.ofLine platform.storageLimit line with
  | error fault => simp [settle_of_refused stage stored] at on
  | ok arguments =>
    have performed := evaluate_of_stored stage stored
    rw [Arguments.toList_of_ofLine stored] at performed
    have course := Command.perform_course platform.programs stage.world stage.writer (words line)
    rw [← performed] at course
    generalize came : stage.evaluate platform line = evaluated at course
    have outcome := congrArg Evaluated.outcome came
    cases course with
    | nothing blank => exact absurd blank worded
    | moved asked =>
      have status : (stage.settle platform line).1.status = ⟨0⟩ := by rw [settle, outcome]; rfl
      exact status ▸ .moved asked outcome
    | wrote asked =>
      have status : (stage.settle platform line).1.status = ⟨0⟩ := by rw [settle, outcome]; rfl
      exact status ▸ .wrote asked outcome
    | @ran invocation finish asked started ended =>
      have status : (stage.settle platform line).1.status = .ofWait finish.wait := by
        rw [settle, outcome]
        rfl
      rw [status, ended]
      exact .ran asked started outcome
    | ended asked =>
      rw [settle, outcome] at on
      cases on
    | stayed | unwritten | unstarted => exact status_of_failed outcome on ▸ .failed outcome

end Stage

/-- The words of the line that a round has read. -/
def Turn.words (turn : Turn) : List Bytes :=
  match turn.answer with
  | .ok (some line) => LineShell.words line
  | _ => []

/-- The latest of some rounds whose line had words. -/
def Turn.latest? (turns : List Turn) : Option Turn :=
  (turns.filter fun turn => turn.words ≠ []).getLast?

theorem Turn.latest?_cons (turn : Turn) (later : List Turn) :
    latest? (turn :: later) =
      (latest? later).or (if turn.words = [] then none else some turn) := by
  unfold latest?
  by_cases wordless : turn.words = []
  · rw [List.filter_cons_of_neg (by simpa using wordless), if_pos wordless, Option.or_none]
  · rw [List.filter_cons_of_pos (by simpa using wordless), if_neg wordless, List.getLast?_cons]
    cases (later.filter fun turn => turn.words ≠ []).getLast? <;> rfl

namespace Session

variable {σ : Type} [LineSource σ]

/-- An outcome that ends the session leaves the shell alone. -/
theorem shell_of_settle {shell : Shell} {outcome : Except Fault Outcome} {code : Int}
    (halt : (settle shell outcome).2.2 = some code) : (settle shell outcome).1 = shell := by
  cases outcome with
  | ok came =>
    cases came with
    | nothing | exit => rfl
    | completed status => cases halt
  | error fault =>
    cases fatal : fault.isFatal with
    | true => simp [settle, fatal]
    | false => simp [settle, fatal] at halt

/-- What a round with a line does, whatever source the line is from. -/
theorem turn_of_line {platform : Platform} {session : Session σ} {line : Bytes}
    (given : (session.ask platform).answer = .ok (some line)) :
    (session.turn platform).1.answer = .ok (some line) ∧
      (session.turn platform).2.1.shell =
        ((session.turn platform).1.stage.settle platform line).1 ∧
      (session.turn platform).2.2 =
        ((session.turn platform).1.stage.settle platform line).2.2 := by
  unfold turn answered
  rw [given]
  exact ⟨rfl, rfl, rfl⟩

theorem shell_of_turn (platform : Platform) (session : Session σ) :
    (session.turn platform).1.shell = session.shell := by
  unfold turn answered
  split <;> rfl

/-- A round shows the prompt of the shell it finds. -/
theorem prompt_of_turn (platform : Platform) (session : Session σ) :
    ∃ world, (session.turn platform).1.prompt =
      (session.turn platform).1.shell.prompt platform.colours world := by
  refine ⟨session.world, ?_⟩
  unfold turn answered
  split <;> rfl

/-- What a round that is not the last makes of the status. -/
theorem status_of_turn {platform : Platform} {session : Session σ}
    (on : (session.turn platform).2.2 = none) :
    ((session.turn platform).1.words = [] →
      (session.turn platform).2.1.shell.status = session.shell.status) ∧
    ((session.turn platform).1.words ≠ [] →
      ∃ line, (session.turn platform).1.answer = .ok (some line) ∧
        (session.turn platform).1.stage.Leaves platform line
          (session.turn platform).2.1.shell.status) := by
  obtain ⟨line, given⟩ := line_of_answered on
  obtain ⟨answer, shell, code⟩ := turn_of_line given
  have settled : ((session.turn platform).1.stage.settle platform line).2.2 = none :=
    code ▸ on
  have same : (session.turn platform).1.stage.shell = session.shell :=
    shell_of_turn platform session
  simp only [Turn.words, answer, shell]
  exact ⟨fun blank => same ▸ Stage.status_of_blank settled blank,
    fun worded => ⟨line, rfl, Stage.leaves_of_worded settled worded⟩⟩

/-- The last round leaves the status alone. -/
theorem status_of_halt {platform : Platform} {session : Session σ} {code : Int}
    (halt : (session.turn platform).2.2 = some code) :
    (session.turn platform).2.1.shell.status = (session.turn platform).1.shell.status := by
  unfold turn answered at halt ⊢
  split
  · rfl
  · rfl
  · next line given =>
    rw [given] at halt
    exact congrArg Shell.status (shell_of_settle halt)

/-- What a run makes of the status up to a round. -/
theorem status_of_run (platform : Platform) (session : Session σ) {count : Nat} {turn : Turn}
    (shown : (session.run platform).turns[count]? = some turn) :
    match Turn.latest? ((session.run platform).turns.take count) with
    | none => turn.shell.status = session.shell.status
    | some before => ∃ line, before.answer = .ok (some line) ∧
        before.stage.Leaves platform line turn.shell.status := by
  induction session using @run_induction σ _ platform generalizing count with
  | halt session code halt =>
    rw [run_of_halt halt] at shown ⊢
    cases count with
    | zero =>
      obtain rfl : (session.turn platform).1 = turn := by simpa using shown
      exact congrArg Shell.status (shell_of_turn platform session)
    | succ count => simp at shown
  | on session on ih =>
    rw [run_of_on on] at shown ⊢
    cases count with
    | zero =>
      obtain rfl : (session.turn platform).1 = turn := by simpa using shown
      exact congrArg Shell.status (shell_of_turn platform session)
    | succ count =>
      have later := ih shown
      obtain ⟨blank, worded⟩ := status_of_turn on
      rw [List.take_succ_cons, Turn.latest?_cons]
      cases latest : Turn.latest? (((session.turn platform).2.1.run platform).turns.take count) with
      | some before =>
        rw [latest] at later
        exact later
      | none =>
        rw [latest] at later
        by_cases wordless : (session.turn platform).1.words = []
        · rw [if_pos wordless]
          exact later.trans (blank wordless)
        · rw [if_neg wordless]
          exact later ▸ worded wordless

/-- A run ends with the status of its last prompt. -/
theorem status_of_final (platform : Platform) (session : Session σ) :
    ∃ last, (session.run platform).turns.getLast? = some last ∧
      (session.run platform).final.shell.status = last.shell.status := by
  induction session using @run_induction σ _ platform with
  | halt session code halt =>
    rw [run_of_halt halt]
    exact ⟨_, rfl, status_of_halt halt⟩
  | on session on ih =>
    obtain ⟨last, ends, status⟩ := ih
    rw [run_of_on on]
    exact ⟨last, by simp [List.getLast?_cons, ends], status⟩

end Session

/-- What the status at a prompt has to do with the rounds before. -/
structure Turn.CarriesStatus (platform : Platform) (past : List Turn) (turn : Turn) : Prop where
  /-- The status is zero before any line with words. -/
  fresh : latest? past = none → turn.shell.status.code = 0
  /-- Then it is what the latest such line has left, whatever lines without words came after. -/
  left : ∀ before, latest? past = some before →
    ∃ line, before.answer = .ok (some line) ∧
      before.stage.Leaves platform line turn.shell.status
  /-- It is not zero if that line has failed, whether or not the fault was shown. -/
  failed : ∀ before line fault, latest? past = some before → before.answer = .ok (some line) →
    (before.stage.evaluate platform line).outcome = .error fault →
    turn.shell.status.code = 1 ∨ turn.shell.status.code = 126 ∨ turn.shell.status.code = 127
  /-- It is a byte at all times. -/
  bounded : 0 ≤ turn.shell.status.code ∧ turn.shell.status.code ≤ 255
  /-- The tick is green for zero and red otherwise. -/
  tick : turn.ShowsTick platform.colours (if turn.shell.status.code = 0 then .green else .red)
  /-- In colour the tick gives the status away. -/
  told : platform.colours = true →
    (turn.ShowsTick true .green ↔ turn.shell.status.code = 0) ∧
      (turn.ShowsTick true .red ↔ turn.shell.status.code ≠ 0)

namespace Turn

variable {turn : Turn}

/-- A prompt ends in the tick of its shell's colour. -/
theorem showsTick_tickColour {colours : Bool} {world : World}
    (prompt : turn.prompt = turn.shell.prompt colours world) :
    turn.ShowsTick colours turn.shell.tickColour := by
  rw [ShowsTick, prompt, Shell.prompt]
  exact ⟨_, rfl⟩

/-- In colour a prompt does not end in both ticks. -/
theorem not_showsTick_both (green : turn.ShowsTick true .green) (red : turn.ShowsTick true .red) :
    False := by
  obtain ⟨front, given⟩ := green
  obtain ⟨other, again⟩ := red
  exact Colour.paintBold_green_ne_red front other _ (given.symm.trans again)

end Turn

theorem Shell.tickColour_eq (shell : Shell) :
    shell.tickColour = if shell.status.code = 0 then .green else .red := by
  simp [tickColour, Status.succeeded]

namespace Turn.CarriesStatus

variable {platform : Platform} {past : List Turn} {turn : Turn} {world : World}

/-- What the rounds before have left, together with the prompt, says it all. -/
theorem of_past (prompt : turn.prompt = turn.shell.prompt platform.colours world)
    (carried : match latest? past with
      | none => turn.shell.status = .success
      | some before => ∃ line, before.answer = .ok (some line) ∧
          before.stage.Leaves platform line turn.shell.status) :
    turn.CarriesStatus platform past := by
  have shows := showsTick_tickColour prompt
  rw [Shell.tickColour_eq] at shows
  constructor
  case fresh =>
    intro none
    rw [none] at carried
    exact congrArg Status.code carried
  case left =>
    intro before some
    rw [some] at carried
    exact carried
  case failed =>
    intro before line fault some given failed
    rw [some] at carried
    obtain ⟨same, answer, leaves⟩ := carried
    obtain rfl : same = line := by simpa [answer] using given
    exact leaves.of_failed failed
  case bounded =>
    cases latest : latest? past with
    | none =>
      rw [latest] at carried
      rw [carried]
      decide
    | some before =>
      rw [latest] at carried
      obtain ⟨line, _, leaves⟩ := carried
      exact leaves.bounds
  case tick => exact shows
  case told =>
    intro colours
    rw [colours] at shows
    by_cases zero : turn.shell.status.code = 0
    · rw [if_pos zero] at shows
      have other : ¬ turn.ShowsTick true .red := fun red => not_showsTick_both shows red
      simp [zero, shows, other]
    · rw [if_neg zero] at shows
      have other : ¬ turn.ShowsTick true .green := fun green => not_showsTick_both green shows
      simp [zero, shows, other]

end Turn.CarriesStatus

namespace Session

variable {σ : Type} [LineSource σ]

/-- Every prompt of a run is that of its shell, in some world. -/
theorem prompt_of_run (platform : Platform) (session : Session σ) {turn : Turn}
    (shown : turn ∈ (session.run platform).turns) :
    ∃ world, turn.prompt = turn.shell.prompt platform.colours world := by
  induction session using @run_induction σ _ platform with
  | halt session code halt =>
    rw [run_of_halt halt] at shown
    obtain rfl := List.mem_singleton.mp shown
    exact prompt_of_turn platform session
  | on session on ih =>
    rw [run_of_on on] at shown
    rcases List.mem_cons.mp shown with rfl | later
    · exact prompt_of_turn platform session
    · exact ih later

/-- How the status is carried through a run. -/
structure CarriesStatuses (platform : Platform) (report : Report σ) : Prop where
  /-- At each prompt the status is what the rounds before have made it. -/
  prompts : ∀ (count : Nat) (turn : Turn), report.turns[count]? = some turn →
    turn.CarriesStatus platform (report.turns.take count)
  /-- At its end the shell has the status of the last prompt. -/
  final : ∃ last, report.turns.getLast? = some last ∧
    report.final.shell.status = last.shell.status

/-- **Every prompt of a session shows the status of the latest line that had words.** -/
theorem run_carriesStatuses (platform : Platform) (identity : Identity) (settings : Settings)
    (world : World) (writer : Writer) (source : σ) :
    CarriesStatuses platform
      ((Session.mk ⟨identity, settings, .success⟩ world writer source).run platform) := by
  constructor
  case prompts =>
    intro count turn shown
    obtain ⟨there, prompt⟩ := prompt_of_run platform _ (List.mem_of_getElem? shown)
    exact .of_past prompt (status_of_run platform _ shown)
  case final => exact status_of_final platform _

end Session

end LineShell
