import LineShell.Proofs.Stage

/-!
# Which lines a session evaluates

A session evaluates its lines one by one and stops at the first that finds no storage or asks for
the end; nothing else that happens to a line ends it or makes it leave out a line. What comes after
that line is not looked at.
-/
namespace LineShell

namespace Command

/-- The lines at which a session stops: their arguments find no storage, or they ask for the
end. -/
def stops (limit : Option Nat) (line : Bytes) : Bool :=
  match Arguments.ofLine limit line with
  | .error _ => true
  | .ok arguments => arguments.name? == some exitName

/-- The lines up to the first that stops a session, that one included. -/
def upToStop (limit : Option Nat) (lines : List Bytes) : List Bytes :=
  match lines.findIdx? (stops limit) with
  | some index => lines.take (index + 1)
  | none => lines

@[simp] theorem upToStop_nil (limit : Option Nat) : upToStop limit [] = [] := rfl

/-- A first line at which no session stops leaves the stop to the others. -/
theorem findIdx?_of_on {limit : Option Nat} {line : Bytes} {rest : List Bytes} {index : Nat}
    (on : stops limit line = false)
    (stop : (line :: rest).findIdx? (stops limit) = some index) :
    ∃ later, rest.findIdx? (stops limit) = some later ∧ later + 1 = index := by
  simpa [List.findIdx?_cons, on] using stop

/-- A first line at which a session stops is where it stops. -/
theorem findIdx?_of_stops {limit : Option Nat} {line : Bytes} {rest : List Bytes} {index : Nat}
    (stop : stops limit line = true)
    (found : (line :: rest).findIdx? (stops limit) = some index) : index = 0 := by
  simpa [List.findIdx?_cons, stop, eq_comm] using found

theorem upToStop_cons (limit : Option Nat) (line : Bytes) (rest : List Bytes) :
    upToStop limit (line :: rest) =
      line :: if stops limit line then [] else upToStop limit rest := by
  by_cases stop : stops limit line
  · simp [upToStop, List.findIdx?_cons, stop]
  · cases later : rest.findIdx? (stops limit) <;>
      simp [upToStop, List.findIdx?_cons, stop, later]

end Command

namespace Stage

variable {platform : Platform} (stage : Stage) {line : Bytes}

/-- No line ends a session but those at which it stops. -/
theorem settle_of_on (on : Command.stops platform.storageLimit line = false) :
    (stage.settle platform line).2.2 = none := by
  unfold Command.stops at on
  cases stored : Arguments.ofLine platform.storageLimit line with
  | error fault => simp [stored] at on
  | ok arguments =>
    have other : arguments.name? ≠ some exitName := by simpa [stored] using on
    rw [settle, evaluate_of_stored stage stored]
    cases outcome : (Command.perform platform.programs stage.world stage.writer
        arguments.toList).outcome with
    | error fault => simp [Session.settle, Command.isFatal_of_perform outcome]
    | ok came =>
      cases came with
      | nothing | completed status => rfl
      | exit code => exact absurd (Command.outcome_perform_eq_exit_iff.mp outcome).1 other

/-- A line that asks for the end gives the code with which the session ends. -/
theorem settle_of_exit {arguments : Arguments}
    (stored : Arguments.ofLine platform.storageLimit line = .ok arguments)
    (asked : arguments.name? = some exitName) :
    ∃ code, (stage.evaluate platform line).outcome = .ok (.exit code) ∧
      (stage.settle platform line).2.2 = some code := by
  have exits : (stage.evaluate platform line).outcome =
      .ok (.exit (Builtin.exitCode arguments.toList.tail)) := by
    rw [evaluate_of_stored stage stored]
    exact Command.outcome_perform_eq_exit_iff.mpr ⟨asked, rfl⟩
  exact ⟨_, exits, by rw [settle, exits]; rfl⟩

/-- A session ends at each line at which it stops. -/
theorem settle_of_stops (stop : Command.stops platform.storageLimit line = true) :
    ∃ code, (stage.settle platform line).2.2 = some code := by
  unfold Command.stops at stop
  cases stored : Arguments.ofLine platform.storageLimit line with
  | error fault => exact ⟨_, settle_of_refused stage stored⟩
  | ok arguments =>
    have asked : arguments.name? = some exitName := by simpa [stored] using stop
    obtain ⟨code, _, ended⟩ := settle_of_exit stage stored asked
    exact ⟨code, ended⟩

/-- The code of a line at which the session stops. -/
theorem code_of_stops (stop : Command.stops platform.storageLimit line = true) {code : Int}
    (ended : (stage.settle platform line).2.2 = some code) :
    match Arguments.ofLine platform.storageLimit line with
    | .error _ => code = 1
    | .ok _ => (stage.evaluate platform line).outcome = .ok (.exit code) := by
  unfold Command.stops at stop
  cases stored : Arguments.ofLine platform.storageLimit line with
  | error fault =>
    rw [settle_of_refused stage stored] at ended
    exact (Option.some.inj ended).symm
  | ok arguments =>
    have asked : arguments.name? = some exitName := by simpa [stored] using stop
    obtain ⟨given, exits, gives⟩ := settle_of_exit stage stored asked
    obtain rfl := Option.some.inj (ended.symm.trans gives)
    exact exits

section Play

variable (platform : Platform) (closing : Except Fault (Option Bytes)) (prompts : Writer)

theorem play_of_on (stage : Stage) {line : Bytes} (rest : List Bytes)
    (on : Command.stops platform.storageLimit line = false) :
    stage.play platform closing prompts (line :: rest) =
      let later := (stage.next platform line).play platform closing
        (stage.prompted platform prompts) rest
      { later with turns := stage.lineRound platform prompts line :: later.turns } := by
  rw [play, settle_of_on stage on]

theorem play_of_settle (stage : Stage) {line : Bytes} (rest : List Bytes) {code : Int}
    (ended : (stage.settle platform line).2.2 = some code) :
    stage.play platform closing prompts (line :: rest) =
      ⟨code, [stage.lineRound platform prompts line], stage.next platform line⟩ := by
  rw [play, ended]

/-- Each line up to the stop has a round of its own, on what the lines before it have left. -/
theorem turns_play (stage : Stage) (lines : List Bytes) (count : Nat) {line : Bytes}
    (given : (Command.upToStop platform.storageLimit lines)[count]? = some line) :
    ∃ shown, (stage.play platform closing prompts lines).turns[count]? =
      some (((lines.take count).foldl (next platform) stage).lineRound platform shown line) := by
  induction lines generalizing stage prompts count with
  | nil => simp at given
  | cons first rest ih =>
    rw [Command.upToStop_cons] at given
    cases count with
    | zero =>
      obtain rfl : first = line := by simpa using given
      refine ⟨prompts, ?_⟩
      rw [play]
      split <;> rfl
    | succ count =>
      cases stop : Command.stops platform.storageLimit first with
      | true => simp [stop] at given
      | false =>
        have later : (Command.upToStop platform.storageLimit rest)[count]? = some line := by
          simpa [stop] using given
        rw [play_of_on platform closing prompts stage rest stop]
        exact ih _ _ count later

/-- The last stage is what the lines up to the stop have left. -/
theorem stage_play (stage : Stage) (lines : List Bytes) :
    (stage.play platform closing prompts lines).stage =
      (Command.upToStop platform.storageLimit lines).foldl (next platform) stage := by
  induction lines generalizing stage prompts with
  | nil => rfl
  | cons line rest ih =>
    rw [Command.upToStop_cons]
    cases stop : Command.stops platform.storageLimit line with
    | true =>
      obtain ⟨code, ended⟩ := settle_of_stops stage stop
      rw [play_of_settle platform closing prompts stage rest ended]
      rfl
    | false =>
      rw [play_of_on platform closing prompts stage rest stop]
      exact ih _ _

/-- Where no line stops the session it ends with code zero after one round more. -/
theorem play_of_all_on (stage : Stage) (lines : List Bytes)
    (on : ∀ line ∈ lines, Command.stops platform.storageLimit line = false) :
    (stage.play platform closing prompts lines).code = 0 ∧
      (stage.play platform closing prompts lines).turns.length = lines.length + 1 ∧
      ∃ shown, (stage.play platform closing prompts lines).turns[lines.length]? =
        some ((lines.foldl (next platform) stage).endRound platform shown closing) := by
  induction lines generalizing stage prompts with
  | nil => exact ⟨rfl, rfl, prompts, rfl⟩
  | cons line rest ih =>
    obtain ⟨code, length, shown, last⟩ := ih (stage.prompted platform prompts)
      (stage.next platform line) fun other within => on other (List.mem_cons_of_mem _ within)
    rw [play_of_on platform closing prompts stage rest (on line (List.mem_cons_self ..))]
    exact ⟨code, congrArg (· + 1) length, shown, last⟩

/-- Where a line stops the session, its round is the last and gives the code. -/
theorem play_of_stop_at (stage : Stage) (lines : List Bytes) {index : Nat} {line : Bytes}
    (stop : lines.findIdx? (Command.stops platform.storageLimit) = some index)
    (given : lines[index]? = some line) :
    (stage.play platform closing prompts lines).turns.length = index + 1 ∧
      (((lines.take index).foldl (next platform) stage).settle platform line).2.2 =
        some (stage.play platform closing prompts lines).code := by
  induction lines generalizing stage prompts index with
  | nil => simp at given
  | cons first rest ih =>
    cases stops : Command.stops platform.storageLimit first with
    | true =>
      obtain rfl := Command.findIdx?_of_stops stops stop
      obtain rfl : first = line := by simpa using given
      obtain ⟨code, ended⟩ := settle_of_stops stage stops
      rw [play_of_settle platform closing prompts stage rest ended]
      exact ⟨rfl, ended⟩
    | false =>
      obtain ⟨later, found, rfl⟩ := Command.findIdx?_of_on stops stop
      obtain ⟨length, ended⟩ := ih (stage.prompted platform prompts) (stage.next platform first)
        found given
      rw [play_of_on platform closing prompts stage rest stops]
      exact ⟨congrArg (· + 1) length, ended⟩

/-- Nothing after the line at which a session stops plays a part. -/
theorem play_of_same_start (stage : Stage) (lines others : List Bytes)
    (otherwise : Except Fault (Option Bytes)) {index : Nat}
    (stop : lines.findIdx? (Command.stops platform.storageLimit) = some index)
    (same : others.take (index + 1) = lines.take (index + 1)) :
    stage.play platform otherwise prompts others = stage.play platform closing prompts lines := by
  induction lines generalizing stage prompts index others with
  | nil => simp at stop
  | cons line rest ih =>
    obtain ⟨tail, rfl⟩ : ∃ tail, others = line :: tail := by
      cases others with
      | nil => simp at same
      | cons head tail => exact ⟨tail, by simp_all⟩
    cases stops : Command.stops platform.storageLimit line with
    | true =>
      obtain ⟨code, ended⟩ := settle_of_stops stage stops
      rw [play_of_settle platform closing prompts stage rest ended,
        play_of_settle platform otherwise prompts stage tail ended]
    | false =>
      obtain ⟨later, found, rfl⟩ := Command.findIdx?_of_on stops stop
      have after := ih (stage.prompted platform prompts) (stage.next platform line) tail found
        (by simpa using same)
      rw [play_of_on platform closing prompts stage rest stops,
        play_of_on platform otherwise prompts stage tail stops, after]

end Play

end Stage

namespace Session

/-- How a session over a stream goes by the lines of its input. -/
structure GoesByLines (platform : Platform) (session : Session Stream) (report : Report Stream) :
    Prop where
  /-- The lines are those of the input. One that is not ended is lost where the input breaks
  off. -/
  cut : ∀ ended last, (∀ line ∈ ended, Text.IsEnded line) → Text.lineFeed ∉ last →
    session.source.input = ended.flatten ++ last →
    session.source.lines =
      ended ++ if last = [] ∨ session.source.failure ≠ none then [] else [last]
  /-- Every line up to the stop is evaluated in a round of its own, in order, on the shell, the
  world and the writer that the lines before it have left. -/
  rounds : ∀ count line,
    (Command.upToStop platform.storageLimit session.source.lines)[count]? = some line →
    ∃ shown, report.turns[count]? =
      some (((session.source.lines.take count).foldl (Stage.next platform)
        session.opening).lineRound platform shown line)
  /-- These lines and no others have made the last stage what it is. -/
  final : report.final.stage =
    (Command.upToStop platform.storageLimit session.source.lines).foldl (Stage.next platform)
      session.opening
  /-- Where no line stops the session it asks for one line more, finds the end or the break, and
  gives zero. -/
  ended : (∀ line ∈ session.source.lines, Command.stops platform.storageLimit line = false) →
    report.code = 0 ∧ report.turns.length = session.source.lines.length + 1 ∧
      ∃ shown, report.turns[session.source.lines.length]? =
        some ((session.source.lines.foldl (Stage.next platform) session.opening).endRound platform
          shown session.source.closing)
  /-- Where a line stops the session, nothing is asked for after it. Want of storage gives one, and
  the end gives the code that its line comes to. -/
  stopped : ∀ index line,
    session.source.lines.findIdx? (Command.stops platform.storageLimit) = some index →
    session.source.lines[index]? = some line →
    report.turns.length = index + 1 ∧
      match Arguments.ofLine platform.storageLimit line with
      | .error _ => report.code = 1
      | .ok _ =>
        (((session.source.lines.take index).foldl (Stage.next platform) session.opening).evaluate
          platform line).outcome = .ok (.exit report.code)
  /-- Whatever the input holds after that line, and however it ends, makes no difference. -/
  unread : ∀ index,
    session.source.lines.findIdx? (Command.stops platform.storageLimit) = some index →
    ∀ other : Session Stream, other.opening = session.opening →
      other.source.prompts = session.source.prompts →
      other.source.lines.take (index + 1) = session.source.lines.take (index + 1) →
      (other.run platform).account = report.account

/-- **A session evaluates its lines one by one up to the first at which it stops**, and nothing
after it. -/
theorem run_goesByLines (platform : Platform) (session : Session Stream) :
    GoesByLines platform session (session.run platform) := by
  have account := account_run platform session
  have code := congrArg Account.code account
  have turns := congrArg Account.turns account
  have stage := congrArg Account.stage account
  simp only [Report.account] at code turns stage
  constructor
  case cut => exact fun ended last feeds noFeed cut => Stream.lines_eq feeds noFeed cut
  case rounds =>
    intro count line given
    rw [turns]
    exact Stage.turns_play platform _ _ _ _ count given
  case final =>
    rw [stage]
    exact Stage.stage_play platform _ _ _ _
  case ended =>
    intro on
    rw [code, turns]
    exact Stage.play_of_all_on platform _ _ _ _ on
  case stopped =>
    intro index line stop given
    rw [code, turns]
    obtain ⟨length, ends⟩ := Stage.play_of_stop_at platform session.source.closing
      session.source.prompts session.opening session.source.lines stop given
    have stops := List.of_findIdx?_eq_some stop
    rw [given] at stops
    exact ⟨length, Stage.code_of_stops _ stops ends⟩
  case unread =>
    intro index stop other opening prompts same
    rw [account, account_run, opening, prompts]
    exact Stage.play_of_same_start platform _ _ _ _ _ _ stop same

end Session

end LineShell
