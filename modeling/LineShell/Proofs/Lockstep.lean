import LineShell.Proofs.Stage
import Mathlib.Data.List.Forall2

/-!
# Sessions that keep step

Two sessions keep step if each round of one goes with a round of the other: the rounds are alike,
both sessions go on or end with the same code, and they meet again in states that belong together.
Such sessions are in step from their first round to their last (`InStep.run`). Their sources may be
of different kinds.
-/
namespace LineShell

/-- The faults of a line that are reported: a fatal one in any case, and any other if errors are
shown. -/
def Shell.reports (shell : Shell) : Except Fault Outcome → List Fault
  | .ok _ => []
  | .error fault => if fault.isFatal || shell.settings.showErrors then [fault] else []

namespace Turn

variable (platform : Platform) (turn : Turn)

/-- What came of the line of a round, if it had one. -/
def evaluated? : Option Evaluated :=
  match turn.answer with
  | .ok (some line) => some (turn.stage.evaluate platform line)
  | _ => none

/-- What a builtin or a program has printed in a round. -/
def performed : List Printed := ((turn.evaluated? platform).map (·.printed)).getD []

/-- The faults that a round reports. One of the source is reported in any case. -/
def reported : List Fault :=
  match turn.answer with
  | .error fault => [fault]
  | .ok none => []
  | .ok (some line) => turn.shell.reports (turn.stage.evaluate platform line).outcome

/-- The line in which a fault is reported. -/
def faultLine (fault : Fault) : Bytes := Bytes.ofString ("mish: " ++ fault.message ++ "\n")

/-- What a round says of the faults that it reports. -/
def diagnostics : List Printed :=
  (turn.reported platform).map fun fault => ⟨.diagnostic, faultLine fault⟩

/-- All that a round prints: a first piece of its prompt, then what its line does, and what is
reported at the end. -/
def PrintsInOrder : Prop :=
  ∃ shown, shown <+: Bytes.ofString turn.prompt ∧
    turn.printed = Printed.of .prompt shown ++ (turn.performed platform ++ turn.diagnostics platform)

/-- What a round puts on the error stream: what a program says there, and the lines of the faults
that are reported. -/
def Complains : Prop :=
  Printed.errors turn.printed =
    Printed.errors (turn.performed platform) ++ (turn.reported platform).flatMap faultLine

/-- Reported faults stand on the error stream line by line. -/
theorem errors_faultLines (faults : List Fault) :
    Printed.errors (faults.map fun fault => ⟨.diagnostic, faultLine fault⟩) =
      faults.flatMap faultLine := by
  induction faults with
  | nil => rfl
  | cons fault rest ih => exact congrArg (faultLine fault ++ ·) ih

/-- A round that prints in order shows no more than that on the error stream. -/
theorem PrintsInOrder.complains {platform : Platform} {turn : Turn}
    (inOrder : turn.PrintsInOrder platform) : turn.Complains platform := by
  obtain ⟨shown, _, printed⟩ := inOrder
  have prompt : Printed.errors (Printed.of .prompt shown) = [] := Printed.select_of_other rfl _
  calc Printed.errors turn.printed
      = Printed.errors (Printed.of .prompt shown) ++ (Printed.errors (turn.performed platform) ++
          Printed.errors (turn.diagnostics platform)) := by
        rw [printed]
        simp only [Printed.errors, Printed.select_append]
    _ = Printed.errors (turn.performed platform) ++
          (turn.reported platform).flatMap faultLine := by
        rw [prompt, List.nil_append, diagnostics, errors_faultLines]

end Turn

namespace Session

section Answered

variable {σ : Type} [LineSource σ] (platform : Platform) (session : Session σ) {reading : Reading σ}

/-- The stage that a reading leaves. -/
def meeting (session : Session σ) (reading : Reading σ) : Stage :=
  { session.stage with
    world := { session.world with
      files := reading.files, input := LineSource.supply reading.source } }

theorem turn_eq : session.turn platform = session.answered platform (session.ask platform) := rfl

/-- What stands in a round before anything is done in it. -/
theorem answered_turn (reading : Reading σ) :
    (session.answered platform reading).1.stage = session.meeting reading ∧
      (session.answered platform reading).1.prompt = session.stage.prompt platform ∧
      (session.answered platform reading).1.answer = reading.answer ∧
      (session.answered platform reading).1.warnings = reading.warnings := by
  unfold answered
  split <;> exact ⟨rfl, rfl, rfl, rfl⟩

/-- A round without a line is the last and leaves everything as it is. -/
theorem answered_of_end (given : ∀ line, reading.answer ≠ .ok (some line)) :
    (session.answered platform reading).2.1.stage = session.meeting reading ∧
      (session.answered platform reading).2.1.source = reading.source ∧
      (session.answered platform reading).2.2 = some 0 := by
  unfold answered
  split
  · exact ⟨rfl, rfl, rfl⟩
  · exact ⟨rfl, rfl, rfl⟩
  · next line answer => exact absurd answer (given line)

/-- A round with a line leaves what its line does. -/
theorem answered_of_line {line : Bytes} (given : reading.answer = .ok (some line)) :
    (session.answered platform reading).2.1.stage = (session.meeting reading).next platform line ∧
      (session.answered platform reading).2.1.source =
        LineSource.restock reading.source
          ((session.meeting reading).evaluate platform line).world.input ∧
      (session.answered platform reading).2.2 =
        ((session.meeting reading).settle platform line).2.2 := by
  unfold answered
  rw [given]
  exact ⟨rfl, rfl, rfl⟩

/-- Faults are reported as the settings say, and the fatal ones always. -/
theorem reported_of_settle (shell : Shell) (outcome : Except Fault Outcome) :
    (settle shell outcome).2.1 =
      (shell.reports outcome).map fun fault => ⟨.diagnostic, Turn.faultLine fault⟩ := by
  cases outcome with
  | ok came => cases came <;> rfl
  | error fault =>
    simp only [settle, Shell.reports]
    cases fault.isFatal <;> cases shell.settings.showErrors <;> rfl

/-- A round prints in order if its source has printed no more than the prompt. -/
theorem printsInOrder_answered {shown : Bytes}
    (begins : shown <+: Bytes.ofString (session.stage.prompt platform))
    (printed : reading.printed = Printed.of .prompt shown) :
    (session.answered platform reading).1.PrintsInOrder platform := by
  cases answer : reading.answer with
  | error fault =>
    simp only [answered, answer, printed]
    exact ⟨shown, begins, rfl⟩
  | ok given =>
    cases given with
    | none =>
      simp only [answered, answer, printed]
      exact ⟨shown, begins, rfl⟩
    | some line =>
      simp only [answered, answer, printed, reported_of_settle]
      exact ⟨shown, begins, rfl⟩

end Answered

/-- So does every round over a stream. -/
theorem printsInOrder_turn (platform : Platform) (session : Session Stream) :
    (session.turn platform).1.PrintsInOrder platform :=
  printsInOrder_answered platform session (Writer.taken_write_isPrefix ..) rfl

variable {σ τ : Type} [LineSource σ] [LineSource τ]

/-- Two states that go one round together: alike rounds, one code, and states that belong together
again. -/
structure GoTogether (platform : Platform) (together : Session σ → Session τ → Prop)
    (alike : Turn → Turn → Prop) (session : Session σ) (other : Session τ) : Prop where
  turn : alike (session.turn platform).1 (other.turn platform).1
  next : together (session.turn platform).2.1 (other.turn platform).2.1
  code : (other.turn platform).2.2 = (session.turn platform).2.2

/-- Two states that read along go one round together. Either both have read a line, and the stages
these leave belong together and end the sessions or not alike, or neither has; and programs leave
both sources as they are. -/
theorem GoTogether.of_asked {platform : Platform} {together : Session σ → Session τ → Prop}
    {alike : Turn → Turn → Prop} {session : Session σ} {other : Session τ}
    {stages : Stage → Stage → Prop}
    (turn : alike (session.turn platform).1 (other.turn platform).1)
    (met : stages (session.meeting (session.ask platform)) (other.meeting (other.ask platform)))
    (lines : ∀ line, (session.ask platform).answer = .ok (some line) →
      ∃ spelled, (other.ask platform).answer = .ok (some spelled) ∧
        stages ((session.meeting (session.ask platform)).next platform line)
          ((other.meeting (other.ask platform)).next platform spelled) ∧
        ((other.meeting (other.ask platform)).settle platform spelled).2.2 =
          ((session.meeting (session.ask platform)).settle platform line).2.2)
    (ends : ∀ spelled, (other.ask platform).answer = .ok (some spelled) →
      ∃ line, (session.ask platform).answer = .ok (some line))
    (still : ∀ left, LineSource.restock (session.ask platform).source left =
      (session.ask platform).source)
    (otherStill : ∀ left, LineSource.restock (other.ask platform).source left =
      (other.ask platform).source)
    (again : ∀ {next : Session σ} {otherNext : Session τ}, stages next.stage otherNext.stage →
      next.source = (session.ask platform).source →
      otherNext.source = (other.ask platform).source → together next otherNext) :
    GoTogether platform together alike session other := by
  by_cases line : ∃ line, (session.ask platform).answer = .ok (some line)
  · obtain ⟨line, given⟩ := line
    obtain ⟨spelled, otherGiven, later, codes⟩ := lines line given
    obtain ⟨next, source, code⟩ := answered_of_line platform session given
    obtain ⟨otherNext, otherSource, otherCode⟩ := answered_of_line platform other otherGiven
    rw [still] at source
    rw [otherStill] at otherSource
    rw [← next, ← otherNext] at later
    exact
      { turn
        next := again later source otherSource
        code := otherCode.trans (codes.trans code.symm) }
  · have none := not_exists.mp line
    have otherNone := fun spelled given => line (ends spelled given)
    obtain ⟨next, source, code⟩ := answered_of_end platform session none
    obtain ⟨otherNext, otherSource, otherCode⟩ := answered_of_end platform other otherNone
    rw [← next, ← otherNext] at met
    exact
      { turn
        next := again met source otherSource
        code := otherCode.trans code.symm }

/-- Two reports of as many rounds, which are alike one by one, with the same code and with last
states that belong together. -/
structure InStep (together : Session σ → Session τ → Prop) (alike : Turn → Turn → Prop)
    (report : Report σ) (other : Report τ) : Prop where
  code : other.code = report.code
  turns : List.Forall₂ alike report.turns other.turns
  final : together report.final other.final

/-- Sessions that go one round together as long as the rounds of the first have a property are in
step to their end, if all these rounds have it. -/
theorem InStep.run_along {platform : Platform} {together : Session σ → Session τ → Prop}
    {alike : Turn → Turn → Prop} {kind : Turn → Prop}
    (step : ∀ {session other}, together session other → kind (session.turn platform).1 →
      GoTogether platform together alike session other)
    {session : Session σ} {other : Session τ} (met : together session other)
    (all : ∀ turn ∈ (session.run platform).turns, kind turn) :
    InStep together alike (session.run platform) (other.run platform) := by
  induction session using @run_induction σ _ platform generalizing other with
  | halt session code halt =>
    rw [run_of_halt halt] at all ⊢
    have round := step met (all _ List.mem_cons_self)
    rw [run_of_halt (round.code.trans halt)]
    exact { code := rfl, turns := .cons round.turn .nil, final := round.next }
  | on session on ih =>
    rw [run_of_on on] at all ⊢
    have round := step met (all _ List.mem_cons_self)
    have later := ih round.next fun turn within => all turn (List.mem_cons_of_mem _ within)
    rw [run_of_on (round.code.trans on)]
    exact { code := later.code, turns := .cons round.turn later.turns, final := later.final }

/-- Sessions that always go one round together are in step to their end. -/
theorem InStep.run {platform : Platform} {together : Session σ → Session τ → Prop}
    {alike : Turn → Turn → Prop}
    (step : ∀ {session other}, together session other →
      GoTogether platform together alike session other)
    {session : Session σ} {other : Session τ} (met : together session other) :
    InStep together alike (session.run platform) (other.run platform) :=
  run_along (fun met (_ : True) => step met) met fun _ _ => trivial

end Session

end LineShell
