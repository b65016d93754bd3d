import LineShell.Proofs.Control
import LineShell.Proofs.Lockstep
import LineShell.Proofs.Names
import LineShell.Proofs.Numerals
import LineShell.Proofs.Storage

/-!
# The code that a session ends with

`exit` gives the number that the word after it denotes, if that is a numeral of 32 bits, and zero
otherwise (`Builtin.exitCode_givesCode`). The round in which it is read is the last of its session,
whatever the source is and whatever the rounds before have come to (`Session.run_of_exit`); of the
code that the session gives, the process keeps the last byte (`Command.exit_givesCode`).
-/
namespace LineShell

namespace Builtin

/-- The first of some parameters is a numeral of 32 bits. -/
def Names (parameters : List Bytes) (number : Int) : Prop :=
  ∃ text, parameters.head? = some (Utf8.encode text) ∧ Text.IsInteger text number ∧
    -(2 ^ 31) ≤ number ∧ number < 2 ^ 31

/-- The code that parameters ask for. -/
structure GivesCode (parameters : List Bytes) (code : Int) : Prop where
  numeral : ∀ number, Names parameters number → code = number
  otherwise : (∀ number, ¬ Names parameters number) → code = 0

theorem names_iff {parameters : List Bytes} {number : Int} :
    Names parameters number ↔
      (parameters.head?.bind Utf8.decode?).bind (Text.integer? 0x80000000) = some number := by
  simp only [Names, Option.bind_eq_some_iff, Utf8.decode?_eq_some_iff, Text.integer?_eq_some_iff]
  constructor
  · rintro ⟨text, first, denotes⟩
    exact ⟨text, ⟨_, first, rfl⟩, denotes⟩
  · rintro ⟨text, ⟨_, first, rfl⟩, denotes⟩
    exact ⟨text, first, denotes⟩

theorem exitCode_givesCode (parameters : List Bytes) :
    GivesCode parameters (exitCode parameters) := by
  unfold exitCode
  constructor
  case numeral =>
    intro number names
    rw [names_iff.mp names]
    rfl
  case otherwise =>
    intro nameless
    rw [Option.eq_none_iff_forall_ne_some.mpr fun number read => nameless number (names_iff.mpr read)]
    rfl

/-- A number that is written out is named. -/
theorem names_of_written {parameters : List Bytes} {number : Int} (low : -(2 ^ 31) ≤ number)
    (high : number < 2 ^ 31)
    (first : parameters.head? = some (Bytes.ofString (toString number))) :
    Names parameters number :=
  ⟨(toString number).toList, first, Text.isInteger_toString number, low, high⟩

end Builtin

/-- A session comes to the line after those that do not stop it. -/
theorem Command.getElem?_upToStop {limit : Option Nat} {earlier : List Bytes}
    (on : ∀ one ∈ earlier, stops limit one = false) (line : Bytes) (later : List Bytes) :
    (upToStop limit (earlier ++ line :: later))[earlier.length]? = some line := by
  induction earlier with
  | nil => rw [List.nil_append, upToStop_cons]; rfl
  | cons first rest ih =>
    obtain ⟨goesOn, others⟩ := List.forall_mem_cons.mp on
    rw [List.cons_append, upToStop_cons, goesOn]
    exact ih others

namespace Session

variable {σ : Type} [LineSource σ] {platform : Platform} {line : Bytes} {parameters : List Bytes}

/-- A session reads a line in one of its rounds, and has storage for its arguments. -/
def ComesTo (platform : Platform) (session : Session σ) (line : Bytes) : Prop :=
  Arguments.Suffices platform.storageLimit (words line).length ∧
    ∃ turn ∈ (session.run platform).turns, turn.answer = .ok (some line)

/-- A stream comes to a line if none of the lines before it stops the session. -/
theorem comesTo_of_lines {session : Session Stream} {earlier later : List Bytes}
    (lines : session.source.lines = earlier ++ line :: later)
    (on : ∀ one ∈ earlier, Command.stops platform.storageLimit one = false)
    (enough : Arguments.Suffices platform.storageLimit (words line).length) :
    session.ComesTo platform line := by
  have reached := Command.getElem?_upToStop on line later
  rw [← lines] at reached
  obtain ⟨shown, round⟩ := Stage.turns_play platform session.source.closing session.source.prompts
    session.opening session.source.lines earlier.length reached
  have turns := congrArg Account.turns (account_run platform session)
  rw [← turns] at round
  exact ⟨enough, _, List.mem_of_getElem? round, rfl⟩

/-- A round whose line asks for the end is the last. -/
theorem turn_of_exit {session : Session σ}
    (enough : Arguments.Suffices platform.storageLimit (words line).length)
    (asked : words line = exitName :: parameters)
    (given : (session.turn platform).1.answer = .ok (some line)) :
    (session.turn platform).2.2 = some (Builtin.exitCode parameters) := by
  obtain ⟨arguments, stored⟩ := Arguments.ofLine_eq_ok_iff.mpr enough
  have read : (session.ask platform).answer = .ok (some line) :=
    (answered_turn platform session (session.ask platform)).2.2.1.symm.trans given
  have ends : ((session.turn platform).1.stage.evaluate platform line).outcome =
      .ok (.exit (Builtin.exitCode parameters)) := by
    rw [Stage.evaluate_of_stored _ stored, Arguments.toList_of_ofLine stored, asked]
    exact Command.outcome_perform_eq_exit_iff.mpr ⟨rfl, rfl⟩
  rw [(turn_of_line read).2.2, Stage.settle, ends]
  rfl

/-- Wherever in a run the line is read, nothing comes after it. -/
theorem run_of_exit (session : Session σ)
    (enough : Arguments.Suffices platform.storageLimit (words line).length)
    (asked : words line = exitName :: parameters) {turn : Turn}
    (within : turn ∈ (session.run platform).turns) (given : turn.answer = .ok (some line)) :
    (session.run platform).turns.getLast? = some turn ∧
      (session.run platform).code = Builtin.exitCode parameters := by
  induction session using @run_induction σ _ platform with
  | halt session code halt =>
    rw [run_of_halt halt] at within ⊢
    obtain rfl := List.mem_singleton.mp within
    rw [turn_of_exit enough asked given] at halt
    exact ⟨rfl, (Option.some.inj halt).symm⟩
  | on session on ih =>
    rw [run_of_on on] at within ⊢
    obtain rfl | later := List.mem_cons.mp within
    · rw [turn_of_exit enough asked given] at on
      cases on
    · obtain ⟨last, code⟩ := ih later
      exact ⟨by rw [List.getLast?_cons, last]; rfl, code⟩

end Session

/-- The process keeps the last byte of what its session gives. -/
theorem Start.code_of_exit {start : Start} {line : Bytes} {parameters : List Bytes} {turn : Turn}
    (asked : words line = exitName :: parameters) (within : turn ∈ start.rounds)
    (given : turn.answer = .ok (some line)) (time : String) :
    ((start.run time).code : Int) = Builtin.exitCode parameters % 256 := by
  have byte (code : Int) : (exitCode code : Int) = code % 256 :=
    Int.toNat_of_nonneg (Int.emod_nonneg code (by decide))
  have enough : Arguments.Suffices start.platform.storageLimit (words line).length :=
    Arguments.suffices_none _
  unfold rounds at within
  rcases begun : start.begun with ⟨_ | session | ⟨banner, session, warnings⟩, early⟩
  · rw [begun] at within
    cases within
  · rw [begun] at within
    simp only [run, begun, resultOf, byte]
    rw [(session.run_of_exit enough asked within given).2]
  · rw [begun] at within
    simp only [run, begun, resultOf, byte]
    rw [(session.run_of_exit enough asked within given).2]

namespace Command

/-- What comes of a line that asks for the end with these parameters. -/
structure ExitGivesCode (line : Bytes) (parameters : List Bytes) : Prop where
  /-- A session ends with this line, wherever it reads it, and gives the code that is asked for. -/
  returned : ∀ {σ : Type} [LineSource σ] (platform : Platform) (session : Session σ),
    session.ComesTo platform line →
    (∃ last, (session.run platform).turns.getLast? = some last ∧ last.answer = .ok (some line)) ∧
      Builtin.GivesCode parameters (session.run platform).code
  /-- A stream comes to it where no line before it ends the session. -/
  reached : ∀ (platform : Platform) (session : Session Stream) (earlier later : List Bytes),
    session.source.lines = earlier ++ line :: later →
    (∀ one ∈ earlier, stops platform.storageLimit one = false) →
    Arguments.Suffices platform.storageLimit (words line).length → session.ComesTo platform line
  /-- The code of the process is what remains of a number by 256, which is not negative, -/
  kept : ∀ (start : Start) (time : String) (number : Int),
    (∃ turn ∈ start.rounds, turn.answer = .ok (some line)) → Builtin.Names parameters number →
    ((start.run time).code : Int) = number % 256
  /-- and zero where none is named. -/
  bare : ∀ (start : Start) (time : String),
    (∃ turn ∈ start.rounds, turn.answer = .ok (some line)) →
    (∀ number, ¬ Builtin.Names parameters number) → (start.run time).code = 0
  /-- Later parameters and all that has been before make no difference. -/
  indifferent : ∀ {σ τ : Type} [LineSource σ] [LineSource τ] (platform other : Platform)
      (session : Session σ) (otherSession : Session τ) (otherLine : Bytes) (others : List Bytes),
    session.ComesTo platform line → otherSession.ComesTo other otherLine →
    words otherLine = exitName :: others → others.head? = parameters.head? →
    (otherSession.run other).code = (session.run platform).code
  /-- A number of 32 bits that is written out is named. -/
  written : ∀ number : Int, -(2 ^ 31) ≤ number → number < 2 ^ 31 →
    parameters.head? = some (Bytes.ofString (toString number)) → Builtin.Names parameters number

/-- **A session ends with the code that is given to `exit`**, and the process with its last byte. -/
theorem exit_givesCode {line : Bytes} {parameters : List Bytes}
    (asked : words line = exitName :: parameters) : ExitGivesCode line parameters := by
  have gives := Builtin.exitCode_givesCode parameters
  constructor
  case returned =>
    rintro σ _ platform session ⟨enough, turn, within, given⟩
    obtain ⟨last, code⟩ := session.run_of_exit enough asked within given
    exact ⟨⟨turn, last, given⟩, code ▸ gives⟩
  case reached =>
    intro platform session earlier later lines on enough
    exact Session.comesTo_of_lines lines on enough
  case kept =>
    rintro start time number ⟨turn, within, given⟩ names
    rw [Start.code_of_exit asked within given, gives.numeral number names]
  case bare =>
    rintro start time ⟨turn, within, given⟩ nameless
    have code := Start.code_of_exit asked within given time
    rw [gives.otherwise nameless] at code
    exact Int.ofNat_eq_zero.mp code
  case indifferent =>
    rintro σ τ _ _ platform other session otherSession otherLine others
      ⟨enough, turn, within, given⟩ ⟨otherEnough, otherTurn, otherWithin, otherGiven⟩ otherAsked
      same
    have code := (session.run_of_exit enough asked within given).2
    have otherCode :=
      (otherSession.run_of_exit otherEnough otherAsked otherWithin otherGiven).2
    rw [code, otherCode, Builtin.exitCode, Builtin.exitCode, same]
  case written => exact fun number => Builtin.names_of_written

/-- The least number of 32 bits, and one word more. -/
theorem exit_givesCode_least :
    let line := Bytes.ofString "exit -2147483648 7\n"
    let parameters := [Bytes.ofString "-2147483648", Bytes.ofString "7"]
    words line = exitName :: parameters ∧ ExitGivesCode line parameters := by
  intro line parameters
  have asked : words line = exitName :: parameters := by decide
  exact ⟨asked, exit_givesCode asked⟩

end Command

end LineShell
