import LineShell.Proofs.Command
import LineShell.Session

/-!
# A line that fails has done nothing

Whatever fails a command line does so before anything is changed. The one trace that a failure may
leave is output that a builtin could not write whole.
-/
namespace LineShell

namespace Command

/-- What stays after a line that has failed with a fault. -/
structure Undone (programs : Programs) (limit : Option Nat) (world : World) (writer : Writer)
    (line : Bytes) (fault : Fault) : Prop where
  /-- The files, the working directory, the variables and the input are those of before. -/
  standing : (evaluate programs limit world writer line).world = world
  /-- The shell keeps its user and its settings, and only the session notes a status. -/
  kept : ∀ shell : Shell,
    (Session.settle shell (evaluate programs limit world writer line).outcome).1 =
      { shell with status := if fault.isFatal then shell.status else fault.status }
  /-- No program has run: whatever programs do, the line comes to the same. -/
  idle : ∀ others : Programs,
    evaluate others limit world writer line = evaluate programs limit world writer line
  /-- A builtin has written a first piece of its output. -/
  cut : ∀ name, fault.cause = .outputNotWritten name →
    ∃ command : Builtin, Action.ofArguments (words line) = .builtin command ∧
      name = command.name ∧
      ∃ taken, (evaluate programs limit world writer line).printed = Printed.of .builtin taken ∧
        taken <+: (command.output world.environment (words line).tail).flatten
  /-- Any other failure writes nothing, and at most passes on what was written before. -/
  silent : (∀ name, fault.cause ≠ .outputNotWritten name) →
    (evaluate programs limit world writer line).printed = [] ∧
      ((evaluate programs limit world writer line).writer = writer ∨
        (evaluate programs limit world writer line).writer = writer.flush.2)
  /-- A failure is fatal for want of storage alone, -/
  fatal : fault.isFatal = true ↔ ∃ reason, Arguments.ofLine limit line = .error reason
  /-- and then nothing has been asked for at all. -/
  unasked : fault.isFatal = true →
    evaluate programs limit world writer line = ⟨.error fault, world, writer, []⟩

variable {programs : Programs} {limit : Option Nat} {world : World} {writer : Writer}

/-- A performance that fails does so whatever programs do. -/
theorem perform_of_failed {arguments : List Bytes} {fault : Fault}
    (failed : (perform programs world writer arguments).outcome = .error fault)
    (others : Programs) :
    perform others world writer arguments = perform programs world writer arguments := by
  cases asked : Action.ofArguments arguments with
  | nothing | changeDirectory _ | builtin _ => simp only [perform, asked]
  | program =>
    simp only [perform, asked, Program.launch] at failed ⊢
    cases started : Program.invocation world arguments with
    | error fault => rfl
    | ok invocation => simp [started, Except.map] at failed

/-- The world of a performance that fails is the one it began in. -/
theorem world_of_failed {arguments : List Bytes} {fault : Fault}
    (failed : (perform programs world writer arguments).outcome = .error fault) :
    (perform programs world writer arguments).world = world := by
  have course := perform_course programs world writer arguments
  generalize perform programs world writer arguments = evaluated at course failed
  cases course with
  | nothing | moved | ended | wrote | ran => cases failed
  | stayed | unwritten | unstarted => rfl

/-- Only the areas of directories and of executables fail in silence. -/
theorem printed_of_failed {arguments : List Bytes} {fault : Fault}
    (failed : (perform programs world writer arguments).outcome = .error fault)
    (other : ∀ name, fault.cause ≠ .outputNotWritten name) :
    (perform programs world writer arguments).printed = [] ∧
      ((perform programs world writer arguments).writer = writer ∨
        (perform programs world writer arguments).writer = writer.flush.2) := by
  have course := perform_course programs world writer arguments
  generalize perform programs world writer arguments = evaluated at course failed
  cases course with
  | nothing | moved | ended | wrote | ran => cases failed
  | stayed => exact ⟨rfl, .inl rfl⟩
  | unwritten => cases failed; exact absurd rfl (other _)
  | unstarted => exact ⟨rfl, .inr rfl⟩

/-- What a builtin has written before it fails begins its output. -/
theorem taken_of_failed {arguments : List Bytes} {fault : Fault} {name : String}
    (failed : (perform programs world writer arguments).outcome = .error fault)
    (unwritten : fault.cause = .outputNotWritten name) :
    ∃ command : Builtin, Action.ofArguments arguments = .builtin command ∧ name = command.name ∧
      ∃ taken, (perform programs world writer arguments).printed = Printed.of .builtin taken ∧
        taken <+: (command.output world.environment arguments.tail).flatten := by
  have area : fault.cause.area = .builtin := by rw [unwritten]; rfl
  have course := perform_course programs world writer arguments
  generalize perform programs world writer arguments = evaluated at course failed
  cases course with
  | nothing | moved | ended | wrote | ran => cases failed
  | stayed _ refused =>
    cases failed
    obtain state | path := World.changeDirectory_error refused
    · simp [state] at area
    · simp [path] at area
  | unwritten asked _ output =>
    cases failed
    cases unwritten
    exact ⟨_, asked, rfl, _, rfl, output ▸ Writer.taken_writeEach_isPrefix ..⟩
  | unstarted _ unknown =>
    cases failed
    simp [Program.invocation_error unknown] at area

/-- **A line that fails has done nothing**, but for output that could not be written whole. -/
theorem undone_of_failed {line : Bytes} {fault : Fault}
    (failed : (evaluate programs limit world writer line).outcome = .error fault) :
    Undone programs limit world writer line fault := by
  have noted (shell : Shell) :
      (Session.settle shell (evaluate programs limit world writer line).outcome).1 =
        { shell with status := if fault.isFatal then shell.status else fault.status } := by
    rw [failed]
    simp only [Session.settle]
    split <;> rfl
  cases stored : Arguments.ofLine limit line with
  | error reason =>
    have bare : evaluate programs limit world writer line = ⟨.error reason, world, writer, []⟩ :=
      evaluate_of_refused stored
    obtain rfl : reason = fault := by simpa [bare] using failed
    obtain ⟨requested, storage⟩ := Arguments.ofLine_error stored
    have fatal : reason.isFatal = true := (Fault.isFatal_iff _).mpr ⟨requested, storage ▸ rfl⟩
    exact
      { standing := by rw [bare]
        kept := noted
        idle := fun others => by rw [bare]; exact evaluate_of_refused stored
        cut := fun name unwritten => by simp [storage] at unwritten
        silent := fun _ => by simp [bare]
        fatal := by simp [fatal, stored]
        unasked := fun _ => bare }
  | ok arguments =>
    have performed (any : Programs) :
        evaluate any limit world writer line = perform any world writer (words line) :=
      evaluate_of_stored stored
    rw [performed] at failed
    have lasting := isFatal_of_perform failed
    exact
      { standing := by rw [performed]; exact world_of_failed failed
        kept := noted
        idle := fun others => by rw [performed, performed]; exact perform_of_failed failed others
        cut := fun name unwritten => by rw [performed]; exact taken_of_failed failed unwritten
        silent := fun other => by rw [performed]; exact printed_of_failed failed other
        fatal := by simp [lasting, stored]
        unasked := fun fatal => by simp [lasting] at fatal }

/-- An output that is cut in the middle, as an instance. -/
theorem undone_of_failed_cut :
    let programs : Programs := fun _ files => ⟨0, files, [], 0⟩
    let world : World := ⟨.bare, Files.root, ⟨[]⟩, {}⟩
    let line := Bytes.ofString "echo hello\n"
    let fault : Fault := { cause := .outputNotWritten "echo" }
    (evaluate programs none world { room := some 3 } line).outcome = .error fault ∧
      Undone programs none world { room := some 3 } line fault :=
  ⟨rfl, undone_of_failed rfl⟩

end Command

end LineShell
