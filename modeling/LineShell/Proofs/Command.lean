import LineShell.Command

/-!
# What comes of a command line

Each way of performing an argument list, with all that comes of it, is one case of `Course`, and
every performance takes one of them (`perform_course`). What holds of all command lines is read off
the cases. The areas of the faults tell apart what went wrong: only storage is fatal, and only a
builtin can fail to write.
-/
namespace LineShell

theorem bind_eq_error {ε α β : Type} {value : Except ε α} {next : α → Except ε β} {fault : ε} :
    value >>= next = .error fault ↔
      value = .error fault ∨ ∃ result, value = .ok result ∧ next result = .error fault := by
  cases value <;> simp [bind, Except.bind]

theorem bind_eq_ok {ε α β : Type} {value : Except ε α} {next : α → Except ε β} {result : β} :
    value >>= next = .ok result ↔ ∃ first, value = .ok first ∧ next first = .ok result := by
  cases value <;> simp [bind, Except.bind]

section Fold

variable {ε α β : Type} {step : β → α → Except ε β} {items : List α} {first last : β} {fault : ε}

/-- What every step keeps is kept by a fold, -/
theorem foldlM_keeps (Holds : β → Prop)
    (keeps : ∀ {before item after}, Holds before → step before item = .ok after → Holds after)
    (start : Holds first) (folded : items.foldlM step first = .ok last) : Holds last := by
  induction items generalizing first with
  | nil =>
    cases folded
    exact start
  | cons item rest ih =>
    rw [List.foldlM_cons] at folded
    obtain ⟨next, stepped, later⟩ := bind_eq_ok.mp folded
    exact ih (keeps start stepped) later

/-- and it still holds where a step fails the fold. -/
theorem foldlM_fails (Holds : β → Prop)
    (keeps : ∀ {before item after}, Holds before → step before item = .ok after → Holds after)
    (start : Holds first) (failed : items.foldlM step first = .error fault) :
    ∃ before item, Holds before ∧ step before item = .error fault := by
  induction items generalizing first with
  | nil => cases failed
  | cons item rest ih =>
    rw [List.foldlM_cons] at failed
    rcases bind_eq_error.mp failed with stepped | ⟨next, stepped, later⟩
    · exact ⟨first, item, start, stepped⟩
    · exact ih (keeps start stepped) later

end Fold

/-- The word that ends a session. -/
def exitName : Bytes := Bytes.ofString "exit"

namespace Builtin

theorem find?_eq_some_iff {name : Bytes} {command : Builtin} :
    find? name = some command ↔ name = Bytes.ofString command.name := by
  constructor
  · intro found
    exact (eq_of_beq (List.find?_some found :)).symm
  · rintro rfl
    exact find?_name command

end Builtin

namespace Action

@[simp] theorem ofArguments_eq_nothing_iff {arguments : List Bytes} :
    ofArguments arguments = .nothing ↔ arguments = [] := by
  cases arguments with
  | nil => simp [ofArguments]
  | cons name parameters =>
    simp only [ofArguments, reduceCtorEq, iff_false]
    split
    · simp
    · split <;> simp

/-- The end of a session is asked for by its exact name alone. -/
theorem ofArguments_eq_exit_iff {arguments : List Bytes} :
    ofArguments arguments = .builtin .exit ↔ arguments.head? = some exitName := by
  cases arguments with
  | nil => simp [ofArguments]
  | cons name parameters =>
    have other : exitName ≠ changeDirectoryName := by decide
    have found : Builtin.find? name = some .exit ↔ name = exitName := Builtin.find?_eq_some_iff
    simp only [ofArguments, List.head?_cons, Option.some.injEq, ← found]
    split
    · next same =>
      simp only [reduceCtorEq, false_iff, found]
      exact fun asked => other (asked.symm.trans same)
    · split <;> simp [*]

end Action

namespace Arguments

theorem reserve_error {limit : Option Nat} {capacity : Nat} {fault : Fault}
    (refused : reserve limit capacity = .error fault) :
    fault = { cause := .storageExhausted capacity } := by
  unfold reserve at refused
  split at refused
  · cases refused
  · exact (Except.error.inj refused).symm

theorem push_error {limit : Option Nat} {arguments : Arguments} {token : Bytes} {fault : Fault}
    (refused : arguments.push limit token = .error fault) :
    ∃ requested, fault = { cause := .storageExhausted requested } := by
  unfold push at refused
  split at refused
  · cases refused
  · obtain reserved | ⟨_, _, pushed⟩ := bind_eq_error.mp refused
    · exact ⟨_, reserve_error reserved⟩
    · cases pushed

/-- Nothing but storage can fail a line before it is performed. -/
theorem ofLine_error {limit : Option Nat} {line : Bytes} {fault : Fault}
    (refused : ofLine limit line = .error fault) :
    ∃ requested, fault = { cause := .storageExhausted requested } := by
  obtain reserved | ⟨_, _, folded⟩ := bind_eq_error.mp refused
  · exact ⟨_, reserve_error reserved⟩
  · obtain ⟨_, _, _, pushed⟩ := foldlM_fails (fun _ => True) (fun _ _ => trivial) trivial folded
    exact push_error pushed

end Arguments

namespace World

theorem home_error {world : World} {fault : Fault} (unset : world.home = .error fault) :
    fault.cause.area = .state := by
  unfold home Option.orFault at unset
  split at unset
  · cases unset
  · exact Except.error.inj unset ▸ rfl

theorem destination_error {world : World} {target : Option Bytes} {fault : Fault}
    (lost : world.destination target = .error fault) : fault.cause.area = .state := by
  cases target with
  | none => exact home_error lost
  | some path =>
    simp only [destination] at lost
    split at lost
    · obtain unset | ⟨_, _, expanded⟩ := bind_eq_error.mp lost
      · exact home_error unset
      · cases expanded
    · cases lost

/-- A directory that is not entered is a matter of the state or of the path. -/
theorem changeDirectory_error {world : World} {target : Option Bytes} {fault : Fault}
    (refused : world.changeDirectory target = .error fault) :
    fault.cause.area = .state ∨ fault.cause.area = .path := by
  obtain lost | ⟨path, _, entered⟩ := bind_eq_error.mp refused
  · exact .inl (destination_error lost)
  · split at entered
    · cases entered
    · exact .inr (Except.error.inj entered ▸ rfl)

end World

/-- A program that is not started is a matter of executables. -/
theorem Program.invocation_error {world : World} {arguments : List Bytes} {fault : Fault}
    (failed : invocation world arguments = .error fault) : fault.cause.area = .executable := by
  have executable (name : Bytes) (refusal : Refusal) :
      (faultOf name refusal).cause.area = .executable := by
    cases refusal <;> rfl
  simp only [invocation] at failed
  split at failed
  · exact Except.error.inj failed ▸ executable _ _
  · split at failed
    · exact Except.error.inj failed ▸ executable _ _
    · cases failed

namespace Command

variable {programs : Programs} {limit : Option Nat} {world : World} {writer : Writer}

/-- The ways to perform an argument list. -/
inductive Course (programs : Programs) (world : World) (writer : Writer) (arguments : List Bytes) :
    Evaluated → Prop where
  | nothing (blank : arguments = []) :
      Course programs world writer arguments ⟨.ok .nothing, world, writer, []⟩
  | moved {target : Option Bytes} {next : World}
      (asked : Action.ofArguments arguments = .changeDirectory target)
      (entered : world.changeDirectory target = .ok next) :
      Course programs world writer arguments ⟨.ok (.completed .success), next, writer, []⟩
  | stayed {target : Option Bytes} {fault : Fault}
      (asked : Action.ofArguments arguments = .changeDirectory target)
      (refused : world.changeDirectory target = .error fault) :
      Course programs world writer arguments ⟨.error fault, world, writer, []⟩
  | ended (asked : Action.ofArguments arguments = .builtin .exit) :
      Course programs world writer arguments
        ⟨.ok (.exit (Builtin.exitCode arguments.tail)), world, writer, []⟩
  | wrote {command : Builtin} {written : Written}
      (asked : Action.ofArguments arguments = .builtin command) (writes : command ≠ .exit)
      (output : written =
        writer.writeEach (command.output world.environment arguments.tail))
      (whole : written.whole = true) (passed : written.writer.flush.1 = true) :
      Course programs world writer arguments
        ⟨.ok (.completed .success), world, written.writer.flush.2,
          Printed.of .builtin written.taken⟩
  | unwritten {command : Builtin} {written : Written}
      (asked : Action.ofArguments arguments = .builtin command) (writes : command ≠ .exit)
      (output : written =
        writer.writeEach (command.output world.environment arguments.tail))
      (lost : written.whole = false ∨ written.writer.flush.1 = false) :
      Course programs world writer arguments
        ⟨.error { cause := .outputNotWritten command.name }, world,
          if written.whole then written.writer.flush.2 else written.writer,
          Printed.of .builtin written.taken⟩
  | ran {invocation : Invocation} {finish : Finish}
      (asked : Action.ofArguments arguments = .program)
      (started : Program.invocation world arguments = .ok invocation)
      (ended : finish = programs invocation world.files) :
      Course programs world writer arguments
        ⟨.ok (.completed (.ofWait finish.wait)),
          { world with files := finish.files, input := world.input.drop finish.used },
          writer.flush.2, finish.printed⟩
  | unstarted {fault : Fault}
      (asked : Action.ofArguments arguments = .program)
      (failed : Program.invocation world arguments = .error fault) :
      Course programs world writer arguments ⟨.error fault, world, writer.flush.2, []⟩

/-- Every argument list is performed in one of these ways. -/
theorem perform_course (programs : Programs) (world : World) (writer : Writer)
    (arguments : List Bytes) :
    Course programs world writer arguments (perform programs world writer arguments) := by
  cases asked : Action.ofArguments arguments with
  | nothing =>
    simp only [perform, asked]
    exact .nothing (Action.ofArguments_eq_nothing_iff.mp asked)
  | changeDirectory target =>
    simp only [perform, asked]
    split
    · next next entered => exact .moved asked entered
    · next fault refused => exact .stayed asked refused
  | builtin command =>
    simp only [perform, asked]
    cases command with
    | exit => exact .ended asked
    | echo | env =>
      simp only [Builtin.run]
      generalize output : writer.writeEach _ = written
      cases whole : written.whole with
      | false =>
        have course : Course programs world writer arguments _ :=
          .unwritten asked (by decide) output.symm (.inl whole)
        simpa [whole] using course
      | true =>
        cases passed : written.writer.flush.1 with
        | false =>
          have course : Course programs world writer arguments _ :=
            .unwritten asked (by decide) output.symm (.inr passed)
          simpa [whole, passed] using course
        | true =>
          have course : Course programs world writer arguments _ :=
            .wrote asked (by decide) output.symm whole passed
          simpa [whole, passed] using course
  | program =>
    simp only [perform, asked, Program.launch]
    cases started : Program.invocation world arguments with
    | error fault => exact .unstarted asked started
    | ok invocation => exact .ran asked started rfl

/-- A line that finds no storage is not performed at all. -/
theorem evaluate_of_refused {line : Bytes} {fault : Fault}
    (refused : Arguments.ofLine limit line = .error fault) :
    evaluate programs limit world writer line = ⟨.error fault, world, writer, []⟩ := by
  simp only [evaluate, refused]

/-- A line that finds storage is performed as its words. -/
theorem evaluate_of_stored {line : Bytes} {arguments : Arguments}
    (stored : Arguments.ofLine limit line = .ok arguments) :
    evaluate programs limit world writer line = perform programs world writer (words line) := by
  simp only [evaluate, stored, Arguments.toList_of_ofLine stored]

/-- Where there is no input, no program leaves any. -/
theorem input_evaluate (line : Bytes) (none : world.input = {}) :
    (evaluate programs limit world writer line).world.input = {} := by
  cases stored : Arguments.ofLine limit line with
  | error fault => rw [evaluate_of_refused stored, none]
  | ok arguments =>
    rw [evaluate_of_stored stored]
    have course := perform_course programs world writer (words line)
    generalize perform programs world writer (words line) = evaluated at course
    cases course with
    | nothing | stayed | ended | wrote | unwritten | unstarted => exact none
    | moved _ entered => exact (World.changeDirectory_keeps entered).2.2.trans none
    | ran => simp [none, Supply.drop]

/-- No line touches the variables. -/
theorem environment_evaluate (line : Bytes) :
    (evaluate programs limit world writer line).world.environment = world.environment := by
  cases stored : Arguments.ofLine limit line with
  | error fault => rw [evaluate_of_refused stored]
  | ok arguments =>
    rw [evaluate_of_stored stored]
    have course := perform_course programs world writer (words line)
    generalize perform programs world writer (words line) = evaluated at course
    cases course with
    | moved _ entered => exact (World.changeDirectory_keeps entered).2.1
    | nothing | stayed | ended | wrote | unwritten | ran | unstarted => rfl

/-- No fault of a performance is fatal. -/
theorem isFatal_of_perform {arguments : List Bytes} {fault : Fault}
    (failed : (perform programs world writer arguments).outcome = .error fault) :
    fault.isFatal = false := by
  have course := perform_course programs world writer arguments
  generalize perform programs world writer arguments = evaluated at course failed
  cases course with
  | nothing | moved | ended | wrote | ran => cases failed
  | stayed _ refused =>
    cases failed
    obtain state | path := World.changeDirectory_error refused
    · simp [Fault.isFatal, state]
    · simp [Fault.isFatal, path]
  | unwritten => cases failed; rfl
  | unstarted _ unknown =>
    cases failed
    simp [Fault.isFatal, Program.invocation_error unknown]

/-- The session is to end where its exact name stands first, and nowhere else. -/
theorem outcome_perform_eq_exit_iff {arguments : List Bytes} {code : Int} :
    (perform programs world writer arguments).outcome = .ok (.exit code) ↔
      arguments.head? = some exitName ∧ code = Builtin.exitCode arguments.tail := by
  have course := perform_course programs world writer arguments
  generalize perform programs world writer arguments = evaluated at course
  rw [← Action.ofArguments_eq_exit_iff]
  cases course with
  | nothing blank => simp [blank, Action.ofArguments]
  | moved asked | stayed asked | ran asked | unstarted asked => simp [asked]
  | wrote asked writes | unwritten asked writes => simp [asked, writes]
  | ended asked => simp [asked, eq_comm]

end Command

end LineShell
