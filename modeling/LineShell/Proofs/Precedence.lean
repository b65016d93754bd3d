import LineShell.Proofs.Layout

/-!
# Names that cannot be overridden

The first word of a line decides what the line asks for: another directory and the builtins go
before all programs, by their exact names. A line that asks for no program is evaluated without
looking at one, so neither files nor the search path can put another command in its place.
-/
namespace LineShell

/-- Only gaps have no words. -/
theorem words_eq_nil_iff {line : Bytes} : words line = [] ↔ IsGap line := by
  constructor
  · intro wordless
    obtain ⟨layout, rfl⟩ := Layout.exists_line_eq line
    have none : layout.items = [] := by
      simpa [Layout.words_line, Layout.words] using wordless
    simpa [Layout.line, none, spelled] using layout.isGap
  · intro blank
    simpa using words_gap_append blank []

namespace Action

variable {arguments : List Bytes}

theorem ofArguments_eq_changeDirectory_iff {target : Option Bytes} :
    ofArguments arguments = .changeDirectory target ↔
      arguments.head? = some changeDirectoryName ∧ target = arguments[1]? := by
  cases arguments with
  | nil => simp [ofArguments]
  | cons name parameters =>
    simp only [ofArguments, List.head?_cons, Option.some.injEq]
    split
    · next same => simp [same, List.head?_eq_getElem?, eq_comm]
    · next other => split <;> simp [other]

theorem ofArguments_eq_builtin_iff {command : Builtin} :
    ofArguments arguments = .builtin command ↔
      arguments.head? = some (Bytes.ofString command.name) := by
  cases arguments with
  | nil => simp [ofArguments]
  | cons name parameters =>
    have other : Bytes.ofString command.name ≠ changeDirectoryName := by cases command <;> decide
    simp only [ofArguments, List.head?_cons, Option.some.injEq, ← Builtin.find?_eq_some_iff]
    split
    · next same =>
      simp only [reduceCtorEq, false_iff, Builtin.find?_eq_some_iff]
      exact fun asked => other (asked.symm.trans same)
    · split <;> simp [*]

/-- A program is asked for by every other name. -/
theorem ofArguments_eq_program_iff :
    ofArguments arguments = .program ↔
      arguments ≠ [] ∧ arguments.head? ≠ some changeDirectoryName ∧
        ∀ command : Builtin, arguments.head? ≠ some (Bytes.ofString command.name) := by
  constructor
  · intro asked
    refine ⟨?_, fun same => ?_, fun command same => ?_⟩
    · rintro rfl
      cases asked
    · simp [ofArguments_eq_changeDirectory_iff.mpr ⟨same, rfl⟩] at asked
    · simp [ofArguments_eq_builtin_iff.mpr same] at asked
  · rintro ⟨some, noDirectory, noBuiltin⟩
    cases asked : ofArguments arguments with
    | nothing => exact absurd (ofArguments_eq_nothing_iff.mp asked) some
    | changeDirectory target =>
      exact absurd (ofArguments_eq_changeDirectory_iff.mp asked).1 noDirectory
    | builtin command => exact absurd (ofArguments_eq_builtin_iff.mp asked) (noBuiltin command)
    | program => rfl

end Action

/-- Of all variables, only the home directory counts where a directory is changed. -/
theorem World.changeDirectory_of_home {world : World} {environment : Environment}
    (home : environment.home? = world.environment.home?) (target : Option Bytes) :
    ({ world with environment } : World).changeDirectory target =
      (world.changeDirectory target).map fun next => { next with environment } := by
  have same : ({ world with environment } : World).destination target =
      world.destination target := by
    unfold destination World.home
    rw [home]
  unfold changeDirectory
  rw [same]
  cases world.destination target with
  | error fault => rfl
  | ok path =>
    cases entered : world.files.enter world.directory path <;>
      simp [entered, bind, Except.bind, pure, Except.pure, throw, throwThe, MonadExceptOf.throw,
        Except.map]

/-- Only `env` looks at the variables. -/
theorem Builtin.run_of_environment {command : Builtin} {environment other : Environment}
    (same : command = .env → other = environment) (parameters : List Bytes) (writer : Writer) :
    command.run other parameters writer = command.run environment parameters writer := by
  cases command with
  | env => rw [same rfl]
  | echo | exit => rfl

namespace Command

variable {programs others : Programs} {world other : World} {writer : Writer}
  {arguments : List Bytes}

/-- What asks for no program comes to the same whatever programs do. -/
theorem perform_of_noProgram (asked : Action.ofArguments arguments ≠ .program) :
    perform others world writer arguments = perform programs world writer arguments := by
  cases action : Action.ofArguments arguments with
  | program => exact absurd action asked
  | nothing | changeDirectory _ | builtin _ => simp only [perform, action]

/-- A builtin leaves the world alone. Unless it is `env`, it comes to the same in any other world,
and `env` does so where the variables are the same. -/
theorem perform_of_builtin {command : Builtin}
    (asked : Action.ofArguments arguments = .builtin command)
    (same : command = .env → other.environment = world.environment) :
    (perform programs world writer arguments).world = world ∧
      perform others other writer arguments =
        { perform programs world writer arguments with world := other } := by
  have ran := Builtin.run_of_environment same arguments.tail writer
  simp only [perform, asked, ran]
  exact ⟨trivial, trivial⟩

/-- Nothing is run for an empty argument list, and for no other. -/
theorem outcome_perform_eq_nothing_iff :
    (perform programs world writer arguments).outcome = .ok .nothing ↔ arguments = [] := by
  have course := perform_course programs world writer arguments
  generalize perform programs world writer arguments = evaluated at course
  rw [← Action.ofArguments_eq_nothing_iff]
  cases course with
  | nothing blank => simp [blank, Action.ofArguments]
  | moved asked | stayed asked | ended asked | wrote asked | unwritten asked | ran asked
  | unstarted asked => simp [asked]

/-- A change of directory goes where it is told to, and changes nothing else. -/
theorem perform_of_changeDirectory {target : Option Bytes}
    (asked : Action.ofArguments arguments = .changeDirectory target) :
    match world.changeDirectory target with
    | .ok next => (∃ directory, next = { world with directory }) ∧
        perform programs world writer arguments = ⟨.ok (.completed .success), next, writer, []⟩
    | .error fault =>
        perform programs world writer arguments = ⟨.error fault, world, writer, []⟩ := by
  simp only [perform, asked]
  cases changed : world.changeDirectory target with
  | error fault => rfl
  | ok next =>
    obtain ⟨files, environment, input⟩ := World.changeDirectory_keeps changed
    refine ⟨⟨next.directory, ?_⟩, rfl⟩
    rw [← files, ← environment, ← input]

/-- It goes by the home directory alone of all variables. -/
theorem perform_of_home {target : Option Bytes} {environment : Environment}
    (asked : Action.ofArguments arguments = .changeDirectory target)
    (home : environment.home? = world.environment.home?) :
    perform others { world with environment } writer arguments =
      let here := perform programs world writer arguments
      { here with world := { here.world with environment } } := by
  simp only [perform, asked, World.changeDirectory_of_home home]
  cases world.changeDirectory target <;> rfl

/-- How a line goes by its first word, given its arguments. -/
structure GoesByName (limit : Option Nat) (line : Bytes) (arguments : List Bytes) : Prop where
  /-- A line of delimiters asks for nothing, and no other does. -/
  nothing : Action.ofArguments arguments = .nothing ↔ IsGap line
  /-- And for no other is nothing run. -/
  still : ∀ programs world writer,
    (evaluate programs limit world writer line).outcome = .ok .nothing ↔ IsGap line
  /-- The exact name `cd` asks for another directory, the one that the second word names. -/
  directory : ∀ target, Action.ofArguments arguments = .changeDirectory target ↔
    arguments.head? = some (Bytes.ofString "cd") ∧ target = arguments[1]?
  /-- The exact names of the builtins ask for these. -/
  echo : Action.ofArguments arguments = .builtin .echo ↔
    arguments.head? = some (Bytes.ofString "echo")
  env : Action.ofArguments arguments = .builtin .env ↔
    arguments.head? = some (Bytes.ofString "env")
  exit : Action.ofArguments arguments = .builtin .exit ↔
    arguments.head? = some (Bytes.ofString "exit")
  /-- A program is asked for otherwise. -/
  program : Action.ofArguments arguments = .program ↔ ¬ IsGap line ∧
    ∀ name ∈ ["cd", "echo", "env", "exit"], arguments.head? ≠ some (Bytes.ofString name)
  /-- Only then is one started: whatever programs do, any other line comes to the same. -/
  idle : Action.ofArguments arguments ≠ .program → ∀ programs others world writer,
    evaluate others limit world writer line = evaluate programs limit world writer line
  /-- Blank lines, `echo` and `exit` come to the same in any two worlds, and leave these alone. -/
  steady : IsGap line ∨ arguments.head? = some (Bytes.ofString "echo") ∨
      arguments.head? = some (Bytes.ofString "exit") →
    ∀ programs others world other writer,
      (evaluate programs limit world writer line).world = world ∧
        evaluate others limit other writer line =
          { evaluate programs limit world writer line with world := other }
  /-- `env` does so in any two worlds with the same variables. -/
  listing : arguments.head? = some (Bytes.ofString "env") →
    ∀ programs others world other writer, other.environment = world.environment →
      (evaluate programs limit world writer line).world = world ∧
        evaluate others limit other writer line =
          { evaluate programs limit world writer line with world := other }
  /-- `cd` goes where its second word says and changes nothing but the working directory, -/
  moving : arguments.head? = some (Bytes.ofString "cd") → ∀ programs (world : World) writer,
    match world.changeDirectory arguments[1]? with
    | .ok next => (∃ directory, next = { world with directory }) ∧
        evaluate programs limit world writer line =
          ⟨.ok (.completed .success), next, writer, []⟩
    | .error fault =>
        evaluate programs limit world writer line = ⟨.error fault, world, writer, []⟩
  /-- and comes to the same whatever the search path is. -/
  pathless : arguments.head? = some (Bytes.ofString "cd") →
    ∀ programs others world writer environment,
      (∀ name, name ≠ Bytes.ofString "PATH" →
        environment.get? name = world.environment.get? name) →
      evaluate others limit { world with environment } writer line =
        let here := evaluate programs limit world writer line
        { here with world := { here.world with environment } }

/-- **Nothing stands in for `cd` or for a builtin.** A line that finds storage goes by the exact
name it begins with. -/
theorem goesByName_of_stored {limit : Option Nat} {line : Bytes} {arguments : Arguments}
    (stored : Arguments.ofLine limit line = .ok arguments) :
    GoesByName limit line arguments.toList := by
  have read := Arguments.toList_of_ofLine stored
  have performed (programs : Programs) (world : World) (writer : Writer) :
      evaluate programs limit world writer line =
        perform programs world writer arguments.toList := by
    rw [read]
    exact evaluate_of_stored stored
  have blank : arguments.toList = [] ↔ IsGap line := by rw [read]; exact words_eq_nil_iff
  have noProgram (asked : Action.ofArguments arguments.toList ≠ .program) (programs others : Programs)
      (world : World) (writer : Writer) :
      evaluate others limit world writer line = evaluate programs limit world writer line := by
    rw [performed, performed]
    exact perform_of_noProgram asked
  have builtin {command : Builtin}
      (name : arguments.toList.head? = some (Bytes.ofString command.name))
      (programs others : Programs) (world other : World) (writer : Writer)
      (same : command = .env → other.environment = world.environment) :
      (evaluate programs limit world writer line).world = world ∧
        evaluate others limit other writer line =
          { evaluate programs limit world writer line with world := other } := by
    rw [performed, performed]
    exact perform_of_builtin (Action.ofArguments_eq_builtin_iff.mpr name) same
  have directory (name : arguments.toList.head? = some changeDirectoryName) :=
    Action.ofArguments_eq_changeDirectory_iff.mpr ⟨name, rfl⟩
  constructor
  case nothing => exact Action.ofArguments_eq_nothing_iff.trans blank
  case still =>
    intro programs world writer
    rw [performed]
    exact outcome_perform_eq_nothing_iff.trans blank
  case directory => exact fun target => Action.ofArguments_eq_changeDirectory_iff
  case echo => exact Action.ofArguments_eq_builtin_iff
  case env => exact Action.ofArguments_eq_builtin_iff
  case exit => exact Action.ofArguments_eq_builtin_iff
  case program =>
    rw [Action.ofArguments_eq_program_iff, Ne, blank]
    refine and_congr_right fun _ => ?_
    constructor
    · rintro ⟨noDirectory, noBuiltin⟩
      simpa using ⟨noDirectory, noBuiltin .echo, noBuiltin .env, noBuiltin .exit⟩
    · intro none
      refine ⟨none "cd" (by simp), fun command => none command.name ?_⟩
      cases command <;> simp [Builtin.name]
  case idle => exact noProgram
  case steady =>
    rintro (gap | name | name) programs others world other writer
    · rw [performed, performed, blank.mpr gap]
      exact ⟨rfl, rfl⟩
    · exact @builtin .echo name programs others world other writer nofun
    · exact @builtin .exit name programs others world other writer nofun
  case listing =>
    intro name programs others world other writer same
    exact @builtin .env name programs others world other writer fun _ => same
  case moving =>
    intro name programs world writer
    rw [performed]
    exact perform_of_changeDirectory (directory name)
  case pathless =>
    intro name programs others world writer environment same
    have home : environment.home? = world.environment.home? := same _ (by decide)
    rw [performed, performed]
    exact perform_of_home (directory name) home

/-- A line with delimiters before and after its words, in the least storage there is. -/
theorem goesByName_of_stored_cd :
    let line := Bytes.ofString "\tcd  docs\n"
    ∃ arguments, Arguments.ofLine (some 64) line = .ok arguments ∧
      GoesByName (some 64) line arguments.toList :=
  ⟨_, rfl, goesByName_of_stored rfl⟩

end Command

end LineShell
