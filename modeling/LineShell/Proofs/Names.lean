import LineShell.CommandLine.Start
import LineShell.Proofs.Encoding
import LineShell.Proofs.Statuses

/-!
# The name that a prompt shows

The shell takes the name of its user from the user database, or else from the variable `USER`. It is
left without a name exactly if the database does not know the user and that variable is empty
(`Identity.user_eq_empty_iff`). A session keeps its identity, so each of its prompts shows the name
(`Start.namesUser`).
-/
namespace LineShell

namespace Identity

variable {users : UserDatabase} {environment : Environment} {number : Nat}

/-- The variable that stands in for the user database. -/
def fallback? (environment : Environment) : Option Bytes :=
  environment.get? (Bytes.ofString "USER")

/-- The variable is taken for the name as it is if it is text, -/
theorem fallbackName_of_text {text : Text}
    (given : fallback? environment = some (Utf8.encode text)) :
    fallbackName environment = String.ofList text := by
  have decoded : Utf8.decode? (Utf8.encode text) = some text := Utf8.decode?_eq_some_iff.mpr rfl
  rw [fallback?] at given
  rw [fallbackName, given, Option.bind_some, decoded]

/-- and is as good as unset if it is not. -/
theorem fallbackName_of_noText
    (given : ∀ text, fallback? environment ≠ some (Utf8.encode text)) :
    fallbackName environment = "unknown" := by
  have none : (fallback? environment).bind Utf8.decode? = none := by
    rw [Option.bind_eq_none_iff]
    intro bytes same
    rw [Utf8.decode?_eq_none_iff]
    rintro text rfl
    exact given text same
  rw [fallback?] at none
  rw [fallbackName, none]

theorem fallbackName_eq_empty_iff :
    fallbackName environment = "" ↔ fallback? environment = some [] := by
  by_cases isText : ∃ text, fallback? environment = some (Utf8.encode text)
  · obtain ⟨text, given⟩ := isText
    rw [fallbackName_of_text given, given, Option.some.injEq, String.ofList_eq_empty_iff]
    constructor
    · rintro rfl
      rfl
    · intro empty
      rw [← Utf8.lossy_encode text, empty]
      rfl
  · have noText := not_exists.mp isText
    rw [fallbackName_of_noText noText]
    constructor
    · intro same
      exact absurd same (by decide)
    · exact fun empty => absurd empty (noText [])

theorem user_of_known {name : String} (known : users.lookup number = some name) :
    (ofNumber users environment number).user = name := by
  rw [ofNumber, known]
  rfl

theorem user_of_unknown (unknown : users.lookup number = none) :
    (ofNumber users environment number).user = fallbackName environment := by
  rw [ofNumber, unknown]
  rfl

/-- A database without empty names leaves a user nameless only by not knowing him. -/
theorem user_eq_empty_iff (named : ∀ entry ∈ users, entry.2 ≠ "") :
    (ofNumber users environment number).user = "" ↔
      users.lookup number = none ∧ fallback? environment = some [] := by
  cases looked : users.lookup number with
  | none => rw [user_of_unknown looked, fallbackName_eq_empty_iff, eq_self, true_and]
  | some name =>
    obtain ⟨front, back, rfl, _⟩ := List.lookup_eq_some_iff.mp looked
    have some := named (number, name) (by simp)
    rw [user_of_known looked]
    simpa using some

end Identity

/-- A prompt begins with a name, in some colour. -/
def Turn.ShowsUser (colours : Bool) (turn : Turn) (name : String) : Prop :=
  ∃ (colour : Colour) (rest : String), turn.prompt = colour.paint colours name ++ " on " ++ rest

theorem Shell.prompt_begins (colours : Bool) (shell : Shell) (world : World) :
    ∃ (colour : Colour) (rest : String),
      shell.prompt colours world = colour.paint colours shell.identity.user ++ " on " ++ rest := by
  let directory := (if shell.identity.isRoot then Colour.blue else .cyan).paint colours
    (shell.shownDirectory world)
  refine ⟨if shell.identity.isRoot then .red else .green,
    directory ++ ((if shell.settings.multiLinePrompt then "\n" else " ") ++
      (shell.tickColour.paintBold colours shell.tick ++ " ")), ?_⟩
  simp only [prompt, directory]
  cases shell.identity.isRoot <;> simp only [String.append_assoc] <;> rfl

namespace Session

variable {σ : Type} [LineSource σ]

/-- No outcome of a line changes who runs the shell. -/
theorem identity_of_settle (shell : Shell) (outcome : Except Fault Outcome) :
    (settle shell outcome).1.identity = shell.identity := by
  cases outcome with
  | ok came => cases came <;> rfl
  | error fault =>
    simp only [settle]
    split <;> rfl

theorem identity_of_turn (platform : Platform) (session : Session σ) :
    (session.turn platform).2.1.shell.identity = session.shell.identity := by
  unfold turn answered
  split
  · rfl
  · rfl
  · exact identity_of_settle _ _

theorem identity_of_run (platform : Platform) (session : Session σ) {turn : Turn}
    (shown : turn ∈ (session.run platform).turns) :
    turn.shell.identity = session.shell.identity := by
  have first := congrArg Shell.identity (shell_of_turn platform session)
  induction session using @run_induction σ _ platform with
  | halt session code halt =>
    rw [run_of_halt halt] at shown
    obtain rfl := List.mem_singleton.mp shown
    exact first
  | on session on ih =>
    rw [run_of_on on] at shown
    obtain rfl | later := List.mem_cons.mp shown
    · exact first
    · rw [← identity_of_turn platform session]
      exact ih later (congrArg Shell.identity (shell_of_turn platform _))

/-- So every prompt of a run shows the name of the user. -/
theorem showsUser_of_run (platform : Platform) (session : Session σ) {turn : Turn}
    (shown : turn ∈ (session.run platform).turns) :
    turn.ShowsUser platform.colours session.shell.identity.user := by
  obtain ⟨world, prompt⟩ := prompt_of_run platform session shown
  rw [← identity_of_run platform session shown, Turn.ShowsUser, prompt]
  exact turn.shell.prompt_begins platform.colours world

end Session

namespace Start

variable {start : Start}

/-- Who runs the shell. -/
def identity (start : Start) : Identity :=
  .ofNumber start.users start.world.environment start.userNumber

/-- The rounds of the session that a start begins, if it begins one. -/
def rounds (start : Start) : List Turn :=
  match start.begun.1 with
  | .over .. => []
  | .plain session => (session.run start.platform).turns
  | .editor _ session _ => (session.run start.platform).turns

/-- A session begins with the identity of its start. -/
theorem identity_of_begun (start : Start) :
    match start.begun.1 with
    | .over .. => True
    | .plain session => session.shell.identity = start.identity
    | .editor _ session _ => session.shell.identity = start.identity := by
  unfold begun
  cases Options.read start.arguments with
  | help | version | refuse => trivial
  | run options =>
    simp only
    generalize Settings.load start.world.files start.world.directory options.config
      start.world.environment.home? = loaded
    cases loaded.settings with
    | error fault => trivial
    | ok settings =>
      simp only [Start.session]
      generalize Editor.obtain start.world _ _ start.editorInput? = obtained
      cases start.terminal with
      | false => rfl
      | true =>
        cases obtained with
        | error fault => trivial
        | ok opened => rfl

theorem showsUser_of_rounds {turn : Turn} (shown : turn ∈ start.rounds) :
    turn.ShowsUser start.platform.colours start.identity.user := by
  have identity := start.identity_of_begun
  unfold rounds at shown
  split at shown
  · cases shown
  · next session begun =>
    rw [begun] at identity
    exact identity ▸ session.showsUser_of_run _ shown
  · next session _ begun =>
    rw [begun] at identity
    exact identity ▸ session.showsUser_of_run _ shown

/-- What the shell calls its user. -/
structure NamesUser (start : Start) : Prop where
  /-- A user whom the database knows has the name that stands there. -/
  known : ∀ name, start.users.lookup start.userNumber = some name → start.identity.user = name
  /-- Any other has the variable for a name, be it text, -/
  replaced : start.users.lookup start.userNumber = none →
    ∀ text, Identity.fallback? start.world.environment = some (Utf8.encode text) →
      start.identity.user = String.ofList text
  /-- and a fixed one if it is unset or no text. -/
  unknown : start.users.lookup start.userNumber = none →
    (∀ text, Identity.fallback? start.world.environment ≠ some (Utf8.encode text)) →
    start.identity.user = "unknown"
  /-- So there is no name only where an empty variable stands in for the database. -/
  nameless : start.identity.user = "" ↔
    start.users.lookup start.userNumber = none ∧
      Identity.fallback? start.world.environment = some []
  /-- Each prompt of the session shows the name, whatever has come before it. -/
  shown : ∀ turn ∈ start.rounds, turn.ShowsUser start.platform.colours start.identity.user

/-- **Every prompt names the user**, unless the database does not know him and `USER` is empty. -/
theorem namesUser (named : ∀ entry ∈ start.users, entry.2 ≠ "") : start.NamesUser where
  known _ := Identity.user_of_known
  replaced unknown _ given :=
    (Identity.user_of_unknown unknown).trans (Identity.fallbackName_of_text given)
  unknown unknown given :=
    (Identity.user_of_unknown unknown).trans (Identity.fallbackName_of_noText given)
  nameless := Identity.user_eq_empty_iff named
  shown _ := showsUser_of_rounds

/-- A user whom the database does not know, and a variable with a name of two words. -/
theorem namesUser_guest :
    let start : Start :=
      { arguments := []
        world := ⟨.bare, Files.root, ⟨[(Bytes.ofString "USER", Bytes.ofString "größe x")]⟩, {}⟩
        users := [(0, "root"), (1, "daemon")]
        userNumber := 54321
        programs := fun _ files => ⟨0, files, [], 0⟩
        terminal := false
        input := Bytes.ofString "echo a\n" }
    (∀ entry ∈ start.users, entry.2 ≠ "") ∧ start.NamesUser := by
  intro start
  have named : ∀ entry ∈ start.users, entry.2 ≠ "" := by decide
  exact ⟨named, namesUser named⟩

/-- So a user may be without a name: one whom the database does not know, if `USER` is empty. -/
theorem not_user_nonempty :
    ¬ ∀ (users : UserDatabase) (environment : Environment) (number : Nat),
      (∀ entry ∈ users, entry.2 ≠ "") → (Identity.ofNumber users environment number).user ≠ "" := by
  intro nonempty
  have named : ∀ entry ∈ [(0, "root")], entry.2 ≠ "" := by decide
  exact nonempty [(0, "root")] ⟨[(Bytes.ofString "USER", [])]⟩ 54321 named (by decide)

end Start

end LineShell
