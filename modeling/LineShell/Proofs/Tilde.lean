import LineShell.World

/-!
# Names that begin with a tilde

A destination is taken as it stands unless it is `~` or begins with `~/`. The home directory has no
part in that, but a name that begins with a tilde is refused where there is none: so two worlds agree
on such a name exactly if both have a home directory or neither has one
(`World.changeDirectory_literal`).
-/
namespace LineShell

open LineShell.Path

/-- A destination that `~` does not stand for a home directory in. -/
def IsLiteral (path : Bytes) : Prop := path ≠ [tilde] ∧ ∀ rest, path ≠ tilde :: slash :: rest

instance (path : Bytes) : Decidable (IsLiteral path) :=
  decidable_of_iff (path ≠ [tilde] ∧ path.take 2 ≠ [tilde, slash]) <| by
    refine and_congr_right fun _ => ⟨?_, ?_⟩
    · rintro other rest rfl
      exact other rfl
    · intro other begins
      refine other (path.drop 2) ?_
      have whole := List.take_append_drop 2 path
      rw [begins] at whole
      exact whole.symm

namespace World

/-- What comes of going to a path as it stands. -/
def enter (world : World) (path : Bytes) : Except Fault World :=
  match world.files.enter world.directory path with
  | .ok directory => .ok { world with directory }
  | .error refusal => .error { cause := .directoryNotEntered path refusal.message }

variable {world : World} {path : Bytes}

/-- A literal destination goes where it says; if it begins with a tilde, there must be a home
directory all the same. -/
theorem destination_of_literal (literal : IsLiteral path) :
    world.destination (some path) =
      if path.head? = some tilde ∧ world.environment.home? = none then
        .error { cause := .missingVariable "HOME" }
      else .ok path := by
  unfold destination home
  by_cases begins : path.head? = some tilde
  · cases set : world.environment.home? with
    | none => simp [begins, Option.orFault, bind, Except.bind]
    | some home =>
      simp [begins, Option.orFault, bind, Except.bind, pure, Except.pure,
        expandHome_of_not home literal]
  · simp [begins, pure, Except.pure]

theorem changeDirectory_of_literal (literal : IsLiteral path) :
    world.changeDirectory (some path) =
      if path.head? = some tilde ∧ world.environment.home? = none then
        .error { cause := .missingVariable "HOME" }
      else world.enter path := by
  unfold changeDirectory
  rw [destination_of_literal literal]
  split <;> rfl

/-- Entering a path has nothing to do with variables. -/
theorem directory_enter (environment : Environment) :
    (({ world with environment } : World).enter path).map (·.directory) =
      (world.enter path).map (·.directory) := by
  unfold enter
  cases world.files.enter world.directory path <;> rfl

/-- What is entered or refused as it stands is not refused for the want of a variable. -/
theorem directory_enter_ne (name : String) :
    (world.enter path).map (·.directory) ≠ .error { cause := .missingVariable name } := by
  unfold enter
  cases world.files.enter world.directory path <;> simp [Except.map]

/-- How a literal destination goes by the home directory, of all variables. -/
structure GoesLiterally (world : World) (environment : Environment) (path : Bytes) : Prop where
  /-- It is entered as it stands, whatever the home directory is, -/
  entered : path.head? ≠ some tilde ∨ world.environment.home? ≠ none →
    world.changeDirectory (some path) = world.enter path
  /-- but if it begins with a tilde there has to be one. -/
  refused : path.head? = some tilde → world.environment.home? = none →
    world.changeDirectory (some path) = .error { cause := .missingVariable "HOME" }
  /-- So other variables come to the same unless a home directory is there in one case and not in
  the other, and the destination begins with a tilde. -/
  alike_iff :
    (({ world with environment } : World).changeDirectory (some path)).map (·.directory) =
        (world.changeDirectory (some path)).map (·.directory) ↔
      (path.head? = some tilde →
        (environment.home? = none ↔ world.environment.home? = none))

/-- **A literal destination is taken as it stands** where there is a home directory, and everywhere
if it does not begin with a tilde. -/
theorem changeDirectory_literal (literal : IsLiteral path) (world : World)
    (environment : Environment) : world.GoesLiterally environment path := by
  have here := @changeDirectory_of_literal world path literal
  have there := @changeDirectory_of_literal { world with environment } path literal
  have same := @directory_enter world path environment
  have apart := @directory_enter_ne world path "HOME"
  constructor
  case entered =>
    intro taken
    rw [here, if_neg]
    rintro ⟨begins, unset⟩
    exact taken.elim (· begins) (· unset)
  case refused =>
    intro begins unset
    rw [here, if_pos ⟨begins, unset⟩]
  case alike_iff =>
    rw [here, there, ← and_congr_right_iff]
    by_cases lacks : path.head? = some tilde ∧ world.environment.home? = none
    · rw [if_pos lacks]
      by_cases otherLacks : path.head? = some tilde ∧ environment.home? = none
      · rw [if_pos otherLacks]
        exact iff_of_true rfl (iff_of_true otherLacks lacks)
      · rw [if_neg otherLacks, same]
        exact iff_of_false apart fun both => otherLacks (both.mpr lacks)
    · rw [if_neg lacks]
      by_cases otherLacks : path.head? = some tilde ∧ environment.home? = none
      · rw [if_pos otherLacks]
        exact iff_of_false apart.symm fun both => lacks (both.mp otherLacks)
      · rw [if_neg otherLacks, same]
        exact iff_of_true rfl (iff_of_false otherLacks lacks)

/-- A directory whose name begins with a tilde, with a home directory that is a file and without
one. -/
theorem changeDirectory_literal_bob :
    let bob := tilde :: Bytes.ofString "bob"
    let files : Files := ⟨#[.directory Files.root [(bob, 1)], .directory Files.root []]⟩
    let environment : Environment := ⟨[(Bytes.ofString "HOME", Bytes.ofString "/etc/passwd")]⟩
    IsLiteral bob ∧
      (⟨files, Files.root, environment, {}⟩ : World).GoesLiterally ⟨[]⟩ bob := by
  intro bob files environment
  have literal : IsLiteral bob := by decide
  exact ⟨literal, changeDirectory_literal literal _ _⟩

/-- So not every literal destination does without a home directory. -/
theorem not_changeDirectory_literal :
    ¬ ∀ (world : World) (environment : Environment) (path : Bytes), IsLiteral path →
      (∀ name, name ≠ Bytes.ofString "HOME" →
        environment.get? name = world.environment.get? name) →
      (({ world with environment } : World).changeDirectory (some path)).map (·.directory) =
        (world.changeDirectory (some path)).map (·.directory) := by
  intro alike
  let bob := tilde :: Bytes.ofString "bob"
  let files : Files := ⟨#[.directory Files.root [(bob, 1)], .directory Files.root []]⟩
  let home : Environment := ⟨[(Bytes.ofString "HOME", Bytes.ofString "/")]⟩
  have elsewhere : ∀ name, name ≠ Bytes.ofString "HOME" →
      (⟨[]⟩ : Environment).get? name = home.get? name := by
    intro name other
    simp [Environment.get?, home, List.lookup_cons, beq_false_of_ne other]
  have same := alike ⟨files, Files.root, home, {}⟩ ⟨[]⟩ bob (by decide) elsewhere
  cases same

end World

end LineShell
