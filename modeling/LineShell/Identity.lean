import LineShell.Environment

/-!
Who runs the shell. The user database has the first word on the name, then the variable `USER`.
-/
namespace LineShell

structure Identity where
  user : String
  isRoot : Bool
  deriving DecidableEq, Repr

/-- The names of users by their number. -/
abbrev UserDatabase := List (Nat × String)

namespace Identity

/-- The name for a user whom the database does not know. -/
def fallbackName (environment : Environment) : String :=
  match (environment.get? (Bytes.ofString "USER")).bind Utf8.decode? with
  | some text => String.ofList text
  | none => "unknown"

/-- The identity of a user number. Number zero is the superuser. -/
def ofNumber (database : UserDatabase) (environment : Environment) (number : Nat) : Identity :=
  { user := (database.lookup number).getD (fallbackName environment)
    isRoot := number == 0 }

end Identity

end LineShell
