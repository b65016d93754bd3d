import LineShell.Text.Similarity

/-!
The flags that the shell is started with.
-/
namespace LineShell

inductive Flag where
  | config
  | history
  | noBanner
  | help
  | version
  deriving DecidableEq, Repr

namespace Flag

def all : List Flag := [.config, .history, .noBanner, .help, .version]

/-- The long name, without its dashes. -/
def name : Flag → String
  | .config => "config"
  | .history => "history"
  | .noBanner => "no-banner"
  | .help => "help"
  | .version => "version"

/-- The flag of a single letter. -/
def ofLetter? : Char → Option Flag
  | 'h' => some .help
  | 'V' => some .version
  | _ => none

def takesValue : Flag → Bool
  | .config | .history => true
  | _ => false

/-- The flags that choose how a session runs; the others ask for information only. -/
def settings : List Flag := [.config, .history, .noBanner]

/-- The flag as a user writes it. -/
def shown (flag : Flag) : String :=
  "--" ++ flag.name ++ (if flag.takesValue then " <PATH>" else "")

def ofName? (name : Text) : Option Flag := all.find? fun flag => flag.name.toList == name

/-- The flag whose name is most like another one, the last of several, unless all are too far
away: a similarity of seven tenths is not enough. -/
def nearest? (name : Text) : Option Flag :=
  let near := all.filterMap fun flag =>
    let similarity := Text.similarity name flag.name.toList
    if similarity > 0.7 then some (flag, similarity) else none
  (near.foldl (fun (best : Option (Flag × Float)) (flag, similarity) =>
    match best with
    | some (_, highest) => if similarity < highest then best else some (flag, similarity)
    | none => some (flag, similarity)) none).map (·.1)

end Flag

end LineShell
