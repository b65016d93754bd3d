/-!
Notes on things that went wrong without stopping anything. Each names the part it comes from.
-/
namespace LineShell

/-- The parts that warn. -/
inductive Warning.Origin where
  | settings
  | reading
  | editing
  deriving DecidableEq, Repr

/-- How a part is called in the log. -/
def Warning.Origin.label : Warning.Origin → String
  | .settings => "mish::state::config"
  | .reading => "mish::eval::readline"
  | .editing => "rustyline"

structure Warning where
  origin : Warning.Origin
  text : String
  deriving DecidableEq, Repr

end LineShell
