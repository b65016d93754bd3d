import LineShell.Files.Access
import LineShell.Host.Numeral

/-!
Questions about texts, numbers and files, of which conditions are made.
-/
namespace LineShell.Host.Condition

/-- What conditions are about. -/
structure Scene where
  files : Files
  here : NodeId
  /-- The descriptors that lead to a terminal. -/
  terminals : List Nat

/-- A condition, or the complaint about it. -/
abbrev Answer (α : Type) := Except (List Bytes) α

def ofString (s : String) : Bytes := Bytes.ofString s

def spelling (word : Bytes) : String := Bytes.display word

/-- An integer with blanks around it. -/
def integer? (word : Bytes) : Option Int :=
  let digits? (bytes : Bytes) :=
    let digits := bytes.takeWhile Numeral.isDigit
    if digits ≠ [] ∧ (bytes.drop digits.length).all Numeral.isBlank then
      some (Numeral.value 10 digits : Int)
    else none
  match word.dropWhile Numeral.isBlank with
  | 0x2D :: rest => (digits? rest).map (- ·)
  | 0x2B :: rest => digits? rest
  | rest => digits? rest

/-- The questions of one operand. -/
def unaries : List String :=
  ["-b", "-c", "-d", "-e", "-f", "-g", "-h", "-k", "-n", "-p", "-r", "-s", "-t", "-u", "-w", "-x",
    "-z", "-G", "-L", "-O", "-S"]

def binaries : List String :=
  ["=", "!=", "-eq", "-ne", "-ge", "-gt", "-le", "-lt", "-nt", "-ot", "-ef"]

/-- A question about the file at a path. -/
def Scene.asks (scene : Scene) (operator : String) (path : Bytes) : Bool :=
  let nodeAt (follow : Bool) := match scene.files.locate follow scene.here path with
    | .ok (.found id) => scene.files.node? id
    | _ => none
  let node := nodeAt true
  match operator with
  | "-e" | "-r" | "-w" | "-O" | "-G" => node.isSome
  | "-d" => node.any fun node => match node with
    | .directory .. => true
    | _ => false
  | "-f" => node.any fun node => match node with
    | .file .. | .program _ => true
    | _ => false
  | "-s" => node.any fun node => match node with
    | .file _ content => !content.isEmpty
    | .sink => false
    | _ => true
  | "-x" => node.any fun node => match node with
    | .file mode _ => mode &&& 0o111 != 0
    | .sink => false
    | _ => true
  | "-c" => node.any (· == .sink)
  | "-u" | "-g" | "-k" => node.any fun node =>
    let mask := if operator = "-u" then 0o4000 else if operator = "-g" then 0o2000 else 0o1000
    match node with
    | .file mode _ => mode &&& mask != 0
    | _ => false
  | "-h" | "-L" => (nodeAt false).any fun node => match node with
    | .link _ => true
    | _ => false
  | _ => false

/-- Whether two paths lead to one file, or which of them does. -/
def Scene.compares (scene : Scene) (operator : String) (first second : Bytes) : Bool :=
  let place (path : Bytes) := (scene.files.find scene.here path).toOption
  match operator with
  | "-ef" => (place first).isSome && place first == place second
  | "-nt" => (place first).isSome && (place second).isNone
  | _ => (place second).isSome && (place first).isNone

/-- A question of one operand. -/
def Scene.one (scene : Scene) (number : Bytes → Answer Int) (operator : String) (operand : Bytes) :
    Answer Bool :=
  match operator with
  | "-n" => .ok (operand != [])
  | "-z" => .ok (operand == [])
  | "-t" => (number operand).map fun wanted =>
    scene.terminals.any fun terminal => (terminal : Int) == wanted
  | _ => .ok (scene.asks operator operand)

/-- A question of two operands. -/
def Scene.two (scene : Scene) (number : Bytes → Answer Int) (operator : String)
    (first second : Bytes) : Answer Bool :=
  let compare (holds : Int → Int → Bool) : Answer Bool := do
    return holds (← number first) (← number second)
  match operator with
  | "=" | "==" => .ok (first == second)
  | "!=" => .ok (first != second)
  | "<" => .ok (first.map (·.toNat) < second.map (·.toNat))
  | ">" => .ok (second.map (·.toNat) < first.map (·.toNat))
  | "-eq" => compare (· == ·)
  | "-ne" => compare (· != ·)
  | "-ge" => compare (· ≥ ·)
  | "-gt" => compare (· > ·)
  | "-le" => compare (· ≤ ·)
  | "-lt" => compare (· < ·)
  | _ => .ok (scene.compares operator first second)

end LineShell.Host.Condition
