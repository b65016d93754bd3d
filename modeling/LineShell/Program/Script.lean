import LineShell.Program.Basic

/-!
What the system makes of a file that is to be run. A script names its interpreter, and perhaps one
argument for it, in its first line; the interpreter may be a script again.
-/
namespace LineShell.Program

/-- As many bytes at the beginning of a script are looked at. A shorter script counts as filled up
with NUL bytes. -/
def scriptWindow : Nat := 256

/-- So many files are looked at to find a program: scripts, and the interpreter of the last. -/
def scriptDepth : Nat := 6

def isGap (b : UInt8) : Bool := b == 0x20 || b == 0x09

/-- A byte that ends the name of an interpreter within its line. -/
def endsName (b : UInt8) : Bool := isGap b || b == 0

/-- The first line, given all that is looked at after the mark of a script. A NUL byte hides the
line feeds behind it. A line without an end reaches up to the last byte, and is of use only if
the name in it has an end. -/
def firstLine? (window : Bytes) : Option Bytes :=
  if (window.takeWhile (· != 0)).contains 0x0A then some (window.takeWhile (· != 0x0A))
  else if (window.dropWhile isGap).any endsName then some window.dropLast
  else none

/-- The name of an interpreter and its argument in a line. The argument may hold blanks. -/
def interpreterIn? (line : Bytes) : Option (Bytes × Option Bytes) :=
  let trimmed := (line.reverse.dropWhile isGap).reverse.dropWhile isGap
  let name := trimmed.takeWhile (!endsName ·)
  if trimmed = [] then none
  else match trimmed.drop name.length with
    | [] | 0 :: _ => some (name, none)
    | after => some (name, some ((after.dropWhile isGap).takeWhile (· != 0)))

/-- The interpreter and its argument that a script asks for. -/
def interpreter? : Bytes → Option (Bytes × Option Bytes)
  | 0x23 :: 0x21 :: rest =>
    (firstLine? ((rest ++ List.replicate scriptWindow 0).take (scriptWindow - 2))).bind
      interpreterIn?
  | _ => none

/-- The node at a path, if it may be run. An interpreter without a name is the working directory,
which may not. -/
def runnable (files : Files) (here : NodeId) (path : Bytes) : Except Refusal Node :=
  if path = [] then .error .denied
  else match files.find here path with
    | .error refusal => .error refusal
    | .ok id =>
      match files.node? id with
      | some (.program name) => .ok (.program name)
      | some (.file mode content) =>
        if mode &&& 0o111 = 0 then .error .denied else .ok (.file mode content)
      | some _ => .error .denied
      | none => .error .notFound

/-- The image of a path, with the arguments that scripts have put in front so far; `fits` says
whether there is room for those. A file is looked for before anything else is decided. -/
def image (files : Files) (here : NodeId) (fits : List Bytes → Bool) :
    Nat → Bytes → List Bytes → Except Refusal Image
  | depth, path, lead =>
    match runnable files here path with
    | .error refusal => .error refusal
    | .ok node =>
      if !fits lead then .error .tooManyArguments
      else match depth, node with
        | 0, _ => .error .linkLoop
        | _, .program name => .ok ⟨name, lead⟩
        | depth + 1, .file _ content =>
          match interpreter? content with
          | none => .error .badFormat
          | some (name, argument) =>
            image files here fits depth name (name :: (argument.toList ++ path :: lead.drop 1))
        | _ + 1, _ => .error .denied

end LineShell.Program
