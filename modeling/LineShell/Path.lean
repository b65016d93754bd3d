import LineShell.Text.Pieces
import LineShell.Text.Utf8

/-!
Paths as bytes. A path is read as a list of parts; empty segments and `.` say nothing, except that
a path may begin with `.`. Paths are compared part by part, while what is left of a path below
another one keeps its own spelling. On top of that stand the `~` shorthand and the shortened
display.
-/
namespace LineShell.Path

abbrev slash : UInt8 := 0x2F
abbrev dot : UInt8 := 0x2E
abbrev tilde : UInt8 := 0x7E

/-- One step of a path. -/
inductive Part where
  | root
  | here
  | up
  | name (bytes : Bytes)
  deriving DecidableEq, Repr

def isAbsolute (path : Bytes) : Bool := path.head? == some slash

/-- The beginning of a path that counts although it names nothing, and the bytes after it. -/
def opening (path : Bytes) : Bytes × Bytes :=
  match path with
  | [] => ([], [])
  | first :: rest =>
    if first = slash then ([slash], rest)
    else if first = dot ∧ (rest = [] ∨ rest.head? = some slash) then ([dot], rest)
    else ([], path)

/-- The segments after the opening, those that say nothing included. -/
def segments (path : Bytes) : List Bytes := Text.pieces (· == slash) (opening path).2

/-- The segment names something. -/
def isPart (segment : Bytes) : Bool := !(segment == [] || segment == [dot])

def partOfSegment (segment : Bytes) : Part :=
  if segment = [dot, dot] then .up else .name segment

/-- The parts of a path. -/
def parts (path : Bytes) : List Part :=
  (match (opening path).1 with
    | [] => []
    | first :: _ => [if first = slash then Part.root else .here]) ++
  ((segments path).filter isPart).map partOfSegment

/-- The segments without the silent ones at the front. -/
def trimFront (segments : List Bytes) : List Bytes := segments.dropWhile (!isPart ·)

/-- The segments without the silent ones at the back. -/
def trimBack (segments : List Bytes) : List Bytes :=
  (segments.reverse.dropWhile (!isPart ·)).reverse

/-- The segments after the first `count` that name something. -/
def afterParts : Nat → List Bytes → List Bytes
  | 0, segments => segments
  | _ + 1, [] => []
  | count + 1, segment :: rest =>
    if isPart segment then afterParts count rest else afterParts (count + 1) rest

/-- What is left of a path below one that begins with the same parts. Silent segments at the two
ends of the rest are dropped and all else keeps its spelling. -/
def below? (path base : Bytes) : Option Bytes :=
  if (parts base).isPrefixOf (parts path) then
    if parts base = [] then
      some ((opening path).1 ++ Text.joined slash (trimBack (segments path)))
    else
      let named := (parts base).length - (opening path).1.length
      some (Text.joined slash (trimBack (trimFront (afterParts named (segments path)))))
  else none

/-- The path without its last part. -/
def parent? (path : Bytes) : Option Bytes :=
  let lead := (opening path).1
  match (trimBack (segments path)).reverse with
  | [] => if lead = [dot] then some [] else none
  | _ :: front => some (lead ++ Text.joined slash (trimBack front.reverse))

/-- A path taken relative to another one. -/
def join (base path : Bytes) : Bytes :=
  if isAbsolute path then path
  else if base = [] ∨ base.getLast? = some slash then base ++ path
  else base ++ slash :: path

/-- The bytes that stand for a path on display: what lies below the home directory begins with
`~`. -/
def shown (path : Bytes) (home : Option Bytes) : Bytes :=
  match home.bind (below? path) with
  | none => path
  | some [] => [tilde]
  | some rest => tilde :: slash :: rest

/-- Every name of a displayed path cut to at most `count` characters. -/
def truncate (count : Nat) (text : Text) : Text :=
  Text.joined '/' ((Text.pieces (· == '/') text).map (·.take count))

/-- The display of a path. -/
def collapse (path : Bytes) (home : Option Bytes) (truncation : Option Nat) : Text :=
  let text := Utf8.lossy (shown path home)
  match truncation with
  | none => text
  | some count => truncate count text

/-- A path with `~`, alone or before a slash, put back into the home directory. -/
def expandHome (path home : Bytes) : Bytes :=
  match path with
  | [] => []
  | first :: rest =>
    if first = tilde ∧ (rest = [] ∨ rest.head? = some slash) then home ++ rest else path

/-- Only a tilde that stands alone or before a slash is expanded. -/
theorem expandHome_of_not {path : Bytes} (home : Bytes)
    (plain : path ≠ [tilde] ∧ ∀ rest, path ≠ tilde :: slash :: rest) :
    expandHome path home = path := by
  unfold expandHome
  split
  · rfl
  · next first rest =>
    refine if_neg ?_
    rintro ⟨rfl, rfl | below⟩
    · exact plain.1 rfl
    · obtain ⟨tail, rfl⟩ := List.head?_eq_some_iff.mp below
      exact plain.2 tail rfl

end LineShell.Path
