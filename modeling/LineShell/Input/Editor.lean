import LineShell.Input.History
import LineShell.Input.Key
import LineShell.Input.Source

/-!
The line editor. It reads keys from a terminal, or whole lines from anything else and from
terminals it cannot draw on, remembers what it reads and saves that after each line. Keys come in
handfuls; what is left of one when a line is done is lost.
-/
namespace LineShell

/-- Where the editor gets its lines. -/
inductive Editor.Input where
  /-- What is typed before each reading. -/
  | typed (keys : List Bytes)
  | lines (bytes : Bytes)
  /-- Lines of an input that programs read as well. -/
  | shared (buffer : Supply.Buffer)

structure Editor where
  input : Editor.Input
  history : History
  historyFile : Option Bytes
  /-- The terminal cannot be drawn on, so prompts are printed plainly. -/
  plain : Bool

namespace Editor

/-- Terminals that the editor cannot draw on, in any mixture of capital and small letters. -/
def plainTerminals : List String := ["dumb", "cons25", "emacs"]

def isPlain (environment : Environment) : Bool :=
  match (environment.get? (Bytes.ofString "TERM")).bind Utf8.decode? with
  | none => false
  | some name =>
    plainTerminals.contains (String.ofList (name.map Char.toLower))

/-- The input of a terminal at which keys are typed before each reading. One that cannot be drawn on
gives lines of whatever is typed. -/
def Input.ofKeys (environment : Environment) (keys : List Bytes) : Input :=
  if isPlain environment then .lines keys.flatten else .typed keys

/-- A new editor, with the files and the warnings of taking up its history. -/
structure Opened where
  editor : Editor
  files : Files
  warnings : List Warning

def create (world : World) (historyFile : Option Bytes) (limit : Option Nat) (input : Input) :
    Opened :=
  let history : History := match limit with
    | some limit => { limit }
    | none => {}
  let kept := match historyFile with
    | some path => history.load world path
    | none => ⟨history, world.files, []⟩
  { editor := { input, history := kept.history, historyFile, plain := isPlain world.environment }
    files := kept.files
    warnings := kept.warnings }

/-- A new editor over the input of a terminal, if there is one to be had. -/
def obtain (world : World) (historyFile : Option Bytes) (limit : Option Nat)
    (input : Option Input) : Except Fault Opened :=
  (Option.orFault input { cause := .editorNotReady }).map (create world historyFile limit)

/-- A line without its ending and with its backspaces carried out. Each takes away as many bytes
as the cluster before it has, counted modulo 256. -/
def withoutBackspaces (line : Text) : Bytes :=
  let step := fun ((done, sizes) : Bytes × List Nat) (cluster : Text) =>
    let bytes := Utf8.encode cluster
    if cluster = ['\x08'] then
      match sizes with
      | [] => (done, [])
      | size :: others => (done.take (done.length - size), others)
    else (done ++ bytes, bytes.length % 256 :: sizes)
  if line.contains '\x08' then ((Text.clusters line).foldl step ([], [])).1 else Utf8.encode line

/-- A line of input without the line feed at its end and a carriage return before that. -/
def withoutEnding (line : Bytes) : Bytes :=
  if line.getLast? = some Text.lineFeed then Text.withoutReturn line.dropLast else line

/-- The keys that a terminal hands over at once take no more bytes than this. -/
def handful : Nat := 1024

/-- What is left of some keys after a line that used up the first `used` bytes. -/
def leftover (keys : Bytes) (used : Nat) : Bytes :=
  keys.drop (handful * ((used - 1) / handful + 1))

/-- The keys of the readings to come, with what was left of the one before. -/
def carried (left : Bytes) : List Bytes → List Bytes
  | [] => if left = [] then [] else [left]
  | keys :: later => (left ++ keys) :: later

/-- What a line of input comes to, given with its ending. -/
def lineOf (line : Bytes) : Except Fault (Option (Bytes × Bool)) :=
  if line = [] then .ok none
  else match Utf8.decode? (withoutEnding line) with
    | none => .error { cause := .lineNotRead "stream did not contain valid UTF-8" }
    | some text => .ok (some (withoutBackspaces text, true))

/-- What an editor gets out of its input: a line that may be worth remembering, or one that was
broken off. -/
def next (editor : Editor) : Except Fault (Option (Bytes × Bool)) × Input :=
  match editor.input with
  | .typed [] => (.ok none, .typed [])
  | .typed (keys :: later) =>
    let (typed, rest) := Typed.ofKeys (.blank editor.history.entries) (Key.ofText (Utf8.lossy keys))
    let used := keys.length - (rest.map Key.size).foldl (· + ·) 0
    let input := Input.typed (carried (leftover keys used) later)
    match typed with
    | .line text => (.ok (some (Utf8.encode text, true)), input)
    | .interrupted => (.ok (some ([], false)), input)
    | .ended => (.ok none, input)
  | .lines bytes => (lineOf (Text.cutLine bytes).1, .lines (Text.cutLine bytes).2)
  | .shared buffer => (lineOf buffer.line.1, .shared buffer.line.2)

/-- The editor with a line remembered and saved. -/
def remember (editor : Editor) (world : World) (line : Bytes) : Opened :=
  let history := editor.history.add (Utf8.lossy line)
  let kept := match editor.historyFile with
    | some path => history.save world path
    | none => ⟨history, world.files, []⟩
  ⟨{ editor with history := kept.history }, kept.files, kept.warnings⟩

def read (editor : Editor) (prompt : String) (world : World) : Reading Editor :=
  let printed := if editor.plain then Printed.of .prompt (Bytes.ofString prompt) else []
  let (answer, input) := editor.next
  let editor := { editor with input }
  match answer with
  | .error fault => ⟨.error fault, editor, world.files, printed, []⟩
  | .ok none => ⟨.ok none, editor, world.files, printed, []⟩
  | .ok (some (line, false)) => ⟨.ok (some line), editor, world.files, printed, []⟩
  | .ok (some (line, true)) =>
    let opened := editor.remember world line
    ⟨.ok (some line), opened.editor, opened.files, printed, opened.warnings⟩

/-- How much input is left. -/
def Input.size : Input → Nat
  | .typed keys => keys.foldr (·.length + 1 + ·) 0
  | .lines bytes => bytes.length
  | .shared buffer => buffer.size

theorem length_leftover_lt {keys : Bytes} {used : Nat} (some : leftover keys used ≠ []) :
    (leftover keys used).length < keys.length := by
  have := List.length_pos_iff.mpr some
  simp only [leftover, List.length_drop, handful] at this ⊢
  omega

theorem size_carried_lt (keys : Bytes) (used : Nat) (later : List Bytes) :
    (Input.typed (carried (leftover keys used) later)).size <
      (Input.typed (keys :: later)).size := by
  cases later with
  | nil =>
    unfold carried
    by_cases none : leftover keys used = []
    · simp [none, Input.size]
    · have := length_leftover_lt none
      simp only [if_neg none, Input.size]
      simpa
  | cons next later =>
    have : (leftover keys used).length ≤ keys.length := by simp [leftover]
    simp [carried, Input.size]
    omega

theorem ne_nil_of_lineOf {line : Bytes} {given : Bytes × Bool}
    (answered : lineOf line = .ok (some given)) : line ≠ [] := by
  rintro rfl
  simp [lineOf] at answered

theorem size_next_lt {editor : Editor} {given : Bytes × Bool}
    (answered : editor.next.1 = .ok (some given)) : editor.next.2.size < editor.input.size := by
  unfold next at answered ⊢
  split
  · next none => rw [none] at answered; simp at answered
  · next keys later typed =>
    rw [typed]
    generalize Typed.ofKeys _ _ = outcome
    rcases outcome with ⟨typed, rest⟩
    cases typed <;> exact size_carried_lt ..
  · next bytes lines =>
    rw [lines] at answered ⊢
    simp only at answered ⊢
    refine Text.length_cutLine_lt ?_
    rintro rfl
    exact ne_nil_of_lineOf answered rfl
  · next buffer shared =>
    rw [shared] at answered ⊢
    simp only at answered ⊢
    have := buffer.length_line
    have := List.length_pos_iff.mpr (ne_nil_of_lineOf answered)
    simp only [Input.size]
    omega

instance : LineSource Editor where
  read := read
  supply editor := match editor.input with
    | .shared buffer => buffer.supply
    | _ => {}
  restock editor left := match editor.input with
    | .shared buffer => { editor with input := .shared { buffer with supply := left } }
    | _ => editor
  size editor := editor.input.size
  size_read := by
    intro editor prompt world line given
    unfold read at given ⊢
    have shorter := @size_next_lt editor
    generalize editor.next = step at given shorter ⊢
    rcases step with ⟨answer, input⟩
    rcases answer with fault | (_ | ⟨text, typed⟩)
    · simp at given
    · simp at given
    · cases typed <;> exact shorter rfl
  size_restock := by
    intro editor left less
    cases source : editor.input with
    | shared buffer =>
      simp only [source] at less ⊢
      exact Nat.add_le_add_left less _
    | typed keys => simp [source]
    | lines bytes => simp [source]

end Editor

end LineShell
