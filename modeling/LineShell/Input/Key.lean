import LineShell.Text.Grapheme
import LineShell.Text.Pieces

/-!
Keys of a terminal and the line that they write. Typing happens at a cursor; the arrow up goes to
the line above within the draft, and from its first line to the entry before in the history.
-/
namespace LineShell

inductive Key where
  | letter (c : Char)
  | enter
  | interrupt
  | endOfInput
  | backspace
  | up
  deriving DecidableEq, Repr

namespace Key

/-- The keys behind the characters that a terminal sends. -/
def ofText : Text → List Key
  | [] => []
  | '\x1b' :: '[' :: 'A' :: rest => .up :: ofText rest
  | c :: rest =>
    (if c = '\r' ∨ c = '\n' then Key.enter
      else if c = '\x03' then .interrupt
      else if c = '\x04' then .endOfInput
      else if c = '\x08' ∨ c = '\x7f' then .backspace
      else .letter c) :: ofText rest

/-- How many bytes a terminal sends for a key. -/
def size : Key → Nat
  | .letter c => c.utf8Size
  | .up => 3
  | _ => 1

end Key

/-- A line in the making: the text around the cursor, and the history entries that are still
above. -/
structure Draft where
  before : Text
  after : Text
  above : List Text

namespace Draft

/-- The draft of a new line; `entries` are the oldest first. -/
def blank (entries : List Text) : Draft := ⟨[], [], entries.reverse⟩

def text (draft : Draft) : Text := draft.before ++ draft.after

/-- The draft without the cluster before the cursor. -/
def erase (draft : Draft) : Draft :=
  { draft with before := (Text.clusters draft.before).dropLast.flatten }

/-- The draft without the cluster after the cursor. -/
def eraseAfter (draft : Draft) : Draft :=
  { draft with after := (Text.clusters draft.after).tail.flatten }

/-- One line up in the draft, in the same column if that line is long enough, or one entry
back. -/
def goUp (draft : Draft) : Draft :=
  match (Text.pieces (· == '\n') draft.before).reverse with
  | current :: target :: front =>
    let column := (Text.clusters current).length
    let kept := ((Text.clusters target).take column).flatten
    let before := Text.joined '\n' (front.reverse ++ [kept])
    { draft with before, after := draft.text.drop before.length }
  | _ =>
    match draft.above with
    | [] => draft
    | entry :: above => ⟨entry, [], above⟩

end Draft

/-- What typing came to. -/
inductive Typed where
  | line (text : Text)
  | interrupted
  | ended
  deriving DecidableEq, Repr

/-- Types keys into a draft until the line is done. The keys that are left come with it. -/
def Typed.ofKeys (draft : Draft) : List Key → Typed × List Key
  | [] => (.ended, [])
  | .enter :: rest => (.line draft.text, rest)
  | .interrupt :: rest => (.interrupted, rest)
  | .endOfInput :: rest =>
    if draft.text = [] then (.ended, rest) else ofKeys draft.eraseAfter rest
  | .backspace :: rest => ofKeys draft.erase rest
  | .up :: rest => ofKeys draft.goUp rest
  | .letter c :: rest => ofKeys { draft with before := draft.before ++ [c] } rest

end LineShell
