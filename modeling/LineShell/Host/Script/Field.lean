import LineShell.Host.Pattern

/-!
What words become: bytes that remember whether they were quoted. Values that were not quoted are
cut at separators; of these the blanks count as one, however many there are.
-/
namespace LineShell.Host.Script

inductive Cell where
  /-- A byte; only a byte of an unquoted value can separate fields. -/
  | byte (b : UInt8) (quoted isValue : Bool)
  /-- Quotes, because of which there is a field. -/
  | mark
  /-- The border between two parameters. -/
  | border
  deriving DecidableEq, Repr

namespace Cell

def ofBytes (quoted isValue : Bool) (bytes : Bytes) : List Cell :=
  bytes.map (.byte · quoted isValue)

/-- The bytes alone, with something between parameters. -/
def bytes (between : Bytes) (cells : List Cell) : Bytes :=
  cells.flatMap fun cell => match cell with
    | .byte b .. => [b]
    | .mark => []
    | .border => between

/-- The bytes as a pattern reads them. -/
def pattern (cells : List Cell) : Pattern.Source :=
  cells.filterMap fun cell => match cell with
    | .byte b quoted _ => some (b, quoted)
    | _ => none

/-- The fields so far and the one that is being read, if there is one, with the latest first, and
whether the last field was ended by a blank alone. -/
structure Cut where
  done : List (List Cell) := []
  current : Option (List Cell) := none
  isBlank : Bool := false

/-- Goes on by one cell. -/
def Cut.step (separators : Bytes) (cut : Cut) (cell : Cell) : Cut :=
  match cell, cut.current with
  | .mark, current => ⟨cut.done, some (current.getD []), false⟩
  | .border, some field => ⟨field :: cut.done, none, false⟩
  | .border, none => { cut with isBlank := false }
  | .byte b quoted isValue, current =>
    if isValue && !quoted && separators.contains b then
      let isBlank := b == 0x20 || b == 0x09 || b == 0x0A
      match current with
      | some field => ⟨field :: cut.done, none, isBlank⟩
      | none =>
        if isBlank then cut
        else if cut.isBlank then { cut with isBlank := false }
        else ⟨[] :: cut.done, none, false⟩
    else ⟨cut.done, some (cell :: current.getD []), false⟩

/-- The fields of a word. -/
def fields (separators : Bytes) (cells : List Cell) : List (List Cell) :=
  let cut := cells.foldl (Cut.step separators) {}
  ((cut.current.toList ++ cut.done).map List.reverse).reverse

/-- Whether a field is a pattern of paths. -/
def isPattern (field : List Cell) : Bool :=
  field.any fun cell => match cell with
    | .byte b false _ => b == 0x2A || b == 0x3F || b == 0x5B
    | _ => false

/-- What a field stands for: the paths that fit it, or else its own bytes. -/
def expanded (files : Files) (here : NodeId) (field : List Cell) : List Bytes :=
  let paths := if isPattern field then Pattern.paths files here (pattern field) else []
  if paths = [] then [bytes [] field] else paths

end Cell

end LineShell.Host.Script
