import LineShell.Fault
import LineShell.Printed
import LineShell.Warning
import LineShell.World

/-!
Sources of command lines. A source is asked with a prompt and answers with a line, with nothing at
the end of its input, or with a fault. Whatever gives a line is used up by it a little, so no
source gives lines for ever.
-/
namespace LineShell

/-- An answer of a source: the line or the end, the source and the files afterwards, and what was
printed and warned about meanwhile. -/
structure Reading (σ : Type) where
  answer : Except Fault (Option Bytes)
  source : σ
  files : Files
  printed : List Printed
  warnings : List Warning

class LineSource (σ : Type) where
  read : σ → String → World → Reading σ
  /-- What a program finds if it reads on where the source has stopped. -/
  supply : σ → Supply
  /-- The source after programs have left that much. -/
  restock : σ → Supply → σ
  size : σ → Nat
  size_read : ∀ {source prompt world line}, (read source prompt world).answer = .ok (some line) →
    size (read source prompt world).source < size source
  size_restock : ∀ {source left}, left.items.length ≤ (supply source).items.length →
    size (restock source left) ≤ size source

end LineShell
