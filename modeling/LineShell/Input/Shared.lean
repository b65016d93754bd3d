import LineShell.Input.Source

/-!
Lines of the input that a session shares with the programs it starts, as they stand. Prompts are
printed as they come.
-/
namespace LineShell

structure Shared where
  buffer : Supply.Buffer

namespace Shared

def read (shared : Shared) (prompt : String) (world : World) : Reading Shared :=
  let (line, buffer) := shared.buffer.line
  { answer := .ok (if line = [] then none else some line)
    source := { buffer }
    files := world.files
    printed := Printed.of .prompt (Bytes.ofString prompt)
    warnings := [] }

instance : LineSource Shared where
  read := read
  supply shared := shared.buffer.supply
  restock shared left := { buffer := { shared.buffer with supply := left } }
  size shared := shared.buffer.size
  size_read := by
    intro shared prompt world line given
    have whole := shared.buffer.length_line
    simp only [read] at given ⊢
    split at given
    · simp at given
    · next some =>
      have := List.length_pos_iff.mpr some
      omega
  size_restock less := Nat.add_le_add_left less _

end Shared

end LineShell
