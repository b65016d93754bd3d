import LineShell.Proofs.Layout
import LineShell.Proofs.Output

/-!
# What echo writes

The words of a line are neither empty nor do they hold a delimiter, so that single spaces between
them and a line feed after them are enough to read them back (`Builtin.words_echoed`). What echo
writes is therefore a spelling of its parameters, the same for all lines that have these and for no
other (`Command.evaluate_spellsOut`).
-/
namespace LineShell

theorem isWord_of_mem_words {line word : Bytes} (within : word ∈ words line) : IsWord word := by
  obtain ⟨cut, nonempty⟩ := List.mem_filter.mp within
  exact ⟨by simpa using nonempty, Text.noMark_of_mem_pieces cut⟩

theorem isDelimiter_space : isDelimiter 0x20 = true := rfl

namespace Builtin

theorem echoed_cons_cons (first second : Bytes) (rest : List Bytes) :
    echoed (first :: second :: rest) = first ++ 0x20 :: echoed (second :: rest) := by
  simp [echoed]

/-- The line that is made of words is split into them. -/
theorem words_echoed {parameters : List Bytes} (all : ∀ word ∈ parameters, IsWord word) :
    words (echoed parameters) = parameters := by
  induction parameters with
  | nil => rfl
  | cons first rest ih =>
    obtain ⟨isWord, others⟩ := List.forall_mem_cons.mp all
    cases rest with
    | nil =>
      have single : echoed [first] = first ++ [Text.lineFeed] := by
        simp [echoed, Text.lineFeed]
      rw [single, words_concat_delimiter isDelimiter_lineFeed, words_of_isWord isWord]
    | cons second rest =>
      rw [echoed_cons_cons, words_append_delimiter isDelimiter_space, words_of_isWord isWord,
        ih others]
      rfl

/-- Words that are made into the same line are the same. -/
theorem echoed_inj {parameters others : List Bytes} (all : ∀ word ∈ parameters, IsWord word)
    (otherAll : ∀ word ∈ others, IsWord word) :
    echoed others = echoed parameters ↔ others = parameters := by
  refine ⟨fun same => ?_, congrArg echoed⟩
  rw [← words_echoed all, ← words_echoed otherAll, same]

/-- A writer that takes the line of echo whole is given that and no more. -/
theorem taken_run_echo {writer : Writer} {parameters : List Bytes}
    (takes : (writer.write (echoed parameters)).whole = true) (environment : Environment) :
    (Builtin.echo.run environment parameters writer).taken = echoed parameters := by
  have taken : (writer.writeEach [echoed parameters]).taken = echoed parameters := by
    rw [Writer.writeEach_cons_of_whole takes, Writer.taken_of_whole takes]
    exact List.append_nil _
  cases whole : (writer.writeEach [echoed parameters]).whole <;> simp [run, output, whole, taken]

end Builtin

/-- Storage that suffices for many arguments does so for few. -/
theorem Arguments.Suffices.of_le {limit : Option Nat} {few many : Nat}
    (enough : Suffices limit many) (less : few ≤ many) : Suffices limit few := by
  obtain ⟨doublings, fit, granted⟩ := enough
  exact ⟨doublings, Nat.le_trans less fit, granted⟩

namespace Command

open Builtin

/-- A spelling of parameters that is read and written as it is. -/
structure SpellsOut (limit : Option Nat) (parameters : List Bytes) (out : Bytes) : Prop where
  /-- It is split into the parameters again, for which there is storage. -/
  back : ∃ arguments, Arguments.ofLine limit out = .ok arguments ∧ arguments.toList = parameters
  /-- Echo writes it once more if it is given it. -/
  again : ∀ programs world writer, (writer.write out).whole = true →
    let line := Bytes.ofString "echo " ++ out
    accepted limit line (evaluate programs limit world writer line) = out
  /-- It is what a line of echo writes if that has these parameters, and only then. -/
  same_iff : ∀ programs otherLimit world writer line arguments,
    Arguments.ofLine otherLimit line = .ok arguments →
    arguments.name? = some (Bytes.ofString "echo") →
    (writer.write (echoed arguments.parameters)).whole = true →
    (accepted otherLimit line (evaluate programs otherLimit world writer line) = out ↔
      arguments.parameters = parameters)

/-- The line of a name and of what is given to it. -/
theorem words_echo_append (out : Bytes) :
    words (Bytes.ofString "echo " ++ out) = Bytes.ofString "echo" :: words out := by
  have parted : Bytes.ofString "echo " ++ out = Bytes.ofString "echo" ++ 0x20 :: out := by
    have name : Bytes.ofString "echo " = Bytes.ofString "echo" ++ [0x20] := by decide
    rw [name, List.append_assoc, List.singleton_append]
  have single : words (Bytes.ofString "echo") = [Bytes.ofString "echo"] := by decide
  rw [parted, words_append_delimiter isDelimiter_space, single, List.singleton_append]

section Line

variable {programs : Programs} {limit : Option Nat} {world : World} {writer : Writer} {line : Bytes}

/-- What a line of echo writes. -/
theorem accepted_of_words {parameters : List Bytes}
    (enough : Arguments.Suffices limit (words line).length)
    (whole : words line = Bytes.ofString "echo" :: parameters)
    (takes : (writer.write (echoed parameters)).whole = true) :
    accepted limit line (evaluate programs limit world writer line) = echoed parameters := by
  obtain ⟨arguments, stored⟩ := Arguments.ofLine_eq_ok_iff.mpr enough
  have name : (words line).head? = some (Bytes.ofString Builtin.echo.name) := by rw [whole]; rfl
  have prints : printing? limit line = some .echo :=
    printing?_eq_some_iff.mpr ⟨⟨arguments, stored⟩, name, by decide⟩
  have printed : (evaluate programs limit world writer line).printed =
      Printed.of .builtin (echoed parameters) := by
    rw [evaluate_of_stored stored]
    simp only [perform, Action.ofArguments_eq_builtin_iff.mpr name]
    rw [whole]
    exact congrArg _ (taken_run_echo takes _)
  rw [accepted, prints, Option.isSome_some, if_pos rfl, printed]
  exact Printed.select_of (by decide) _

variable {arguments : Arguments} (stored : Arguments.ofLine limit line = .ok arguments)

include stored

/-- All parameters are words. -/
theorem isWord_of_mem_parameters : ∀ word ∈ arguments.parameters, IsWord word := by
  intro word within
  have present : word ∈ arguments.toList := List.mem_of_mem_tail within
  rw [Arguments.toList_of_ofLine stored] at present
  exact isWord_of_mem_words present

theorem words_of_name (asked : arguments.name? = some (Bytes.ofString "echo")) :
    words line = Bytes.ofString "echo" :: arguments.parameters := by
  rw [← Arguments.toList_of_ofLine stored]
  exact (List.cons_head?_tail asked).symm

end Line

/-- **Echo spells out its parameters**, whatever bytes they are made of and however many there
are. -/
theorem evaluate_spellsOut {programs : Programs} {limit : Option Nat} {world : World}
    {writer : Writer} {line : Bytes} {arguments : Arguments}
    (stored : Arguments.ofLine limit line = .ok arguments)
    (asked : arguments.name? = some (Bytes.ofString "echo"))
    (takes : (writer.write (echoed arguments.parameters)).whole = true) :
    SpellsOut limit arguments.parameters
      (accepted limit line (evaluate programs limit world writer line)) := by
  have all := isWord_of_mem_parameters stored
  have whole := words_of_name stored asked
  have enough := Arguments.ofLine_eq_ok_iff.mp ⟨arguments, stored⟩
  rw [accepted_of_words enough whole takes]
  constructor
  case back =>
    have fewer : (words (echoed arguments.parameters)).length ≤ (words line).length := by
      rw [words_echoed all, whole]
      exact Nat.le_succ _
    obtain ⟨reread, restored⟩ := Arguments.ofLine_eq_ok_iff.mpr (enough.of_le fewer)
    exact ⟨reread, restored, (Arguments.toList_of_ofLine restored).trans (words_echoed all)⟩
  case again =>
    intro programs world writer takes again
    have same : words again = Bytes.ofString "echo" :: arguments.parameters := by
      rw [words_echo_append, words_echoed all]
    exact accepted_of_words (by rwa [same, ← whole]) same takes
  case same_iff =>
    intro programs otherLimit world writer other others otherStored otherAsked otherTakes
    have otherEnough := Arguments.ofLine_eq_ok_iff.mp ⟨others, otherStored⟩
    rw [accepted_of_words otherEnough (words_of_name otherStored otherAsked) otherTakes]
    exact echoed_inj all (isWord_of_mem_parameters otherStored)

/-- Parameters that are no text, between tabs and a bell, and a writer without a byte to spare. -/
theorem evaluate_spellsOut_binary :
    let programs : Programs := fun _ files => ⟨0, files, [], 0⟩
    let world : World := ⟨⟨#[.directory Files.root []]⟩, Files.root, ⟨[]⟩, {}⟩
    let line := 0x20 :: Bytes.ofString "echo" ++ [0x09, 0xFF, 0x09, 0x07, 0xC3, 0x28, 0x0D, 0x0A]
    let writer := Writer.limited 5 true
    ∃ arguments, Arguments.ofLine (some 64) line = .ok arguments ∧
      arguments.name? = some (Bytes.ofString "echo") ∧
      arguments.parameters = [[0xFF], [0xC3, 0x28]] ∧
      (writer.write (echoed arguments.parameters)).whole = true ∧
      SpellsOut (some 64) arguments.parameters
        (accepted (some 64) line (evaluate programs (some 64) world writer line)) :=
  ⟨_, rfl, by decide, by decide, by decide, evaluate_spellsOut rfl (by decide) (by decide)⟩

end Command

end LineShell
