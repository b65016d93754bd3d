import LineShell.Input.History
import LineShell.Proofs.FileLines
import LineShell.Proofs.Opening
import Mathlib.Data.List.Destutter
import Mathlib.Data.List.DropRight

/-!
# What a history remembers

Of the lines that are typed, a history remembers the last ones that are worth it (`remembered`). One
more line is added to these (`entries_add`), and adding them to a new history gives them back
(`remembered_remembered`). So a history that is taken up from its file is the one that was saved
there (`loadContent_fileOf`).
-/
namespace LineShell

/-- What remains of a list without repetitions if there is one more item at its end. -/
theorem destutter_concat {α : Type} [DecidableEq α] (items : List α) (item : α) :
    (items ++ [item]).destutter (· ≠ ·) =
      if (items.destutter (· ≠ ·)).getLast? = some item then items.destutter (· ≠ ·)
      else items.destutter (· ≠ ·) ++ [item] := by
  cases items with
  | nil => rfl
  | cons first rest =>
    rw [List.cons_append, List.destutter_cons', List.destutter_cons']
    induction rest generalizing first with
    | nil => by_cases same : first = item <;> simp [same]
    | cons next rest ih =>
      rw [List.cons_append, List.destutter'_cons, List.destutter'_cons]
      split
      · obtain ⟨kept, others, rest⟩ := List.exists_cons_of_ne_nil
          (List.destutter'_ne_nil rest (· ≠ ·) (a := next))
        rw [ih next, rest, List.getLast?_cons_cons]
        split <;> rfl
      · exact ih first

namespace History

/-- A line is worth remembering if it is not empty and does not begin with a blank. -/
def isWorthy (line : Text) : Bool := !line.head?.all Text.isBlank

/-- What remains of typed lines: the last of those that are worth it, without repetitions. -/
def remembered (limit : Nat) (lines : List Text) : List Text :=
  ((lines.filter isWorthy).destutter (· ≠ ·)).rtake limit

theorem getLast?_rtake_succ (items : List Text) (count : Nat) :
    (items.rtake (count + 1)).getLast? = items.getLast? := by
  rw [List.rtake, List.getLast?_drop]
  split
  · next short =>
    have empty : items.length = 0 := by omega
    rw [List.length_eq_zero_iff.mp empty]
    rfl
  · rfl

/-- Room for one more is made by the first item. -/
theorem rtake_eq_ite (items : List Text) (count : Nat) :
    items.rtake count =
      if (items.rtake (count + 1)).length = count + 1 then (items.rtake (count + 1)).tail
      else items.rtake (count + 1) := by
  simp only [List.rtake, List.length_drop, List.tail_drop]
  split
  · congr 1
    omega
  · congr 1
    omega

/-! ## Adding lines -/

theorem ignores_iff (history : History) (line : Text) :
    history.ignores line = true ↔
      history.limit = 0 ∨ isWorthy line = false ∨ history.entries.getLast? = some line := by
  simp [ignores, isWorthy, or_assoc]

@[simp] theorem limit_add (history : History) (line : Text) :
    (history.add line).limit = history.limit := by
  unfold add
  split <;> rfl

/-- A history that holds what is remembered of some lines does so with one line more. -/
theorem entries_add {history : History} {lines : List Text}
    (same : history.entries = remembered history.limit lines) (line : Text) :
    (history.add line).entries = remembered history.limit (lines ++ [line]) := by
  rcases history with ⟨entries, limit, unsaved⟩
  obtain rfl : entries = remembered limit lines := same
  cases worthy : isWorthy line with
  | false =>
    have ignored := (ignores_iff ⟨remembered limit lines, limit, unsaved⟩ line).mpr
      (.inr (.inl worthy))
    rw [add, if_pos ignored]
    simp [remembered, worthy]
  | true =>
    cases limit with
    | zero =>
      have ignored := (ignores_iff ⟨remembered 0 lines, 0, unsaved⟩ line).mpr (.inl rfl)
      rw [add, if_pos ignored]
      simp [remembered]
    | succ count =>
      have last : (remembered (count + 1) lines).getLast? =
          ((lines.filter isWorthy).destutter (· ≠ ·)).getLast? := getLast?_rtake_succ _ _
      have more : remembered (count + 1) (lines ++ [line]) =
          ((lines.filter isWorthy ++ [line]).destutter (· ≠ ·)).rtake (count + 1) := by
        simp [remembered, worthy]
      rw [more, destutter_concat, ← last]
      by_cases repeated : (remembered (count + 1) lines).getLast? = some line
      · have ignored := (ignores_iff ⟨remembered (count + 1) lines, count + 1, unsaved⟩ line).mpr
          (.inr (.inr repeated))
        rw [add, if_pos ignored, if_pos repeated]
        rfl
      · have taken : ¬ ignores ⟨remembered (count + 1) lines, count + 1, unsaved⟩ line = true := by
          simp [ignores_iff, worthy, repeated]
        rw [add, if_neg taken, if_neg repeated, List.rtake_concat_succ, rtake_eq_ite]
        rfl

/-- So it does with any more lines. -/
theorem entries_foldl_add {history : History} {before : List Text}
    (same : history.entries = remembered history.limit before) (lines : List Text) :
    (lines.foldl add history).entries = remembered history.limit (before ++ lines) ∧
      (lines.foldl add history).limit = history.limit := by
  induction lines generalizing history before with
  | nil => exact ⟨by rw [List.append_nil]; exact same, rfl⟩
  | cons line rest ih =>
    have step := entries_add same line
    rw [← limit_add history line] at step
    obtain ⟨entries, limit⟩ := ih step
    rw [List.foldl_cons, entries, limit, limit_add, List.append_assoc, List.singleton_append]
    exact ⟨rfl, rfl⟩

theorem isWorthy_of_mem_remembered {limit : Nat} {lines : List Text} {entry : Text}
    (within : entry ∈ remembered limit lines) : entry ∈ lines ∧ isWorthy entry = true := by
  have kept := (List.destutter_sublist (· ≠ ·) _).subset (List.mem_of_mem_drop within)
  exact List.mem_filter.mp kept

/-- What is remembered of entries that are remembered is all of them. -/
theorem remembered_remembered (limit : Nat) (lines : List Text) :
    remembered limit (remembered limit lines) = remembered limit lines := by
  have worthy : (remembered limit lines).filter isWorthy = remembered limit lines :=
    List.filter_eq_self.mpr fun _ within => (isWorthy_of_mem_remembered within).2
  have chain : (remembered limit lines).IsChain (· ≠ ·) :=
    (List.isChain_destutter _ _).suffix (List.drop_suffix ..)
  have short : (remembered limit lines).length - limit = 0 := by
    simp only [remembered, List.rtake, List.length_drop]
    omega
  rw [remembered, worthy, List.destutter_of_isChain _ _ chain, List.rtake, short, List.drop_zero]

/-! ## The file -/

/-- The content of the file that entries are kept in: nothing as long as there are none. -/
def fileOf (entries : List Text) : Bytes :=
  if entries = [] then []
  else Utf8.encode (fileMark ++ '\n' :: entries.flatMap fun entry => escape entry ++ ['\n'])

/-- An escaped entry has no line feed, and but for the escapes no characters of its own. -/
theorem of_mem_escape {c : Char} {entry : Text} (within : c ∈ escape entry) :
    c ≠ '\n' ∧ (c ∈ entry ∨ c = '\\' ∨ c = 'n') := by
  obtain ⟨source, there, image⟩ := List.mem_flatMap.mp within
  split at image
  · obtain rfl : c = '\\' := by simpa using image
    exact ⟨by decide, .inr (.inl rfl)⟩
  · split at image
    · obtain rfl | rfl : c = '\\' ∨ c = 'n' := by simpa using image
      · exact ⟨by decide, .inr (.inl rfl)⟩
      · exact ⟨by decide, .inr (.inr rfl)⟩
    · next other =>
      obtain rfl := List.mem_singleton.mp image
      exact ⟨other, .inl there⟩

theorem escape_ne_nil {entry : Text} (nonempty : entry ≠ []) : escape entry ≠ [] := by
  intro empty
  refine nonempty (Option.some.inj ?_)
  rw [← unescape_escape entry, empty]
  rfl

theorem fileOf_eq {entries : List Text} (nonempty : entries ≠ []) :
    fileOf entries =
      (Utf8.encode fileMark :: entries.map fun entry => Utf8.encode (escape entry)).flatMap
        (· ++ [Text.lineFeed]) := by
  have feed : String.utf8EncodeChar '\n' = [Text.lineFeed] := by decide
  rw [fileOf, if_neg nonempty, Utf8.encode, List.flatMap_append, List.flatMap_cons,
    List.flatMap_assoc, List.flatMap_cons, List.flatMap_map]
  simp only [List.flatMap_append, List.flatMap_cons, List.flatMap_nil, feed, Utf8.encode,
    List.append_assoc]
  rfl

/-- The lines of a saved file are the mark and the escaped entries. -/
theorem lines_fileOf {entries : List Text} (nonempty : entries ≠ [])
    (plain : ∀ entry ∈ entries, '\r' ∉ entry) :
    Text.lines (fileOf entries) =
      Utf8.encode fileMark :: entries.map fun entry => Utf8.encode (escape entry) := by
  have noFeed (entry : Text) : Text.lineFeed ∉ Utf8.encode (escape entry) := fun within =>
    (of_mem_escape (Utf8.mem_of_mem_encode (by decide) within)).1 rfl
  have unreturned : ∀ entry ∈ entries,
      Text.withoutReturn (Utf8.encode (escape entry)) = Utf8.encode (escape entry) := by
    intro entry within
    refine Text.withoutReturn_of_last fun last => ?_
    have ends := Utf8.mem_of_mem_encode (by decide) (List.mem_of_getLast? last)
    obtain there | slash | letter := (of_mem_escape ends).2
    · exact plain entry within there
    · exact absurd slash (by decide)
    · exact absurd letter (by decide)
  rw [fileOf_eq nonempty, ← List.append_nil (List.flatMap _ _), Text.lines_unique]
  case noFeed =>
    refine List.forall_mem_cons.mpr ⟨by decide, ?_⟩
    exact List.forall_mem_map.mpr fun entry _ => noFeed entry
  case lastNoFeed => exact List.not_mem_nil
  rw [if_pos rfl, List.append_nil, List.map_cons, List.map_map]
  exact congrArg _ (List.map_congr_left unreturned)

/-- Entries are read back as they were saved. -/
theorem loadRest_escaped {entries : List Text} (nonempty : ∀ entry ∈ entries, entry ≠ [])
    (history : History) :
    loadRest true history (entries.map fun entry => Utf8.encode (escape entry)) =
      ⟨entries.foldl add history, [], true⟩ := by
  induction entries generalizing history with
  | nil => rfl
  | cons entry rest ih =>
    obtain ⟨first, others, spelled⟩ := List.exists_cons_of_ne_nil
      (escape_ne_nil (nonempty entry (List.mem_cons_self ..)))
    have decoded : Utf8.decode? (Utf8.encode (escape entry)) = some (first :: others) := by
      rw [← spelled]
      exact Utf8.decode?_eq_some_iff.mpr rfl
    have read : readEscaped (first :: others) = (entry, []) := by
      rw [readEscaped, ← spelled, unescape_escape]
    have later := ih (fun other within => nonempty other (List.mem_cons_of_mem _ within))
      (history.add entry)
    rw [List.map_cons, loadRest.eq_def]
    simp only [decoded, read, ↓reduceIte, later]
    rfl

/-- A history that is taken up from its file is the one that was saved there. -/
theorem loadContent_fileOf {lines : List Text} (plain : ∀ line ∈ lines, '\r' ∉ line)
    (limit : Nat) :
    loadContent { limit } (fileOf (remembered limit lines)) =
      ⟨{ entries := remembered limit lines, limit }, [], true⟩ := by
  have nonempty : ∀ entry ∈ remembered limit lines, entry ≠ [] := by
    rintro entry within rfl
    exact Bool.false_ne_true (isWorthy_of_mem_remembered within).2
  by_cases empty : remembered limit lines = []
  · rw [empty]
    rfl
  · have returns : ∀ entry ∈ remembered limit lines, '\r' ∉ entry :=
      fun entry within => plain entry (isWorthy_of_mem_remembered within).1
    have marked : Utf8.decode? (Utf8.encode fileMark) = some fileMark :=
      Utf8.decode?_eq_some_iff.mpr rfl
    obtain ⟨entries, bound⟩ :=
      @entries_foldl_add { limit } [] (by simp [remembered]) (remembered limit lines)
    rw [List.nil_append, remembered_remembered] at entries
    rw [loadContent, lines_fileOf empty returns]
    simp only [marked, ↓reduceIte, loadRest_escaped nonempty]
    rw [entries, bound]

theorem valid_fileOf (entries : List Text) : Utf8.valid (fileOf entries) = true := by
  rw [Utf8.valid_iff, fileOf]
  split
  · exact ⟨[], rfl⟩
  · exact ⟨_, rfl⟩

/-! ## Histories in their files -/

/-- A history that remembers these lines and has been saved. -/
structure Kept.Holds (here : NodeId) (path : Bytes) (limit : Nat) (lines : List Text)
    (kept : Kept) : Prop where
  history : kept.history = { entries := remembered limit lines, limit }
  file : kept.files.Holds here path (fileOf (remembered limit lines))
  silent : kept.warnings = []

variable {world : World} {path : Bytes} {limit : Nat} {lines : List Text}

/-- A new history takes up what has been saved, and leaves the file as it is. -/
theorem load_holds (plain : ∀ line ∈ lines, '\r' ∉ line)
    (file : world.files.Holds world.directory path (fileOf (remembered limit lines))) :
    (load { limit } world path).Holds world.directory path limit lines := by
  rw [load_of_text file (valid_fileOf _), loadContent_fileOf plain]
  exact ⟨rfl, file, rfl⟩

/-- Where there is no file yet, it makes an empty one. -/
theorem load_holds_of_absent {directory : NodeId} {name : Bytes}
    (absent : world.files.locate true world.directory path = .ok (.absent directory name))
    (writable : (world.files.pathOf directory).isSome) (limit : Nat) :
    (load { limit } world path).Holds world.directory path limit [] := by
  have unread : world.files.read world.directory path = .error .notFound := by
    rw [Files.read, Files.find, absent]
    rfl
  obtain ⟨files, written, file⟩ := Files.holds_of_write_absent absent writable []
  rw [load, unread]
  simp only [Bool.false_eq_true, ↓reduceIte, written]
  have none : remembered limit [] = [] := by simp [remembered]
  exact ⟨by rw [none], by rw [none]; exact file, rfl⟩

/-- A line that is added to a saved history leaves it saved or waits alone. -/
theorem add_cases {history : History} (saved : history.unsaved = 0) (line : Text) :
    history.add line = history ∨
      (history.add line).entries ≠ [] ∧ (history.add line).unsaved = 1 := by
  unfold add
  split
  · exact .inl rfl
  · exact .inr ⟨by simp, by simp [saved]⟩

/-- One more line is remembered, and saved if that changes anything. -/
theorem save_holds {history : History}
    (same : history = { entries := remembered limit lines, limit })
    (file : world.files.Holds world.directory path (fileOf (remembered limit lines)))
    (line : Text) :
    (save (history.add line) world path).Holds world.directory path limit (lines ++ [line]) := by
  have bound : (history.add line).limit = limit := by rw [limit_add, same]
  have entries : (history.add line).entries = remembered limit (lines ++ [line]) := by
    subst same
    exact entries_add rfl line
  have whole (unsaved : (history.add line).unsaved = 0) :
      history.add line = { entries := remembered limit (lines ++ [line]), limit } := by
    rw [← entries, ← bound, ← unsaved]
  have nothingNew : history.unsaved = 0 := by rw [same]
  rcases add_cases nothingNew line with unchanged | ⟨some, waits⟩
  · have saved : (history.add line).unsaved = 0 := by rw [unchanged, nothingNew]
    have more : remembered limit (lines ++ [line]) = remembered limit lines := by
      rw [← entries, unchanged, same]
    rw [save, if_pos (by simp [saved])]
    exact ⟨whole saved, more ▸ file, rfl⟩
  · obtain ⟨id, mode, _, _, written, after⟩ := file.write (history.add line).toBytes
    have content : (history.add line).toBytes = fileOf (remembered limit (lines ++ [line])) := by
      rw [← entries]
      exact (if_neg some).symm
    rw [save, if_neg (by simp [some, waits])]
    simp only [written]
    exact ⟨by rw [← entries, ← bound], content ▸ after, rfl⟩

end History

end LineShell
