import LineShell.Proofs.Display

/-!
# Home put away and put back

A display without truncation loses nothing but the spelling of home. With home put back for its
tilde it leads to the path that is shown, part by part, and text that begins with a tilde is what is
shown of the path that it is expanded to (`collapse_undoes_expandHome`).
-/
namespace LineShell.Path

theorem expandHome_tilde (home : Bytes) : expandHome [tilde] home = home := List.append_nil home

theorem expandHome_below (home rest : Bytes) :
    expandHome (tilde :: slash :: rest) home = home ++ slash :: rest := rfl

theorem expandHome_of_absolute {path : Bytes} (absolute : isAbsolute path = true) (home : Bytes) :
    expandHome path home = path := by
  obtain ⟨tail, rfl⟩ := isAbsolute_iff_exists.mp absolute
  apply expandHome_of_not
  constructor
  · intro same
    cases same
  · intro rest same
    cases same

/-- What is left below home, put after it, makes up the parts of the path again. -/
theorem Remains.parts_expanded {path home rest : Bytes} (remains : Remains path home rest)
    (absolute : isAbsolute path = true) (more : rest ≠ []) :
    Path.parts (home ++ slash :: rest) = Path.parts path := by
  rw [remains.parts]
  by_cases nowhere : home = []
  · subst nowhere
    obtain ⟨tail, rfl⟩ := isAbsolute_iff_exists.mp (remains.isAbsolute_of_nil absolute)
    -- A root after a slash is one empty segment more.
    have doubled := @Text.pieces_cons_mark _ (· == slash) slash rfl tail
    rw [List.nil_append, parts_slash, doubled, named_cons_of_silent rfl]
    rfl
  · rw [parts_append_slash nowhere, parts_of_ends (remains.ends nowhere more)]

/-- The bytes that are shown of an absolute path, expanded, are a path of the same parts. -/
theorem parts_expandHome_shown {path : Bytes} (absolute : isAbsolute path = true) (home : Bytes) :
    parts (expandHome (shown path (some home)) home) = parts path := by
  have display := display_shown path (some home)
  generalize shown path (some home) = bytes at display
  cases display with
  | outside => rw [expandHome_of_absolute absolute]
  | atHome same => rw [expandHome_tilde, same]
  | below remains more => rw [expandHome_below, remains.parts_expanded absolute more]

/-- They are text if what they spell out is. -/
theorem valid_shown {path home : Bytes}
    (isText : Utf8.valid ((below? path home).getD path) = true) :
    Utf8.valid (shown path (some home)) = true := by
  cases below : below? path home with
  | none =>
    rw [below] at isText
    rw [shown_of_none below]
    exact isText
  | some rest =>
    rw [below] at isText
    by_cases none : rest = []
    · subst none
      rw [shown_of_nil below]
      decide
    · have parted := Utf8.valid_append_ascii (by decide : slash < 0x80) [tilde] rest
      rw [shown_of_some below none]
      exact parted.trans isText

/-- Below a path that is not empty there is again what has been put there. -/
theorem below?_append {home rest : Bytes} (nonempty : home ≠ [])
    (ends : Ends (Text.pieces (· == slash) rest)) :
    below? (home ++ slash :: rest) home = some rest := by
  have cut := segments_append_slash nonempty rest
  have same : parts home = leadParts (home ++ slash :: rest) ++ named (segments home) := by
    rw [leadParts_append_slash nonempty, parts_eq]
  rw [below?_of_split nonempty cut same, trim_of_ends ends, Text.joined_pieces]

theorem below?_self {home : Bytes} (nonempty : home ≠ []) : below? home home = some [] :=
  below?_of_split nonempty (List.append_nil _).symm (parts_eq home)

/-- Text that stands for home or for something below it, with a name that says something at both
ends. -/
inductive IsShort : Text → Prop where
  | home : IsShort ['~']
  | below {names : Text}
      (ends : ∀ name, (Text.pieces (· == '/') names).head? = some name ∨
        (Text.pieces (· == '/') names).getLast? = some name → name ≠ [] ∧ name ≠ ['.']) :
      IsShort ('~' :: '/' :: names)

/-- What names something in text names something in its bytes. -/
theorem ends_encode {names : Text}
    (ends : ∀ name, (Text.pieces (· == '/') names).head? = some name ∨
      (Text.pieces (· == '/') names).getLast? = some name → name ≠ [] ∧ name ≠ ['.']) :
    Ends (Text.pieces (· == slash) (Utf8.encode names)) := by
  have read := names_lossy (Utf8.encode names)
  rw [Utf8.lossy_encode] at read
  rw [read, List.head?_map, List.getLast?_map] at ends
  intro segment isEnd
  have plain := ends (Utf8.lossy segment) <| by
    rcases isEnd with first | last
    · exact .inl (congrArg (Option.map Utf8.lossy) first)
    · exact .inr (congrArg (Option.map Utf8.lossy) last)
  have some : segment ≠ [] := by
    rintro rfl
    exact plain.1 rfl
  have noDot : segment ≠ [dot] := by
    rintro rfl
    exact plain.2 rfl
  simp [isPart, some, noDot]

/-- How displays and the expansion of home undo each other. -/
structure Undoes (home : Bytes) : Prop where
  /-- The display of an absolute path, expanded, is a path of the same parts, if what it spells out
  is text: what is left below home, or the path. -/
  expanded : ∀ path, isAbsolute path = true →
    Utf8.valid ((below? path home).getD path) = true →
    parts (expandHome (Utf8.encode (collapse path (some home) none)) home) = parts path
  /-- What short text is expanded to is shown as that text. -/
  collapsed : home ≠ [] → ∀ text, IsShort text →
    collapse (expandHome (Utf8.encode text) home) (some home) none = text

/-- **Displays and the expansion of home undo each other**, whatever bytes home is made of. -/
theorem collapse_undoes_expandHome (home : Bytes) : Undoes home := by
  have text (path : Bytes) : collapse path (some home) none = Utf8.lossy (shown path (some home)) :=
    rfl
  constructor
  case expanded =>
    intro path absolute isText
    rw [text, Utf8.encode_lossy (valid_shown isText), parts_expandHome_shown absolute]
  case collapsed =>
    intro nonempty shortText short
    rw [text]
    cases short with
    | home =>
      have bytes : Utf8.encode ['~'] = [tilde] := rfl
      rw [bytes, expandHome_tilde, shown_of_nil (below?_self nonempty)]
      rfl
    | @below names ends =>
      have bytes : Utf8.encode ('~' :: '/' :: names) = tilde :: slash :: Utf8.encode names := rfl
      have named := ends_encode ends
      have more : Utf8.encode names ≠ [] := by
        intro none
        rw [none] at named
        cases named [] (.inl rfl)
      rw [bytes, expandHome_below, shown_of_some (below?_append nonempty named) more, lossy_below,
        Utf8.lossy_encode]

end LineShell.Path
