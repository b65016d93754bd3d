import LineShell.Proofs.Below
import LineShell.Proofs.Encoding

/-!
# Paths on display

A path is shown as it is, as a tilde, or as a tilde before what is left of it below home
(`Display`). Which of them it is goes by the parts of the two paths, so that an empty home is above
every path (`collapse_goesByHome`). Truncation comes after the bytes are read as text, and still
cuts each name for itself, since reading goes name by name (`pieces_lossy`, `collapse_cutsByNames`).
-/
namespace LineShell

namespace Utf8

theorem lossy_cons_ascii {byte : UInt8} (small : byte < 0x80) (rest : Bytes) :
    lossy (byte :: rest) = Char.ofNat byte.toNat :: lossy rest :=
  lossy_append_ascii small [] rest

/-- Bytes joined by an ASCII byte are read one after the other. -/
theorem lossy_joined {mark : UInt8} (small : mark < 0x80) (items : List Bytes) :
    lossy (Text.joined mark items) =
      Text.joined (Char.ofNat mark.toNat) (items.map lossy) := by
  induction items with
  | nil => rfl
  | cons first others ih =>
    cases others with
    | nil => simp [Text.joined]
    | cons second others =>
      rw [Text.joined_cons_cons, lossy_append_ascii small, ih]
      rfl

/-- Cutting at an ASCII byte may be done before reading or after. -/
theorem pieces_lossy {mark : UInt8} (small : mark < 0x80) (bytes : Bytes) :
    Text.pieces (· == Char.ofNat mark.toNat) (lossy bytes) =
      (Text.pieces (· == mark) bytes).map lossy := by
  have nonempty : (Text.pieces (· == mark) bytes).map lossy ≠ [] := by
    simp [Text.pieces_ne_nil]
  have plain : ∀ piece ∈ (Text.pieces (· == mark) bytes).map lossy,
      Char.ofNat mark.toNat ∉ piece := by
    intro piece cut marked
    obtain ⟨bytes, within, rfl⟩ := List.mem_map.mp cut
    exact Text.not_mem_of_mem_pieces within (mem_of_mem_lossy small marked)
  calc
    Text.pieces (· == Char.ofNat mark.toNat) (lossy bytes)
    _ = Text.pieces (· == Char.ofNat mark.toNat)
          (Text.joined (Char.ofNat mark.toNat) ((Text.pieces (· == mark) bytes).map lossy)) := by
      rw [← lossy_joined small, Text.joined_pieces]
    _ = (Text.pieces (· == mark) bytes).map lossy := Text.pieces_joined nonempty plain

end Utf8

namespace Path

/-- The bytes that stand for a path on display. -/
inductive Display (path : Bytes) : Option Bytes → Bytes → Prop where
  /-- Without a home directory a path is shown as it is. -/
  | homeless : Display path none path
  /-- So is one that does not begin with the parts of home. -/
  | outside {home : Bytes} (apart : ¬ parts home <+: parts path) : Display path (some home) path
  /-- Home itself is a tilde. -/
  | atHome {home : Bytes} (same : parts path = parts home) : Display path (some home) [tilde]
  /-- What is left below home comes after a tilde and a slash. -/
  | below {home rest : Bytes} (remains : Remains path home rest) (more : rest ≠ []) :
      Display path (some home) (tilde :: slash :: rest)

section Shown

variable {path home rest : Bytes}

theorem shown_of_none (outside : below? path home = none) : shown path (some home) = path := by
  simp only [shown, Option.bind_some, outside]

theorem shown_of_nil (atHome : below? path home = some []) : shown path (some home) = [tilde] := by
  simp only [shown, Option.bind_some, atHome]

theorem shown_of_some (below : below? path home = some rest) (more : rest ≠ []) :
    shown path (some home) = tilde :: slash :: rest := by
  obtain ⟨first, others, rfl⟩ := List.exists_cons_of_ne_nil more
  simp only [shown, Option.bind_some, below]

end Shown

theorem display_shown (path : Bytes) (home : Option Bytes) :
    Display path home (shown path home) := by
  cases home with
  | none => exact .homeless
  | some home =>
    cases below : below? path home with
    | none =>
      rw [shown_of_none below]
      exact .outside (below?_eq_none_iff.mp below)
    | some rest =>
      have remains := remains_of_below below
      by_cases none : rest = []
      · subst none
        rw [shown_of_nil below]
        exact .atHome (remains.parts.trans (List.append_nil _))
      · rw [shown_of_some below none]
        exact .below remains none

namespace Display

variable {path home bytes : Bytes}

theorem eq_of_apart (display : Display path (some home) bytes)
    (apart : ¬ parts home <+: parts path) : bytes = path := by
  cases display with
  | outside => rfl
  | atHome same => exact absurd (same ▸ List.prefix_refl _) apart
  | below remains => exact absurd ⟨_, remains.parts.symm⟩ apart

theorem eq_of_same (display : Display path (some home) bytes) (same : parts home = parts path) :
    bytes = [tilde] := by
  cases display with
  | outside apart => exact absurd (same ▸ List.prefix_refl _) apart
  | atHome => rfl
  | below remains more =>
    have whole := remains.parts
    rw [same, List.self_eq_append_right, parts_eq_nil_iff] at whole
    exact absurd whole more

theorem exists_of_below (display : Display path (some home) bytes)
    (begins : parts home <+: parts path) (more : parts home ≠ parts path) :
    ∃ rest, Remains path home rest ∧ rest ≠ [] ∧ bytes = tilde :: slash :: rest := by
  cases display with
  | outside apart => exact absurd begins apart
  | atHome same => exact absurd same.symm more
  | below remains more => exact ⟨_, remains, more, rfl⟩

end Display

/-! ## Absolute paths -/

theorem isAbsolute_iff_exists {path : Bytes} :
    isAbsolute path = true ↔ ∃ tail, path = slash :: tail := by
  simp [isAbsolute, List.head?_eq_some_iff]

theorem root_not_mem_named (segments : List Bytes) : Part.root ∉ named segments := by
  intro within
  obtain ⟨segment, _, same⟩ := List.mem_map.mp within
  unfold partOfSegment at same
  split at same <;> cases same

/-- A path is absolute exactly if the root is the first of its parts. -/
theorem isAbsolute_iff {path : Bytes} :
    isAbsolute path = true ↔ (parts path).head? = some .root := by
  constructor
  · intro absolute
    obtain ⟨tail, rfl⟩ := isAbsolute_iff_exists.mp absolute
    rw [parts_slash]
    rfl
  · intro heads
    have whole := opening_append path
    rw [parts_eq] at heads
    rcases leadParts_cases path with ⟨_, leads⟩ | ⟨root, _⟩ | ⟨_, leads⟩
    · rw [leads] at heads
      exact absurd (List.mem_of_mem_head? heads) (root_not_mem_named _)
    · rw [root] at whole
      exact isAbsolute_iff_exists.mpr ⟨_, whole.symm⟩
    · rw [leads] at heads
      cases heads

/-- Only an absolute path has parts that an absolute path begins with, but for the empty one. -/
theorem isAbsolute_of_begins {path base : Bytes} (absolute : isAbsolute path = true)
    (nonempty : base ≠ []) (begins : parts base <+: parts path) : isAbsolute base = true := by
  rw [isAbsolute_iff] at absolute ⊢
  have some : parts base ≠ [] := by simp [nonempty]
  obtain ⟨first, more, same⟩ := List.exists_cons_of_ne_nil some
  obtain ⟨rest, whole⟩ := begins
  rw [same, List.cons_append] at whole
  rw [← whole] at absolute
  rw [same]
  exact absolute

/-- What is left of an absolute path below nothing is absolute. -/
theorem Remains.isAbsolute_of_nil {path rest : Bytes} (remains : Remains path [] rest)
    (absolute : isAbsolute path = true) : isAbsolute rest = true := by
  rw [isAbsolute_iff, remains.parts] at absolute
  exact isAbsolute_iff.mpr absolute

/-- Whether a display is cut at home is told by the home directory that is named. -/
structure GoesByHome (path home : Bytes) : Prop where
  /-- A path that is not below home is shown as it is. -/
  outside : home ≠ [] → ¬ (isAbsolute home = true ∧ parts home <+: parts path) →
    collapse path (some home) none = Utf8.lossy path
  /-- Home itself is a tilde. -/
  atHome : isAbsolute home = true → parts home = parts path → collapse path (some home) none = ['~']
  /-- What is left below home comes after a tilde and one slash. -/
  below : isAbsolute home = true → parts home <+: parts path → parts home ≠ parts path →
    ∃ rest, Remains path home rest ∧ rest ≠ [] ∧ rest.head? ≠ some slash ∧
      collapse path (some home) none = '~' :: '/' :: Utf8.lossy rest
  /-- An empty home is above all paths, and all that is left below it begins with the root. -/
  nowhere : home = [] → ∃ rest, Remains path [] rest ∧ rest.head? = some slash ∧
    collapse path (some home) none = '~' :: '/' :: Utf8.lossy rest

theorem lossy_below (rest : Bytes) :
    Utf8.lossy (tilde :: slash :: rest) = '~' :: '/' :: Utf8.lossy rest := by
  rw [Utf8.lossy_cons_ascii (by decide), Utf8.lossy_cons_ascii (by decide)]
  rfl

/-- What begins with a segment that names something does not begin with a slash. -/
theorem head?_ne_of_ends {bytes : Bytes} (ends : Ends (Text.pieces (· == slash) bytes)) :
    bytes.head? ≠ some slash := by
  intro slashed
  obtain ⟨first, others, cut⟩ := List.exists_cons_of_ne_nil (Text.pieces_ne_nil (· == slash) bytes)
  have empty : first = [] := (eq_nil_iff_of_pieces cut).mpr (.inr slashed)
  have begins := ends first (.inl (congrArg List.head? cut))
  rw [empty] at begins
  cases begins

/-- **An absolute path is shown below home exactly if home is above it**, where an empty home is
above every path. -/
theorem collapse_goesByHome {path : Bytes} (absolute : isAbsolute path = true) (home : Bytes) :
    GoesByHome path home := by
  have display := display_shown path (some home)
  have text : collapse path (some home) none = Utf8.lossy (shown path (some home)) := rfl
  constructor
  case outside =>
    intro nonempty apart
    have other : ¬ parts home <+: parts path := by
      intro begins
      exact apart ⟨isAbsolute_of_begins absolute nonempty begins, begins⟩
    rw [text, display.eq_of_apart other]
  case atHome =>
    intro _ same
    rw [text, display.eq_of_same same]
    rfl
  case below =>
    intro rooted begins more
    have nonempty : home ≠ [] := by
      rintro rfl
      cases rooted
    obtain ⟨rest, remains, some, shows⟩ := display.exists_of_below begins more
    refine ⟨rest, remains, some, head?_ne_of_ends (remains.ends nonempty some), ?_⟩
    rw [text, shows, lossy_below]
  case nowhere =>
    rintro rfl
    have more : parts [] ≠ parts path := by
      intro none
      rw [isAbsolute_iff, ← none] at absolute
      cases absolute
    obtain ⟨rest, remains, _, shows⟩ := display.exists_of_below (List.nil_prefix) more
    obtain ⟨tail, rfl⟩ := isAbsolute_iff_exists.mp (remains.isAbsolute_of_nil absolute)
    refine ⟨slash :: tail, remains, rfl, ?_⟩
    rw [text, shows, lossy_below]

/-- A directory below home, whose path says some things twice. -/
theorem collapse_goesByHome_below :
    isAbsolute (Bytes.ofString "/home/./ada//notes/.") = true ∧
      GoesByHome (Bytes.ofString "/home/./ada//notes/.") (Bytes.ofString "/home/ada/") := by
  have absolute : isAbsolute (Bytes.ofString "/home/./ada//notes/.") = true := by decide
  exact ⟨absolute, collapse_goesByHome absolute _⟩

/-- So not every path is shown as it is that no home directory is above: an empty home counts as
one. -/
theorem not_collapse_outside :
    ¬ ∀ path home : Bytes, isAbsolute path = true →
      ¬ (isAbsolute home = true ∧ parts home <+: parts path) →
      collapse path (some home) none = Utf8.lossy path := by
  intro outside
  have absolute : isAbsolute (Bytes.ofString "/usr") = true := by decide
  have same := outside (Bytes.ofString "/usr") [] absolute (by simp [isAbsolute])
  exact absurd same (by decide)

/-! ## Truncation -/

/-- How the display of a path is cut to some characters of each name. -/
structure CutsByNames (path : Bytes) (home : Option Bytes) (count : Nat) : Prop where
  /-- The bytes that are shown are told by the path and by home, -/
  display : Display path home (shown path home)
  /-- and without truncation they are read as they are. -/
  whole : collapse path home none = Utf8.lossy (shown path home)
  /-- No slash is lost or added. -/
  slashes : (collapse path home (some count)).count '/' = (shown path home).count slash
  /-- Each name is read for itself, and its first characters are kept. -/
  names : Text.pieces (· == '/') (collapse path home (some count)) =
    (Text.pieces (· == slash) (shown path home)).map fun name => (Utf8.lossy name).take count
  /-- Where no name is longer than that, nothing is cut. -/
  enough : (∀ name ∈ Text.pieces (· == slash) (shown path home), (Utf8.lossy name).length ≤ count) →
    collapse path home (some count) = collapse path home none

/-- The names of a text are read from the names of its bytes. -/
theorem names_lossy (bytes : Bytes) :
    Text.pieces (· == '/') (Utf8.lossy bytes) =
      (Text.pieces (· == slash) bytes).map Utf8.lossy :=
  @Utf8.pieces_lossy slash (by decide) bytes

theorem pieces_truncate (count : Nat) (bytes : Bytes) :
    Text.pieces (· == '/') (truncate count (Utf8.lossy bytes)) =
      (Text.pieces (· == slash) bytes).map fun name => (Utf8.lossy name).take count := by
  have nonempty : (Text.pieces (· == '/') (Utf8.lossy bytes)).map (·.take count) ≠ [] := by
    simp [Text.pieces_ne_nil]
  have plain : ∀ name ∈ (Text.pieces (· == '/') (Utf8.lossy bytes)).map (·.take count),
      '/' ∉ name := by
    intro name within slashed
    obtain ⟨longer, cut, rfl⟩ := List.mem_map.mp within
    exact Text.not_mem_of_mem_pieces cut (List.mem_of_mem_take slashed)
  rw [truncate, Text.pieces_joined nonempty plain, names_lossy, List.map_map]
  rfl

/-- **Truncation acts on whole names**: each name of the bytes that are shown is read for itself and
cut for itself. -/
theorem collapse_cutsByNames (path : Bytes) (home : Option Bytes) (count : Nat) :
    CutsByNames path home count := by
  have cut := pieces_truncate count (shown path home)
  constructor
  case display => exact display_shown path home
  case whole => rfl
  case slashes =>
    have lengths := congrArg List.length cut
    rw [Text.length_pieces, List.length_map, Text.length_pieces] at lengths
    exact Nat.succ.inj lengths
  case names => exact cut
  case enough =>
    intro short
    have same : ((Text.pieces (· == slash) (shown path home)).map fun name =>
        (Utf8.lossy name).take count) =
          (Text.pieces (· == slash) (shown path home)).map Utf8.lossy := by
      apply List.map_congr_left
      intro name within
      exact List.take_of_length_le (short name within)
    rw [same, ← names_lossy] at cut
    have joined := congrArg (Text.joined '/') cut
    rw [Text.joined_pieces] at joined
    exact joined.trans (Text.joined_pieces _ _)

/-- A character that a slash cuts off is a name of its own and takes nothing from the next one. -/
example : collapse [slash, 0xE2, 0x82, slash, 0x61, 0x62] none (some 1) =
    ['/', '\uFFFD', '/', 'a'] := by
  decide

end Path

end LineShell
