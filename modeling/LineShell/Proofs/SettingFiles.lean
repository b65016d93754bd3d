import LineShell.Proofs.Command
import LineShell.Proofs.FileLines
import LineShell.Proofs.SettingLines
import LineShell.Settings.Load

/-!
# The settings of a file

The first line that offends decides the fault of its file, and nothing after it is looked at. Where
no line offends, what the settings say of a key comes from the last line for it, and from the
defaults if there is none (`only_of_ofContent`, `ofFile_goesByLines`).
-/
namespace LineShell.Settings

/-- What lines say, the first of them with this number. The first fault is the fault of all. -/
def readLines (path : Bytes) (start : Nat) (lines : List Bytes) :
    Except Fault (List (Option Setting)) :=
  (lines.zipIdx start).mapM fun (line, number) => readLine path number line

theorem readLines_cons (path : Bytes) (start : Nat) (line : Bytes) (rest : List Bytes) :
    readLines path start (line :: rest) = do
      let first ← readLine path start line
      let others ← readLines path (start + 1) rest
      return first :: others := by
  rw [readLines, List.zipIdx_cons, List.mapM_cons]
  rfl

/-- Where no line offends, each gives its setting. -/
theorem readLines_of_good {path : Bytes} {lines : List Bytes}
    (good : ∀ line ∈ lines, ¬ Offends path line) (start : Nat) :
    readLines path start lines = .ok (lines.map (told? path)) := by
  induction lines generalizing start with
  | nil => rfl
  | cons line rest ih =>
    have first := readLine_of_tells (tells_of_good (good line (List.mem_cons_self ..)) start)
    have others := ih (fun other within => good other (List.mem_cons_of_mem _ within)) (start + 1)
    rw [readLines_cons, first, others]
    rfl

/-- The first line that offends decides the fault, whatever comes after it. -/
theorem readLines_of_offended {path : Bytes} {before : List Bytes} {line : Bytes} {fault : Fault}
    {number : Nat} (good : ∀ earlier ∈ before, ¬ Offends path earlier)
    (tells : Tells path number line (.error fault)) {start : Nat}
    (place : start + before.length = number) (after : List Bytes) :
    readLines path start (before ++ line :: after) = .error fault := by
  induction before generalizing start with
  | nil =>
    obtain rfl : start = number := place
    rw [List.nil_append, readLines_cons, readLine_of_tells tells]
    rfl
  | cons earlier before ih =>
    have first := readLine_of_tells (tells_of_good (good earlier (List.mem_cons_self ..)) start)
    have others := ih (fun other within => good other (List.mem_cons_of_mem _ within))
      (by rw [← place, List.length_cons]; omega : start + 1 + before.length = number)
    rw [List.cons_append, readLines_cons, first, others]
    rfl

theorem ofContent_eq (path content : Bytes) :
    ofContent path content =
      (readLines path 1 (Text.lines content)).map fun told => (told.filterMap id).foldl set {} := by
  change (readLines path 1 (Text.lines content) >>= fun told => pure _) = _
  cases readLines path 1 (Text.lines content) <;> rfl

theorem ofContent_of_good {path content : Bytes}
    (good : ∀ line ∈ Text.lines content, ¬ Offends path line) :
    ofContent path content =
      .ok (((Text.lines content).filterMap (told? path)).foldl set {}) := by
  rw [ofContent_eq, readLines_of_good good, Except.map, List.filterMap_map]
  rfl

theorem ofContent_of_offended {path content : Bytes} {before after : List Bytes} {line : Bytes}
    {fault : Fault} (cut : Text.lines content = before ++ line :: after)
    (good : ∀ earlier ∈ before, ¬ Offends path earlier)
    (tells : Tells path (before.length + 1) line (.error fault)) :
    ofContent path content = .error fault := by
  rw [ofContent_eq, cut, readLines_of_offended good tells (Nat.add_comm 1 _)]
  rfl

/-- Of lines of which some offend, one is the first. -/
theorem exists_first_offending {path : Bytes} {lines : List Bytes}
    (bad : ∃ line ∈ lines, Offends path line) :
    ∃ before line after, lines = before ++ line :: after ∧
      (∀ earlier ∈ before, ¬ Offends path earlier) ∧ Offends path line := by
  induction lines with
  | nil => simp at bad
  | cons first rest ih =>
    by_cases offends : Offends path first
    · exact ⟨[], first, rest, rfl, by simp, offends⟩
    · have later : ∃ line ∈ rest, Offends path line := by
        obtain ⟨line, within, bad⟩ := bad
        rcases List.mem_cons.mp within with rfl | within
        · exact absurd bad offends
        · exact ⟨line, within, bad⟩
      obtain ⟨before, line, after, rfl, good, bad⟩ := ih later
      refine ⟨first :: before, line, after, rfl, ?_, bad⟩
      rw [List.forall_mem_cons]
      exact ⟨offends, good⟩

/-- Settings are read from a file exactly if none of its lines offends. -/
theorem ofContent_eq_ok_iff {path content : Bytes} :
    (∃ settings, ofContent path content = .ok settings) ↔
      ∀ line ∈ Text.lines content, ¬ Offends path line := by
  constructor
  · rintro ⟨settings, read⟩
    by_contra bad
    push Not at bad
    obtain ⟨before, line, after, cut, good, offends⟩ := exists_first_offending bad
    obtain ⟨fault, tells⟩ := tells_of_offends offends (before.length + 1)
    rw [ofContent_of_offended cut good tells] at read
    cases read
  · exact fun good => ⟨_, ofContent_of_good good⟩

section Keyed

open scoped Classical

/-- The settings for a key come from the lines for it. -/
theorem filter_told {path : Bytes} {lines : List Bytes}
    (good : ∀ line ∈ lines, ¬ Offends path line) (key : Setting.Key) :
    (lines.filterMap (told? path)).filter (·.key = key) =
      (lines.filter (HasKey key ·)).filterMap (told? path) := by
  induction lines with
  | nil => rfl
  | cons line rest ih =>
    have others := ih fun other within => good other (List.mem_cons_of_mem _ within)
    have first := hasKey_iff (good line (List.mem_cons_self ..)) key
    by_cases has : HasKey key line
    · obtain ⟨setting, told, same⟩ := first.mp has
      simp [told, same, has, others]
    · cases told : told? path line with
      | none => simp [told, has, others]
      | some setting =>
        have other : setting.key ≠ key := fun same => has (first.mpr ⟨setting, told, same⟩)
        simp [told, other, has, others]

/-- What the settings of a file say of a key comes from the last of the lines for it. -/
theorem only_of_ofContent {path content : Bytes} {settings : Settings}
    (read : ofContent path content = .ok settings) (key : Setting.Key) :
    settings.only key =
      match (((Text.lines content).filter (HasKey key ·)).filterMap (told? path)).getLast? with
      | some setting => ({} : Settings).set setting
      | none => {} := by
  have good := ofContent_eq_ok_iff.mp ⟨settings, read⟩
  have said := only_foldl_set ((Text.lines content).filterMap (told? path)) {} key
  rw [last?, filter_told good, only_default] at said
  rw [ofContent_of_good good] at read
  rw [← Except.ok.inj read]
  exact said

/-- So the last line for a key decides what they say of it. -/
theorem only_of_last {path content : Bytes} {settings : Settings} {before after : List Bytes}
    {line : Bytes} {setting : Setting} {number : Nat} (read : ofContent path content = .ok settings)
    (cut : Text.lines content = before ++ line :: after)
    (tells : Tells path number line (.ok (some setting)))
    (later : ∀ other ∈ after, ¬ HasKey setting.key other) :
    settings.only setting.key = ({} : Settings).set setting := by
  have good := ofContent_eq_ok_iff.mp ⟨settings, read⟩
  have told := readLine_of_tells (tells_of_good (good line (by simp [cut])) number)
  rw [readLine_of_tells tells] at told
  have given := (Except.ok.inj told).symm
  have has := (hasKey_iff (good line (by simp [cut])) setting.key).mpr ⟨setting, given, rfl⟩
  have noLater : after.filter (HasKey setting.key ·) = [] := by
    rw [List.filter_eq_nil_iff]
    exact fun line within => by simpa using later line within
  rw [only_of_ofContent read, cut, List.filter_append,
    List.filter_cons_of_pos (by simpa using has), noLater, List.filterMap_append,
    List.filterMap_cons_some given, List.filterMap_nil, List.getLast?_concat]

/-- How the settings of a file go by its lines. -/
structure GoesByLines (path content : Bytes) (result : Except Fault Settings) : Prop where
  /-- Lines end in line feeds, which are no part of them. -/
  cut : ∀ (ended : List Bytes) (last : Bytes), (∀ line ∈ ended, Text.lineFeed ∉ line) →
    Text.lineFeed ∉ last → content = ended.flatMap (· ++ [Text.lineFeed]) ++ last →
    Text.lines content = ended.map Text.withoutReturn ++ if last = [] then [] else [last]
  /-- The first line that offends decides: its one fault, with its number among all lines, is the
  fault of the file. -/
  offended : ∀ before line after, Text.lines content = before ++ line :: after →
    (∀ earlier ∈ before, ¬ Offends path earlier) → Offends path line →
    ∃ fault, result = .error fault ∧
      ∀ told, Tells path (before.length + 1) line told ↔ told = .error fault
  /-- No line after one that offends makes a difference. -/
  unread : ∀ before line, before ++ [line] <+: Text.lines content → Offends path line →
    ∀ other, before ++ [line] <+: Text.lines other → ofContent path other = result
  /-- Where no line offends, and only there, settings are read. -/
  good : (∃ settings, result = .ok settings) ↔ ∀ line ∈ Text.lines content, ¬ Offends path line
  /-- A key for which there is no line is as it is by default. -/
  unset : ∀ settings key, result = .ok settings → (∀ line ∈ Text.lines content, ¬ HasKey key line) →
    settings.HasDefault key
  /-- The last line for a key decides what is set: it is the value of that line. -/
  last : ∀ settings before line after setting, result = .ok settings →
    Text.lines content = before ++ line :: after →
    Tells path (before.length + 1) line (.ok (some setting)) →
    (∀ later ∈ after, ¬ HasKey setting.key later) → settings.Has setting
  /-- Lines that are not for a key make no difference to what is said of it. -/
  independent : ∀ settings other others key, result = .ok settings →
    ofContent path other = .ok others →
    (Text.lines other).filter (HasKey key ·) = (Text.lines content).filter (HasKey key ·) →
    others.only key = settings.only key
  /-- Nor does the order of lines that are for different keys, or for none. -/
  reordered : (∃ settings, result = .ok settings) → ∀ other,
    (Text.lines other).Perm (Text.lines content) →
    (∀ key, (Text.lines other).filter (HasKey key ·) =
      (Text.lines content).filter (HasKey key ·)) →
    ofContent path other = result

/-- Contents that are the same up to a line that offends come to the same. -/
theorem ofContent_of_same_start {path content other : Bytes} {before : List Bytes} {line : Bytes}
    (start : before ++ [line] <+: Text.lines content) (offends : Offends path line)
    (same : before ++ [line] <+: Text.lines other) :
    ofContent path other = ofContent path content := by
  have bad : ∃ other ∈ before ++ [line], Offends path other := ⟨line, by simp, offends⟩
  obtain ⟨front, first, middle, cut, good, firstOffends⟩ := exists_first_offending bad
  obtain ⟨fault, tells⟩ := tells_of_offends firstOffends (front.length + 1)
  have faulty {content : Bytes} (start : before ++ [line] <+: Text.lines content) :
      ofContent path content = .error fault := by
    obtain ⟨rest, whole⟩ := start
    rw [cut, List.append_assoc, List.cons_append] at whole
    exact ofContent_of_offended whole.symm good tells
  rw [faulty same, faulty start]

theorem ofContent_of_reordered {path content other : Bytes} {settings : Settings}
    (read : ofContent path content = .ok settings)
    (moved : (Text.lines other).Perm (Text.lines content))
    (same : ∀ key, (Text.lines other).filter (HasKey key ·) =
      (Text.lines content).filter (HasKey key ·)) :
    ofContent path other = .ok settings := by
  have good := ofContent_eq_ok_iff.mp ⟨settings, read⟩
  have otherGood : ∀ line ∈ Text.lines other, ¬ Offends path line :=
    fun line within => good line (moved.mem_iff.mp within)
  obtain ⟨others, otherRead⟩ := ofContent_eq_ok_iff.mpr otherGood
  rw [otherRead]
  refine congrArg _ (eq_of_only fun key => ?_)
  rw [only_of_ofContent otherRead, only_of_ofContent read, same]

/-- A file that can be read is read by its content. -/
theorem ofFile_of_read {files : Files} {here : NodeId} {path content : Bytes}
    (readable : files.read here path = .ok content) :
    ofFile files here path = ofContent path content := by
  unfold Files.read at readable
  obtain ⟨id, found, held⟩ := bind_eq_ok.mp readable
  unfold ofFile
  rw [found]
  change (Except.orFault (files.contentOf id) _ >>= ofContent path) = _
  rw [held]
  rfl

/-- **The settings of a file go by its lines**: the first that offends decides the fault, and where
none does, the last line of each key decides what is set. -/
theorem ofFile_goesByLines {files : Files} {here : NodeId} {path content : Bytes}
    (readable : files.read here path = .ok content) :
    GoesByLines path content (ofFile files here path) := by
  rw [ofFile_of_read readable]
  constructor
  case cut =>
    rintro ended last noFeed lastNoFeed rfl
    exact Text.lines_unique noFeed lastNoFeed
  case offended =>
    intro before line after cut good offends
    obtain ⟨fault, tells⟩ := tells_of_offends offends (before.length + 1)
    refine ⟨fault, ofContent_of_offended cut good tells, fun told => ⟨fun other => ?_, ?_⟩⟩
    · exact (readLine_of_tells other).symm.trans (readLine_of_tells tells)
    · rintro rfl
      exact tells
  case unread => exact fun before line start offends other same =>
    ofContent_of_same_start start offends same
  case good => exact ofContent_eq_ok_iff
  case unset =>
    intro settings key read none
    have noLine : (Text.lines content).filter (HasKey key ·) = [] := by
      rw [List.filter_eq_nil_iff]
      exact fun line within => by simpa using none line within
    rw [← only_eq_default_iff, only_of_ofContent read, noLine]
    rfl
  case last =>
    intro settings before line after setting read cut tells later
    exact only_eq_set_iff.mp (only_of_last read cut tells later)
  case independent =>
    intro settings other others key read otherRead same
    rw [only_of_ofContent otherRead, only_of_ofContent read, same]
  case reordered =>
    rintro ⟨settings, read⟩ other moved same
    rw [read]
    exact ofContent_of_reordered read moved same

/-- A limit that is set twice, with a comment and an empty line between. -/
theorem ofFile_goesByLines_twice :
    let content := Bytes.ofString "truncation: 3\n# 4: none\n\r\ntruncation: Off"
    let files : Files := ⟨#[.directory Files.root [([0x63], 1)], .file 0o644 content]⟩
    files.read Files.root [0x63] = .ok content ∧
      GoesByLines [0x63] content (ofFile files Files.root [0x63]) :=
  ⟨by decide, ofFile_goesByLines (by decide)⟩

end Keyed

end LineShell.Settings
