import LineShell.Proofs.Encoding
import LineShell.Proofs.SettingKeys
import Mathlib.Data.List.TakeWhile

/-!
# What a line of a settings file tells

A line tells nothing, gives a setting, or offends, and it does one of these and no other (`Tells`,
`tells_readLine`, `readLine_of_tells`). Its number counts for nothing but the wording of a fault.
-/
namespace LineShell.Settings

/-- The text of a line that tells nothing: it is blank or a comment. -/
def IsIdle (text : Text) : Prop := Text.trim text = [] ∨ ∃ comment, Text.trim text = '#' :: comment

/-- A line parted at its first colon, without the blanks around its key and its value. -/
def Parted (line : Bytes) (key value : Text) : Prop :=
  ∃ text before after, Utf8.encode text = line ∧ ¬ IsIdle text ∧
    Text.trim text = before ++ ':' :: after ∧ ':' ∉ before ∧
    Text.trim before = key ∧ Text.trim after = value

/-- The directory that paths in a settings file are relative to. -/
def directoryOf (path : Bytes) : Bytes := (Path.parent? path).getD [Path.dot]

/-- What a line of the file at `path` tells. -/
inductive Tells (path : Bytes) (number : Nat) (line : Bytes) :
    Except Fault (Option Setting) → Prop where
  | binary (noText : ∀ text, Utf8.encode text ≠ line) :
      Tells path number line (.error { cause := .settingsNotRead path })
  | idle {text : Text} (spelled : Utf8.encode text = line) (idle : IsIdle text) :
      Tells path number line (.ok none)
  | unparted {text : Text} (spelled : Utf8.encode text = line) (busy : ¬ IsIdle text)
      (whole : ':' ∉ Text.trim text) :
      Tells path number line (.error { cause := .malformedLine path number })
  | strange {key value : Text} (parted : Parted line key value)
      (unknown : ∀ known : Setting.Key, known.name ≠ String.ofList key) :
      Tells path number line (.error { cause := .unknownKey (String.ofList key) })
  | given {key : Setting.Key} {value : Text} {setting : Setting}
      (parted : Parted line key.name.toList value)
      (means : Means (directoryOf path) value key setting) :
      Tells path number line (.ok (some setting))
  | refused {key : Setting.Key} {value : Text} (parted : Parted line key.name.toList value)
      (senseless : ∀ setting, ¬ Means (directoryOf path) value key setting) :
      Tells path number line (.error (key.refusal value))

/-- The line cannot be read, has no colon, has a key that there is not, or a value that means
nothing under its key. -/
def Offends (path line : Bytes) : Prop := ∃ number fault, Tells path number line (.error fault)

/-- The line is for a key. -/
def HasKey (key : Setting.Key) (line : Bytes) : Prop := ∃ value, Parted line key.name.toList value

/-- A text is cut at its first colon. -/
theorem splitColon_eq_some_iff {text before after : Text} :
    splitColon text = some (before, after) ↔ text = before ++ ':' :: after ∧ ':' ∉ before := by
  unfold splitColon
  constructor
  · intro cut
    split at cut
    · cases cut
    · next colon value rest =>
      have isColon : colon = ':' := by
        have stops := List.head?_dropWhile_not (· != ':') text
        rw [rest] at stops
        simpa using stops
      have whole : text.takeWhile (· != ':') ++ text.dropWhile (· != ':') = text :=
        List.takeWhile_append_dropWhile
      rw [rest, isColon] at whole
      simp only [Option.some.injEq, Prod.mk.injEq] at cut
      obtain ⟨rfl, rfl⟩ := cut
      refine ⟨whole.symm, fun within => ?_⟩
      exact absurd (List.mem_takeWhile_imp within) (by decide)
  · rintro ⟨rfl, plain⟩
    have passes : ∀ c ∈ before, (c != ':') = true := fun c within =>
      bne_iff_ne.mpr fun same => plain (same ▸ within)
    rw [List.dropWhile_append_of_pos passes, List.takeWhile_append_of_pos passes]
    simp

theorem splitColon_eq_none_iff {text : Text} : splitColon text = none ↔ ':' ∉ text := by
  constructor
  · intro uncut within
    obtain ⟨before, after, rfl, plain⟩ := List.eq_append_cons_of_mem within
    rw [splitColon_eq_some_iff.mpr ⟨rfl, plain⟩] at uncut
    cases uncut
  · intro plain
    rw [Option.eq_none_iff_forall_ne_some]
    rintro ⟨before, after⟩ cut
    obtain ⟨rfl, _⟩ := splitColon_eq_some_iff.mp cut
    exact plain (by simp)

theorem isIdle_iff {text : Text} :
    ((Text.trim text).isEmpty || (Text.trim text).head? == some '#') = true ↔ IsIdle text := by
  rw [Bool.or_eq_true, List.isEmpty_iff, beq_iff_eq, List.head?_eq_some_iff]
  rfl

section Line

variable {path line : Bytes} {number : Nat}

/-- A line that is parted is read as what its key and its value say. -/
theorem readLine_of_parted {key value : Text} (parted : Parted line key value) :
    readLine path number line = some <$> readSetting (directoryOf path) key value := by
  obtain ⟨text, before, after, spelled, busy, cut, plain, rfl, rfl⟩ := parted
  unfold readLine
  rw [Utf8.decode?_eq_some_iff.mpr spelled]
  simp only [if_neg (mt isIdle_iff.mp busy), splitColon_eq_some_iff.mpr ⟨cut, plain⟩]
  rfl

/-- What a line tells is what is read from it. -/
theorem tells_readLine (path : Bytes) (number : Nat) (line : Bytes) :
    Tells path number line (readLine path number line) := by
  cases decoded : Utf8.decode? line with
  | none =>
    rw [readLine, decoded]
    exact .binary (Utf8.decode?_eq_none_iff.mp decoded)
  | some text =>
    have spelled := Utf8.decode?_eq_some_iff.mp decoded
    by_cases idle : IsIdle text
    · rw [readLine, decoded]
      simp only [if_pos (isIdle_iff.mpr idle)]
      exact .idle spelled idle
    · cases cut : splitColon (Text.trim text) with
      | none =>
        rw [readLine, decoded]
        simp only [if_neg (mt isIdle_iff.mp idle), cut]
        exact .unparted spelled idle (splitColon_eq_none_iff.mp cut)
      | some parts =>
        obtain ⟨before, after⟩ := parts
        obtain ⟨whole, plain⟩ := splitColon_eq_some_iff.mp cut
        have parted : Parted line (Text.trim before) (Text.trim after) :=
          ⟨text, before, after, spelled, idle, whole, plain, rfl, rfl⟩
        rw [readLine_of_parted parted]
        by_cases known : ∃ key : Setting.Key, key.name = String.ofList (Text.trim before)
        · obtain ⟨key, same⟩ := known
          have name : Text.trim before = key.name.toList := by rw [same, String.toList_ofList]
          rw [name] at parted ⊢
          by_cases sense : ∃ setting, Means (directoryOf path) (Text.trim after) key setting
          · obtain ⟨setting, means⟩ := sense
            rw [readSetting_eq_ok_iff.mpr means]
            exact .given parted means
          · have senseless := not_exists.mp sense
            rw [readSetting_of_senseless senseless]
            exact .refused parted senseless
        · have strange := not_exists.mp known
          rw [readSetting_of_strange strange]
          exact .strange parted strange

/-- A line tells one thing and no other. -/
theorem readLine_of_tells {result : Except Fault (Option Setting)}
    (tells : Tells path number line result) : readLine path number line = result := by
  cases tells with
  | binary noText => rw [readLine, Utf8.decode?_eq_none_iff.mpr noText]
  | idle spelled idle =>
    rw [readLine, Utf8.decode?_eq_some_iff.mpr spelled]
    simp only [if_pos (isIdle_iff.mpr idle)]
  | unparted spelled busy whole =>
    rw [readLine, Utf8.decode?_eq_some_iff.mpr spelled]
    simp only [if_neg (mt isIdle_iff.mp busy), splitColon_eq_none_iff.mpr whole]
  | strange parted unknown =>
    rw [readLine_of_parted parted, readSetting_of_strange unknown]
    rfl
  | given parted means =>
    rw [readLine_of_parted parted, readSetting_eq_ok_iff.mpr means]
    rfl
  | refused parted senseless =>
    rw [readLine_of_parted parted, readSetting_of_senseless senseless]
    rfl

/-- The number of a line counts for nothing but a fault. -/
theorem Tells.renumber {told : Option Setting} (tells : Tells path number line (.ok told))
    (other : Nat) : Tells path other line (.ok told) := by
  cases tells with
  | idle spelled idle => exact .idle spelled idle
  | given parted means => exact .given parted means

end Line

/-- The setting that a line gives, if it gives one. -/
def told? (path line : Bytes) : Option Setting := (readLine path 0 line).toOption.join

/-- Wherever it stands, a line that does not offend gives its setting. -/
theorem tells_of_good {path line : Bytes} (good : ¬ Offends path line) (number : Nat) :
    Tells path number line (.ok (told? path line)) := by
  have tells := tells_readLine path 0 line
  cases read : readLine path 0 line with
  | error fault =>
    rw [read] at tells
    exact absurd ⟨0, fault, tells⟩ good
  | ok told =>
    rw [read] at tells
    rw [told?, read]
    exact tells.renumber number

/-- Wherever it stands, one that offends has a fault. -/
theorem tells_of_offends {path line : Bytes} (offends : Offends path line) (number : Nat) :
    ∃ fault, Tells path number line (.error fault) := by
  obtain ⟨other, fault, tells⟩ := offends
  have here := tells_readLine path number line
  cases read : readLine path number line with
  | error fault =>
    rw [read] at here
    exact ⟨fault, here⟩
  | ok told =>
    rw [read] at here
    have there := readLine_of_tells (here.renumber other)
    rw [readLine_of_tells tells] at there
    cases there

/-- A line that is for a key and does not offend gives a setting of that key, and no other line
does. -/
theorem hasKey_iff {path line : Bytes} (good : ¬ Offends path line) (key : Setting.Key) :
    HasKey key line ↔ ∃ setting, told? path line = some setting ∧ setting.key = key := by
  have tells := tells_of_good good 0
  constructor
  · rintro ⟨value, parted⟩
    by_cases sense : ∃ setting, Means (directoryOf path) value key setting
    · obtain ⟨setting, means⟩ := sense
      have read := readLine_of_tells tells
      rw [readLine_of_tells (.given parted means)] at read
      exact ⟨setting, (Except.ok.inj read).symm, means.key_eq⟩
    · exact absurd ⟨0, _, .refused parted (not_exists.mp sense)⟩ good
  · rintro ⟨setting, given, rfl⟩
    rw [given] at tells
    cases tells with
    | given parted means =>
      rw [means.key_eq]
      exact ⟨_, parted⟩

end LineShell.Settings
