import LineShell.Proofs.Numerals
import LineShell.Settings.Line
import Mathlib.Data.List.Induction

/-!
# Settings by their keys

Each setting has a key, and settings are nothing but what they say of their keys one by one
(`eq_of_only`). Where several settings are made one after the other, the last one of a key decides
what is said of it (`only_foldl_set`). What a value means depends on its key: a truth value, a limit
or a path (`Means`), and a value that means nothing is refused in words of its key
(`readSetting_eq_ok_iff`, `readSetting_of_senseless`).
-/
namespace LineShell

/-- What can be set. -/
inductive Setting.Key where
  | showBanner
  | multiLinePrompt
  | truncation
  | showErrors
  | historyFile
  | historyLimit
  deriving DecidableEq, Repr

/-- The key that a setting is for. -/
def Setting.key : Setting → Key
  | .showBanner _ => .showBanner
  | .multiLinePrompt _ => .multiLinePrompt
  | .truncation _ => .truncation
  | .showErrors _ => .showErrors
  | .historyFile _ => .historyFile
  | .historyLimit _ => .historyLimit

namespace Setting.Key

/-- How a key is written. -/
def name : Key → String
  | .showBanner => "show-banner"
  | .multiLinePrompt => "multi-line-prompt"
  | .truncation => "truncation"
  | .showErrors => "show-errors"
  | .historyFile => "history-file"
  | .historyLimit => "history-limit"

/-- What the number of a limit is called. -/
def limitName? : Key → Option String
  | .truncation => some "truncation length"
  | .historyLimit => some "history limit"
  | _ => none

/-- How a value that means nothing is refused. A truth value is shown in small letters, a limit as
it was written. -/
def refusal (key : Key) (value : Text) : Fault :=
  match key.limitName? with
  | none => { cause := .invalidValue key.name (String.ofList (Text.lowercase value)) }
  | some description =>
    { cause := .invalidValue key.name (String.ofList value)
      context := some ("Invalid " ++ description ++ ": '" ++ String.ofList value ++
        "', expected a number or a false value") }

end Setting.Key

namespace Settings

/-! ## What is said of a key -/

/-- The settings with all but one key as it is by default. -/
def only (settings : Settings) : Setting.Key → Settings
  | .showBanner => { showBanner := settings.showBanner }
  | .multiLinePrompt => { multiLinePrompt := settings.multiLinePrompt }
  | .truncation => { truncation := settings.truncation }
  | .showErrors => { showErrors := settings.showErrors }
  | .historyFile => { historyFile := settings.historyFile }
  | .historyLimit => { historyLimit := settings.historyLimit }

@[simp] theorem only_default (key : Setting.Key) : ({} : Settings).only key = {} := by
  cases key <;> rfl

/-- Settings that say the same of every key are the same. -/
theorem eq_of_only {settings other : Settings} (same : ∀ key, settings.only key = other.only key) :
    settings = other := by
  have banner := congrArg Settings.showBanner (same .showBanner)
  have multiLine := congrArg Settings.multiLinePrompt (same .multiLinePrompt)
  have truncation := congrArg Settings.truncation (same .truncation)
  have errors := congrArg Settings.showErrors (same .showErrors)
  have file := congrArg Settings.historyFile (same .historyFile)
  have limit := congrArg Settings.historyLimit (same .historyLimit)
  cases settings
  cases other
  simp_all [only]

theorem only_set_key (settings : Settings) (setting : Setting) :
    (settings.set setting).only setting.key = ({} : Settings).set setting := by
  cases setting <;> rfl

theorem only_set_of_ne {setting : Setting} {key : Setting.Key} (other : setting.key ≠ key)
    (settings : Settings) : (settings.set setting).only key = settings.only key := by
  cases setting <;> cases key <;> first | rfl | exact absurd rfl other

/-- What a setting gives is what the settings have under its key. -/
def Has (settings : Settings) : Setting → Prop
  | .showBanner value => settings.showBanner = value
  | .multiLinePrompt value => settings.multiLinePrompt = value
  | .truncation value => settings.truncation = value
  | .showErrors value => settings.showErrors = value
  | .historyFile path => settings.historyFile = some path
  | .historyLimit value => settings.historyLimit = value

/-- What the settings have under a key is what is there by default: a banner and error messages, on
one line, without limits and without a history file of their own. -/
def HasDefault (settings : Settings) : Setting.Key → Prop
  | .showBanner => settings.showBanner = true
  | .multiLinePrompt => settings.multiLinePrompt = false
  | .truncation => settings.truncation = none
  | .showErrors => settings.showErrors = true
  | .historyFile => settings.historyFile = none
  | .historyLimit => settings.historyLimit = none

theorem only_eq_set_iff {settings : Settings} {setting : Setting} :
    settings.only setting.key = ({} : Settings).set setting ↔ settings.Has setting := by
  cases setting <;> simp [Setting.key, only, set, Has]

theorem only_eq_default_iff {settings : Settings} {key : Setting.Key} :
    settings.only key = {} ↔ settings.HasDefault key := by
  cases key <;> simp [only, HasDefault]

/-- The last of the settings for a key. -/
def last? (key : Setting.Key) (changes : List Setting) : Option Setting :=
  (changes.filter (·.key = key)).getLast?

/-- The last setting for a key decides what is said of it. -/
theorem only_foldl_set (changes : List Setting) (start : Settings) (key : Setting.Key) :
    (changes.foldl set start).only key =
      match last? key changes with
      | some setting => ({} : Settings).set setting
      | none => start.only key := by
  induction changes using List.reverseRecOn with
  | nil => rfl
  | append_singleton before setting ih =>
    rw [List.foldl_append, List.foldl_cons, List.foldl_nil]
    by_cases same : setting.key = key
    · have last : last? key (before ++ [setting]) = some setting := by simp [last?, same]
      rw [last, ← same, only_set_key]
    · have last : last? key (before ++ [setting]) = last? key before := by simp [last?, same]
      rw [last, only_set_of_ne same, ih]

/-! ## What a value means -/

/-- A value is one of some words, in any mixture of capital and small letters. -/
def Among (words : List String) (value : Text) : Prop :=
  String.ofList (Text.lowercase value) ∈ words

instance (words : List String) (value : Text) : Decidable (Among words value) :=
  inferInstanceAs (Decidable (_ ∈ words))

theorem contains_iff_among {words : List String} {value : Text} :
    words.contains (String.ofList (Text.lowercase value)) = true ↔ Among words value :=
  List.contains_iff_mem

theorem not_among_both {value : Text} (yes : Among trueWords value) : ¬ Among falseWords value := by
  have apart : ∀ word ∈ trueWords, word ∉ falseWords := by decide
  exact apart _ yes

inductive IsSwitch (value : Text) : Bool → Prop where
  | on (yes : Among trueWords value) : IsSwitch value true
  | off (no : Among falseWords value) : IsSwitch value false

/-- A false word stands for no limit, a numeral that is none of these words for its number. -/
inductive IsLimit (value : Text) : Option Nat → Prop where
  | off (no : Among falseWords value) : IsLimit value none
  | limit {number : Nat} (other : ¬ Among falseWords value) (numeral : Text.IsNatural value number)
      (small : number < numberBound) : IsLimit value (some number)

/-- The setting that a value stands for under a key. A history file is relative to the
directory. -/
inductive Means (directory : Bytes) (value : Text) : Setting.Key → Setting → Prop where
  | showBanner {state : Bool} (isSwitch : IsSwitch value state) :
      Means directory value .showBanner (.showBanner state)
  | multiLinePrompt {state : Bool} (isSwitch : IsSwitch value state) :
      Means directory value .multiLinePrompt (.multiLinePrompt state)
  | truncation {limit : Option Nat} (isLimit : IsLimit value limit) :
      Means directory value .truncation (.truncation limit)
  | showErrors {state : Bool} (isSwitch : IsSwitch value state) :
      Means directory value .showErrors (.showErrors state)
  | historyFile :
      Means directory value .historyFile (.historyFile (Path.join directory (Utf8.encode value)))
  | historyLimit {limit : Option Nat} (isLimit : IsLimit value limit) :
      Means directory value .historyLimit (.historyLimit limit)

theorem Means.key_eq {directory : Bytes} {value : Text} {key : Setting.Key} {setting : Setting}
    (means : Means directory value key setting) : setting.key = key := by
  cases means <;> rfl

/-- A truth value is read as what it is, -/
theorem readSwitch_eq_ok_iff {key value : Text} {state : Bool} :
    readSwitch key value = .ok state ↔ IsSwitch value state := by
  unfold readSwitch
  simp only [contains_iff_among]
  constructor
  · intro read
    split at read
    · next yes =>
      cases read
      exact .on yes
    · split at read
      · next no =>
        cases read
        exact .off no
      · cases read
  · rintro (yes | no)
    · exact if_pos yes
    · rw [if_neg fun yes => not_among_both yes no]
      exact if_pos no

/-- and nothing else is read as one. -/
theorem readSwitch_of_senseless {value : Text} (senseless : ∀ state, ¬ IsSwitch value state)
    (key : Text) :
    readSwitch key value =
      .error
        { cause := .invalidValue (String.ofList key) (String.ofList (Text.lowercase value)) } := by
  unfold readSwitch
  simp only [contains_iff_among]
  rw [if_neg fun yes => senseless true (.on yes), if_neg fun no => senseless false (.off no)]

/-- So is a limit. -/
theorem readLimit_eq_ok_iff {key value : Text} {description : String} {limit : Option Nat} :
    readLimit key value description = .ok limit ↔ IsLimit value limit := by
  unfold readLimit
  simp only [contains_iff_among]
  constructor
  · intro read
    split at read
    · next no =>
      cases read
      exact .off no
    · next other =>
      split at read
      · next number found =>
        cases read
        obtain ⟨numeral, small⟩ := Text.natural?_eq_some_iff.mp found
        exact .limit other numeral small
      · cases read
  · rintro (no | ⟨other, numeral, small⟩)
    · exact if_pos no
    · rw [if_neg other, Text.natural?_eq_some_iff.mpr ⟨numeral, small⟩]

theorem readLimit_of_senseless {value : Text} (senseless : ∀ limit, ¬ IsLimit value limit)
    (key : Text) (description : String) :
    readLimit key value description =
      .error
        { cause := .invalidValue (String.ofList key) (String.ofList value)
          context := some ("Invalid " ++ description ++ ": '" ++ String.ofList value ++
            "', expected a number or a false value") } := by
  have other : ¬ Among falseWords value := fun no => senseless none (.off no)
  have none : Text.natural? numberBound value = none := by
    rw [Option.eq_none_iff_forall_ne_some]
    intro number found
    obtain ⟨numeral, small⟩ := Text.natural?_eq_some_iff.mp found
    exact senseless (some number) (.limit other numeral small)
  unfold readLimit
  simp only [contains_iff_among]
  rw [if_neg other, none]
  rfl

section Reading

variable {directory : Bytes} {value : Text} {key : Setting.Key}

theorem map_eq_ok_iff {α β ε : Type} {make : α → β} {read : Except ε α} {result : β} :
    make <$> read = .ok result ↔ ∃ item, read = .ok item ∧ result = make item := by
  cases read with
  | error fault => simp [Functor.map, Except.map]
  | ok item => simp [Functor.map, Except.map, eq_comm]

/-- The value of a key is read as the setting that it stands for. -/
theorem readSetting_eq_ok_iff {setting : Setting} :
    readSetting directory key.name.toList value = .ok setting ↔
      Means directory value key setting := by
  cases key with
  | historyFile =>
    constructor
    · intro read
      cases read
      exact .historyFile
    · rintro ⟨⟩
      rfl
  | truncation | historyLimit =>
    refine map_eq_ok_iff.trans ⟨?_, ?_⟩
    · rintro ⟨limit, read, rfl⟩
      constructor
      exact readLimit_eq_ok_iff.mp read
    · intro means
      cases means
      exact ⟨_, readLimit_eq_ok_iff.mpr ‹IsLimit value _›, rfl⟩
  | showBanner | multiLinePrompt | showErrors =>
    refine map_eq_ok_iff.trans ⟨?_, ?_⟩
    · rintro ⟨state, read, rfl⟩
      constructor
      exact readSwitch_eq_ok_iff.mp read
    · intro means
      cases means
      exact ⟨_, readSwitch_eq_ok_iff.mpr ‹IsSwitch value _›, rfl⟩

/-- One that stands for none is refused in words of the key. -/
theorem readSetting_of_senseless (senseless : ∀ setting, ¬ Means directory value key setting) :
    readSetting directory key.name.toList value = .error (key.refusal value) := by
  cases key with
  | historyFile => exact absurd .historyFile (senseless _)
  | truncation | historyLimit =>
    have none := readLimit_of_senseless fun limit isLimit =>
      senseless _ (by constructor; exact isLimit)
    exact congrArg (_ <$> ·) (none _ _)
  | showBanner | multiLinePrompt | showErrors =>
    have none := readSwitch_of_senseless fun state isSwitch =>
      senseless _ (by constructor; exact isSwitch)
    exact congrArg (_ <$> ·) (none _)

/-- Any other key is unknown, whatever its value is. -/
theorem readSetting_of_strange {key : Text}
    (strange : ∀ known : Setting.Key, known.name ≠ String.ofList key) :
    readSetting directory key value = .error { cause := .unknownKey (String.ofList key) } := by
  unfold readSetting
  split
  · next same => exact absurd same.symm (strange .showBanner)
  · next same => exact absurd same.symm (strange .multiLinePrompt)
  · next same => exact absurd same.symm (strange .truncation)
  · next same => exact absurd same.symm (strange .showErrors)
  · next same => exact absurd same.symm (strange .historyFile)
  · next same => exact absurd same.symm (strange .historyLimit)
  · rfl

end Reading

end Settings

end LineShell
