import LineShell.Proofs.Starts

/-!
# Limits and their numbers

What a limit is set to is the number of its numeral, however that is written: files that write the
same number in two ways load alike, and numbers that are too large are refused
(`Settings.load_byNumber`). One numeral is something else as well: `0` is among the false words, and
so it stands for no limit at all, which `00` does not.
-/
namespace LineShell

/-! ## Numerals -/

namespace Text

/-- A numeral denotes one number. -/
theorem IsNatural.unique {text : Text} {number other : Nat} (first : IsNatural text number)
    (second : IsNatural text other) : other = number := by
  have read := natural?_eq_some_iff.mpr ⟨first, (by omega : number < number + other + 1)⟩
  rw [natural?_eq_some_iff.mpr ⟨second, (by omega : other < number + other + 1)⟩] at read
  exact Option.some.inj read

instance (text : Text) (number : Nat) : Decidable (IsNatural text number) :=
  decidable_of_iff (natural? (number + 1) text = some number) <|
    natural?_eq_some_iff.trans (and_iff_left (Nat.lt_succ_self number))

theorem IsNatural.eq_zero {text : Text} {number : Nat} (numeral : IsNatural text number)
    (zero : text = ['0']) : number = 0 := by
  have single : IsNatural ['0'] 0 := by decide
  exact single.unique (zero ▸ numeral)

/-- It is made of digits and of a sign. -/
theorem IsNatural.characters {text : Text} {number : Nat} (numeral : IsNatural text number) :
    ∀ c ∈ text, c.isDigit = true ∨ c = '+' := by
  rcases numeral with denotes | ⟨digits, rfl, denotes⟩
  · exact fun c within => .inl (denotes.isDigit c within)
  · intro c within
    rcases List.mem_cons.mp within with rfl | within
    · exact .inr rfl
    · exact .inl (denotes.isDigit c within)

/-- There is no upper case in it. -/
theorem IsNatural.lowercase_eq {text : Text} {number : Nat} (numeral : IsNatural text number) :
    lowercase text = text := by
  have kept : ∀ c ∈ text, c.toNat < 0x80 ∧ lowercaseChar c = [c] := by
    intro c within
    rcases numeral.characters c within with digit | rfl
    · have high : c.toNat ≤ 57 := by
        simp only [Char.isDigit, Bool.and_eq_true, decide_eq_true_eq] at digit
        exact UInt32.le_iff_toNat_le.mp digit.2
      have noCapital : ¬ ('A' ≤ c ∧ c ≤ 'Z') := by
        rintro ⟨capital, _⟩
        have low : 65 ≤ c.toNat := UInt32.le_iff_toNat_le.mp capital
        omega
      refine ⟨by omega, ?_⟩
      rw [lowercaseChar, if_pos (by omega), if_neg noCapital]
    · decide
  rw [lowercase_ascii fun c within => (kept c within).1]
  calc text.flatMap lowercaseChar
      = text.flatMap fun c => [c] := List.flatMap_congr fun c within => (kept c within).2
    _ = text := List.flatMap_singleton' text

end Text

namespace Settings

/-! ## Limits -/

/-- The settings that are limits. -/
inductive Limit where
  | truncation
  | historyLimit
  deriving DecidableEq, Repr

namespace Limit

def key : Limit → Setting.Key
  | .truncation => .truncation
  | .historyLimit => .historyLimit

/-- The setting that sets a limit to a size, or lifts it. -/
def setting : Limit → Option Nat → Setting
  | .truncation => .truncation
  | .historyLimit => .historyLimit

/-- What a limit is set to. -/
def size (settings : Settings) : Limit → Option Nat
  | .truncation => settings.truncation
  | .historyLimit => settings.historyLimit

variable (limit : Limit)

theorem key_setting (size : Option Nat) : (limit.setting size).key = limit.key := by
  cases limit <;> rfl

theorem size_only (settings : Settings) :
    limit.size (settings.only limit.key) = limit.size settings := by
  cases limit <;> rfl

theorem size_set (settings : Settings) (size : Option Nat) :
    limit.size (settings.set (limit.setting size)) = size := by
  cases limit <;> rfl

theorem means_iff {directory : Bytes} {value : Text} {setting : Setting} :
    Means directory value limit.key setting ↔
      ∃ size, IsLimit value size ∧ setting = limit.setting size := by
  cases limit <;>
  · constructor
    · rintro ⟨⟩
      exact ⟨_, ‹_›, rfl⟩
    · rintro ⟨size, isLimit, rfl⟩
      constructor
      exact isLimit

end Limit

/-- Of all numerals only `0` is a false word. -/
theorem among_falseWords_iff {value : Text} {number : Nat}
    (numeral : Text.IsNatural value number) : Among falseWords value ↔ value = ['0'] := by
  have only : ∀ word ∈ falseWords,
      word.toList.all (fun c => c.isDigit || c == '+') = true → word.toList = ['0'] := by decide
  rw [Among, numeral.lowercase_eq]
  constructor
  · intro within
    have same := only _ within (by simpa using numeral.characters)
    simpa using same
  · rintro rfl
    decide

/-- What a numeral sets a limit to: its number, unless it is a false word. -/
def sizeOf (value : Text) (number : Nat) : Option Nat := if value = ['0'] then none else some number

theorem isLimit_iff {value : Text} {number : Nat} (numeral : Text.IsNatural value number)
    {size : Option Nat} :
    IsLimit value size ↔ number < numberBound ∧ size = sizeOf value number := by
  have word := among_falseWords_iff numeral
  constructor
  · rintro (no | ⟨other, otherNumeral, small⟩)
    · have zero := word.mp no
      rw [sizeOf, if_pos zero, numeral.eq_zero zero]
      exact ⟨by decide, rfl⟩
    · rw [sizeOf, if_neg (mt word.mpr other), otherNumeral.unique numeral]
      exact ⟨small, rfl⟩
  · rintro ⟨small, rfl⟩
    by_cases zero : value = ['0']
    · rw [sizeOf, if_pos zero]
      exact .off (word.mpr zero)
    · rw [sizeOf, if_neg zero]
      exact .limit (mt word.mp zero) numeral small

/-- Numerals of different numbers set a limit to different sizes. -/
theorem sizeOf_ne {value other : Text} {number otherNumber : Nat}
    (numeral : Text.IsNatural value number) (otherNumeral : Text.IsNatural other otherNumber)
    (apart : otherNumber ≠ number) : sizeOf other otherNumber ≠ sizeOf value number := by
  unfold sizeOf
  by_cases zero : value = ['0']
  · have := numeral.eq_zero zero
    by_cases otherZero : other = ['0']
    · have := otherNumeral.eq_zero otherZero
      omega
    · simp [zero, otherZero]
  · by_cases otherZero : other = ['0'] <;> simp [zero, otherZero, apart]

/-! ## Lines and files -/

section Line

variable {path line : Bytes} {limit : Limit} {value : Text} {number : Nat}
  (parted : Parted line limit.key.name.toList value) (numeral : Text.IsNatural value number)

include parted numeral

/-- A line with a numeral that is not too large sets its limit, -/
theorem tells_of_small (small : number < numberBound) (place : Nat) :
    Tells path place line (.ok (some (limit.setting (sizeOf value number)))) :=
  .given parted (limit.means_iff.mpr ⟨_, (isLimit_iff numeral).mpr ⟨small, rfl⟩, rfl⟩)

/-- and any other is refused. -/
theorem tells_of_large (large : numberBound ≤ number) (place : Nat) :
    Tells path place line (.error (limit.key.refusal value)) := by
  refine .refused parted fun setting means => ?_
  obtain ⟨size, isLimit, _⟩ := limit.means_iff.mp means
  exact absurd ((isLimit_iff numeral).mp isLimit).1 (Nat.not_lt.mpr large)

end Line

theorem not_offends_of_tells {path line : Bytes} {place : Nat} {told : Option Setting}
    (tells : Tells path place line (.ok told)) : ¬ Offends path line := by
  rintro ⟨other, fault, offends⟩
  have read := readLine_of_tells (tells.renumber other)
  rw [readLine_of_tells offends] at read
  cases read

/-- Lines that tell the same, one by one, are read alike. -/
theorem readLines_congr {path : Bytes} {lines others : List Bytes}
    (same : List.Forall₂ (fun line other => ∀ place, readLine path place other =
      readLine path place line) lines others) (start : Nat) :
    readLines path start others = readLines path start lines := by
  induction same generalizing start with
  | nil => rfl
  | cons first _ ih => rw [readLines_cons, readLines_cons, first, ih]

instance (text : Text) : Decidable (IsIdle text) := decidable_of_iff _ isIdle_iff

instance (line : Bytes) (key value : Text) : Decidable (Parted line key value) :=
  decidable_of_iff
    (∃ text ∈ Utf8.decode? line, ¬ IsIdle text ∧ ∃ parts ∈ splitColon (Text.trim text),
      Text.trim parts.1 = key ∧ Text.trim parts.2 = value) <| by
    constructor
    · rintro ⟨text, decoded, busy, ⟨before, after⟩, cut, key, value⟩
      obtain ⟨whole, plain⟩ := splitColon_eq_some_iff.mp cut
      exact ⟨text, before, after, Utf8.decode?_eq_some_iff.mp decoded, busy, whole, plain, key,
        value⟩
    · rintro ⟨text, before, after, spelled, busy, whole, plain, key, value⟩
      exact ⟨text, Utf8.decode?_eq_some_iff.mpr spelled, busy, (before, after),
        splitColon_eq_some_iff.mpr ⟨whole, plain⟩, key, value⟩

/-- A content in which a line between others gives a limit a value. -/
def Gives (limit : Limit) (before : List Bytes) (value : Text) (after : List Bytes)
    (content : Bytes) : Prop :=
  ∃ line, Text.lines content = before ++ line :: after ∧ Parted line limit.key.name.toList value

/-- Two files that have the same lines but for the value that one line gives a limit. -/
def DifferIn (limit : Limit) (files others : Files) (here : NodeId) (path : Bytes)
    (before after : List Bytes) (value other : Text) : Prop :=
  ∃ content otherContent, files.read here path = .ok content ∧
    others.read here path = .ok otherContent ∧ Gives limit before value after content ∧
    Gives limit before other after otherContent

/-- How two such files load. -/
structure LoadsByNumber (limit : Limit) (files others : Files) (here : NodeId) (path : Bytes)
    (before after : List Bytes) (value other : Text) : Prop where
  /-- Numerals of one number come to the same, as long as the false word `0` is not one of them, -/
  same : ∀ number, Text.IsNatural value number → Text.IsNatural other number →
    number < numberBound → (other = ['0'] ↔ value = ['0']) →
    ofFile others here path = ofFile files here path
  /-- so that the same is loaded from the file wherever it is asked for or found. -/
  load : ∀ number, Text.IsNatural value number → Text.IsNatural other number →
    number < numberBound → (other = ['0'] ↔ value = ['0']) →
    ∀ asked home, file? files here asked home = some path →
      file? others here asked home = some path →
      Settings.load others here asked home = Settings.load files here asked home
  /-- A numeral that is not too large is as good as its file is without it. -/
  accepted : ∀ number, Text.IsNatural value number → number < numberBound →
    ((∃ settings, ofFile files here path = .ok settings) ↔
      ∀ line ∈ before ++ after, ¬ Offends path line)
  /-- If no later line is for the limit, it is set to that number, and `0` lifts it. -/
  set : ∀ number settings, Text.IsNatural value number → ofFile files here path = .ok settings →
    (∀ later ∈ after, ¬ HasKey limit.key later) →
    limit.size settings = if value = ['0'] then none else some number
  /-- So numerals of different numbers come to different settings. -/
  different : ∀ number otherNumber settings otherSettings, Text.IsNatural value number →
    Text.IsNatural other otherNumber → otherNumber ≠ number →
    ofFile files here path = .ok settings → ofFile others here path = .ok otherSettings →
    (∀ later ∈ after, ¬ HasKey limit.key later) → limit.size otherSettings ≠ limit.size settings
  /-- A numeral that is too large is refused, in its own words if it comes first. -/
  refused : ∀ number, Text.IsNatural value number → numberBound ≤ number →
    ∃ fault, ofFile files here path = .error fault ∧
      ((∀ earlier ∈ before, ¬ Offends path earlier) → fault = limit.key.refusal value)

section Content

variable {limit : Limit} {path content : Bytes} {before after : List Bytes} {value : Text}
  {number : Nat} (given : Gives limit before value after content)
  (numeral : Text.IsNatural value number)

include given numeral

/-- Of a content with a numeral that is not too large the other lines decide whether it is read. -/
theorem ofContent_of_small (small : number < numberBound) :
    (∃ settings, ofContent path content = .ok settings) ↔
      ∀ line ∈ before ++ after, ¬ Offends path line := by
  obtain ⟨line, cut, parted⟩ := given
  have good : ¬ Offends path line :=
    not_offends_of_tells (tells_of_small parted numeral small 0)
  rw [ofContent_eq_ok_iff, cut, List.forall_mem_append, List.forall_mem_append,
    List.forall_mem_cons]
  simp only [good, not_false_eq_true, true_and]

/-- A numeral that is too large fails the content that it stands in. -/
theorem ofContent_of_large (large : numberBound ≤ number) :
    ∃ fault, ofContent path content = .error fault ∧
      ((∀ earlier ∈ before, ¬ Offends path earlier) → fault = limit.key.refusal value) := by
  obtain ⟨line, cut, parted⟩ := given
  have tells (place : Nat) : Tells path place line (.error (limit.key.refusal value)) :=
    tells_of_large parted numeral large place
  by_cases good : ∀ earlier ∈ before, ¬ Offends path earlier
  · exact ⟨_, ofContent_of_offended cut good (tells _), fun _ => rfl⟩
  · cases read : ofContent path content with
    | error fault => exact ⟨fault, rfl, fun earlier => absurd earlier good⟩
    | ok settings =>
      have all := ofContent_eq_ok_iff.mp ⟨settings, read⟩
      exact absurd ⟨0, _, tells 0⟩ (all line (by simp [cut]))

/-- The size of a limit that no later line is for. -/
theorem size_of_ofContent {settings : Settings} (read : ofContent path content = .ok settings)
    (later : ∀ other ∈ after, ¬ HasKey limit.key other) :
    limit.size settings = sizeOf value number := by
  have small : number < numberBound := by
    by_contra large
    obtain ⟨fault, failed, _⟩ := ofContent_of_large given numeral (Nat.not_lt.mp large)
    rw [read] at failed
    cases failed
  obtain ⟨line, cut, parted⟩ := given
  have tells : Tells path 0 line (.ok (some (limit.setting (sizeOf value number)))) :=
    tells_of_small parted numeral small 0
  rw [← limit.key_setting (sizeOf value number)] at later
  have last := only_of_last read cut tells later
  have size := congrArg limit.size last
  rwa [limit.key_setting, limit.size_only, limit.size_set] at size

end Content

/-- Contents that differ in the numeral of one number only are read alike. -/
theorem ofContent_of_sameNumber {limit : Limit} {path content otherContent : Bytes}
    {before after : List Bytes} {value other : Text} {number : Nat}
    (given : Gives limit before value after content)
    (otherGiven : Gives limit before other after otherContent)
    (numeral : Text.IsNatural value number) (otherNumeral : Text.IsNatural other number)
    (small : number < numberBound) (zero : other = ['0'] ↔ value = ['0']) :
    ofContent path otherContent = ofContent path content := by
  obtain ⟨line, cut, parted⟩ := given
  obtain ⟨otherLine, otherCut, otherParted⟩ := otherGiven
  have same : sizeOf other number = sizeOf value number := by simp only [sizeOf, zero]
  have alike (place : Nat) : readLine path place otherLine = readLine path place line := by
    rw [readLine_of_tells (tells_of_small otherParted otherNumeral small place), same,
      readLine_of_tells (tells_of_small parted numeral small place)]
  have unchanged (lines : List Bytes) : List.Forall₂ (fun line other => ∀ place,
      readLine path place other = readLine path place line) lines lines :=
    List.forall₂_same.mpr fun _ _ _ => rfl
  rw [ofContent_eq, ofContent_eq, cut, otherCut,
    readLines_congr (List.rel_append (unchanged before) (.cons alike (unchanged after)))]

/-- **A numeric limit means its number**, in whatever way it is written, `0` apart. -/
theorem load_byNumber {limit : Limit} {files others : Files} {here : NodeId} {path : Bytes}
    {before after : List Bytes} {value other : Text}
    (differ : DifferIn limit files others here path before after value other) :
    LoadsByNumber limit files others here path before after value other := by
  obtain ⟨content, otherContent, read, otherRead, given, otherGiven⟩ := differ
  have file := ofFile_of_read read
  have otherFile := ofFile_of_read otherRead
  have same (number : Nat) (numeral : Text.IsNatural value number)
      (otherNumeral : Text.IsNatural other number) (small : number < numberBound)
      (zero : other = ['0'] ↔ value = ['0']) :
      ofFile others here path = ofFile files here path := by
    rw [file, otherFile]
    exact ofContent_of_sameNumber given otherGiven numeral otherNumeral small zero
  constructor
  case same => exact same
  case load =>
    intro number numeral otherNumeral small zero asked home found otherFound
    refine load_congr (otherFound.trans found.symm) fun goal reached => ?_
    obtain rfl : path = goal := Option.some.inj (found.symm.trans reached)
    exact same number numeral otherNumeral small zero
  case accepted =>
    intro number numeral small
    rw [file]
    exact ofContent_of_small given numeral small
  case set =>
    intro number settings numeral loaded later
    rw [file] at loaded
    exact size_of_ofContent given numeral loaded later
  case different =>
    intro number otherNumber settings otherSettings numeral otherNumeral apart loaded otherLoaded
      later
    rw [file] at loaded
    rw [otherFile] at otherLoaded
    rw [size_of_ofContent given numeral loaded later,
      size_of_ofContent otherGiven otherNumeral otherLoaded later]
    exact sizeOf_ne numeral otherNumeral apart
  case refused =>
    intro number numeral large
    rw [file]
    exact ofContent_of_large given numeral large

/-- A root directory with one file in it. -/
def onlyFile (name content : Bytes) : Files :=
  ⟨#[.directory Files.root [(name, 1)], .file 0o644 content]⟩

/-- A history limit of seven in two spellings, after a comment and before another key. -/
theorem load_byNumber_seven :
    let path := [0x63]
    let content := Bytes.ofString "# seven\nhistory-limit: 007\nshow-errors: no"
    let otherContent := Bytes.ofString "# seven\nhistory-limit: +7\nshow-errors: no"
    let files := onlyFile path content
    let others := onlyFile path otherContent
    let before := [Bytes.ofString "# seven"]
    let after := [Bytes.ofString "show-errors: no"]
    let value := "007".toList
    let other := "+7".toList
    DifferIn .historyLimit files others Files.root path before after value other ∧
      Text.IsNatural value 7 ∧ Text.IsNatural other 7 ∧
      LoadsByNumber .historyLimit files others Files.root path before after value other := by
  intro path content otherContent files others before after value other
  have differ : DifferIn .historyLimit files others Files.root path before after value other :=
    ⟨content, otherContent, by decide, by decide, ⟨Bytes.ofString "history-limit: 007", by decide⟩,
      ⟨Bytes.ofString "history-limit: +7", by decide⟩⟩
  exact ⟨differ, by decide, by decide, load_byNumber differ⟩

/-- The same number is not enough where one of the numerals is the false word `0`: `truncation: 0`
truncates nothing, and `truncation: 00` truncates to nothing. Nor do different numbers make a
difference if a later line says something else. -/
theorem not_load_byNumber :
    let loaded := fun files here path => (Settings.load files here (some path) none).settings
    (¬ ∀ (limit : Limit) (files others : Files) (here : NodeId) (path : Bytes)
      (before after : List Bytes) (value other : Text) (number : Nat),
      DifferIn limit files others here path before after value other →
      Text.IsNatural value number → Text.IsNatural other number → number < numberBound →
      loaded others here path = loaded files here path) ∧
    ¬ ∀ (limit : Limit) (files others : Files) (here : NodeId) (path : Bytes)
      (before after : List Bytes) (value other : Text) (number otherNumber : Nat),
      DifferIn limit files others here path before after value other →
      Text.IsNatural value number → Text.IsNatural other otherNumber →
      0 < number → number < otherNumber → otherNumber < numberBound →
      loaded others here path ≠ loaded files here path := by
  intro loaded
  constructor
  case left =>
    intro alike
    let content := Bytes.ofString "truncation: 0"
    let otherContent := Bytes.ofString "truncation: 00"
    let files := onlyFile [0x63] content
    let others := onlyFile [0x63] otherContent
    have differ :
        DifferIn .truncation files others Files.root [0x63] [] [] "0".toList "00".toList :=
      ⟨content, otherContent, by decide, by decide, ⟨content, by decide⟩,
        ⟨otherContent, by decide⟩⟩
    have same := alike _ _ _ _ _ _ _ _ _ 0 differ (by decide) (by decide) (by decide)
    have off : loaded files Files.root [0x63] = .ok { truncation := none } := by decide
    have zero : loaded others Files.root [0x63] = .ok { truncation := some 0 } := by decide
    rw [off, zero] at same
    cases same
  case right =>
    intro apart
    let content := Bytes.ofString "truncation: 1\ntruncation: 3"
    let otherContent := Bytes.ofString "truncation: 2\ntruncation: 3"
    let files := onlyFile [0x63] content
    let others := onlyFile [0x63] otherContent
    have differ : DifferIn .truncation files others Files.root [0x63] []
        [Bytes.ofString "truncation: 3"] "1".toList "2".toList :=
      ⟨content, otherContent, by decide, by decide, ⟨Bytes.ofString "truncation: 1", by decide⟩,
        ⟨Bytes.ofString "truncation: 2", by decide⟩⟩
    have first : loaded files Files.root [0x63] = .ok { truncation := some 3 } := by decide
    have second : loaded others Files.root [0x63] = .ok { truncation := some 3 } := by decide
    exact apart _ _ _ _ _ _ _ _ _ 1 2 differ (by decide) (by decide) (by decide) (by decide)
      (by decide) (second.trans first.symm)

end Settings

end LineShell
