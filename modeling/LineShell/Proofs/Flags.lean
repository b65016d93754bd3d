import LineShell.CommandLine.Options
import LineShell.Proofs.Command

/-!
# Flags for a terminal

Two of the flags choose how a session at a terminal looks and where it keeps its history. They may
be added to arguments that are accepted, or left out, and the same settings file is asked for
(`config_of_extended`). What an argument means does not depend on those before it (`Sense`), and a
value that has been given may be settled at once (`readFrom_settles`, `readFrom_of_settle`).
-/
namespace LineShell.Options

/-- What an argument means by itself. -/
inductive Sense where
  | plain (argument : Bytes)
  | expects (flag : Flag)
  | gives (flag : Flag) (value : Bytes)
  | raises
  /-- It ends the reading, be it with a request or with a mistake. -/
  | ends

/-- An argument of a flag that is known. -/
def Sense.ofFlag (flag : Flag) : Option Bytes → Sense
  | some value => if flag.takesValue then .gives flag value else .ends
  | none => if flag.takesValue then .expects flag else if flag = .noBanner then .raises else .ends

def Sense.ofArgument : Bytes → Sense
  | 0x2D :: 0x2D :: rest =>
    let name := rest.takeWhile (· != 0x3D)
    match (Utf8.decode? name).bind Flag.ofName? with
    | none => .ends
    | some flag =>
      .ofFlag flag (if name.length < rest.length then some (rest.drop (name.length + 1)) else none)
  | 0x2D :: _ :: _ => .ends
  | argument => .plain argument

namespace Progress

variable {progress other settled : Progress}

theorem pending_of_give {flag : Flag} {value : Bytes}
    (given : progress.give flag value = .ok other) : other.pending = none := by
  unfold give at given
  split at given
  · cases given
  · split at given
    · cases given
    · cases given
      rfl

theorem pending_of_settle (settles : progress.settle = .ok settled) : settled.pending = none := by
  unfold settle at settles
  split at settles
  · next none =>
    cases settles
    exact none
  · cases settles
  · exact pending_of_give settles

theorem settle_of_pending (none : progress.pending = none) : progress.settle = .ok progress := by
  rw [settle, none]

/-- A flag that waits for its value cannot be settled. -/
theorem settle_of_waiting {flag : Flag} (waits : progress.pending = some (flag, none)) :
    progress.settle = .error (.refuse (.missingValue flag)) := by
  rw [settle, waits]

/-- What an argument makes of the progress, if it does not end the reading. -/
inductive Takes (progress : Progress) : Sense → Progress → Prop where
  | value {flag : Flag} {argument : Bytes} (waits : progress.pending = some (flag, none)) :
      Takes progress (.plain argument) { progress with pending := some (flag, some argument) }
  | expects {flag : Flag} {settled : Progress} (settles : progress.settle = .ok settled) :
      Takes progress (.expects flag) { settled with pending := some (flag, none) }
  | gives {flag : Flag} {value : Bytes} {settled other : Progress}
      (settles : progress.settle = .ok settled) (given : settled.give flag value = .ok other) :
      Takes progress (.gives flag value) other
  | raises {settled : Progress} (settles : progress.settle = .ok settled)
      (unused : settled.used.contains .noBanner = false) :
      Takes progress .raises
        { settled with
          options := { settled.options with noBanner := true }
          used := settled.used ++ [.noBanner] }

/-- A single dash and a letter end the reading. -/
theorem letters_ne_ok (bytes : Bytes) : progress.letters bytes ≠ .ok other := by
  intro read
  unfold letters at read
  split at read
  · split at read
    · next flag known =>
      obtain ⟨_, _, raised⟩ := bind_eq_ok.mp read
      cases flag with
      | help | version => cases raised
      | config | history | noBanner =>
        unfold Flag.ofLetter? at known
        split at known <;> cases known
    · cases read
  · cases read

theorem raise_eq_ok_iff {flag : Flag} (valueless : flag.takesValue = false) :
    progress.raise flag = .ok other ↔ Takes progress (.ofFlag flag none) other := by
  have sense : Sense.ofFlag flag none = if flag = .noBanner then .raises else .ends := by
    rw [Sense.ofFlag, if_neg (by simp [valueless])]
  rw [sense, raise, bind_eq_ok]
  cases flag with
  | config | history => cases valueless
  | help | version =>
    constructor
    · rintro ⟨settled, _, raised⟩
      cases raised
    · intro takes
      cases takes
  | noBanner =>
    constructor
    · rintro ⟨settled, settles, raised⟩
      cases used : settled.used.contains .noBanner with
      | true => simp only [used, if_true] at raised; cases raised
      | false =>
        simp only [used] at raised
        cases raised
        exact .raises settles used
    · intro takes
      cases takes with
      | raises settles unused =>
        refine ⟨_, settles, ?_⟩
        simp only [unused]
        rfl

theorem long_eq_ok_iff {rest : Bytes} :
    progress.long rest = .ok other ↔
      Takes progress (.ofArgument (0x2D :: 0x2D :: rest)) other := by
  simp only [long, Sense.ofArgument]
  generalize rest.takeWhile (· != 0x3D) = name
  generalize (if name.length < rest.length then _ else _) = value
  cases (Utf8.decode? name).bind Flag.ofName? with
  | none =>
    constructor
    · intro refused
      cases refused
    · intro takes
      cases takes
  | some flag =>
    cases takesValue : flag.takesValue with
    | false =>
      cases value with
      | none =>
        simp only [takesValue]
        exact raise_eq_ok_iff takesValue
      | some value =>
        simp only [Sense.ofFlag, takesValue]
        constructor
        · intro refused
          cases refused
        · intro takes
          cases takes
    | true =>
      cases value with
      | none =>
        simp only [Sense.ofFlag, takesValue, if_true]
        rw [bind_eq_ok]
        constructor
        · rintro ⟨settled, settles, taken⟩
          cases taken
          exact .expects settles
        · intro takes
          cases takes with
          | expects settles => exact ⟨_, settles, rfl⟩
      | some value =>
        simp only [Sense.ofFlag, takesValue, if_true]
        rw [bind_eq_ok]
        constructor
        · rintro ⟨settled, settles, given⟩
          exact .gives settles given
        · intro takes
          cases takes with
          | gives settles given => exact ⟨_, settles, given⟩

theorem plain_eq_ok_iff {argument : Bytes} :
    progress.plain argument = .ok other ↔ Takes progress (.plain argument) other := by
  unfold plain
  constructor
  · intro taken
    split at taken
    · next waits =>
      cases taken
      exact .value waits
    · cases taken
  · intro takes
    cases takes with
    | value waits => rw [waits]

/-- An argument is taken by what it means. -/
theorem take_eq_ok_iff {argument : Bytes} :
    progress.take argument = .ok other ↔ Takes progress (.ofArgument argument) other := by
  unfold take
  split
  · exact long_eq_ok_iff
  · next first rest single =>
    have ends : Sense.ofArgument (0x2D :: first :: rest) = .ends := by
      rw [Sense.ofArgument]
      exact single
    rw [ends]
    constructor
    · intro read
      exact absurd read (letters_ne_ok _)
    · intro takes
      cases takes
  · next double single =>
    have plain : Sense.ofArgument argument = .plain argument := by
      rw [Sense.ofArgument]
      · exact double
      · exact single
    rw [plain]
    exact plain_eq_ok_iff

/-- A value may be settled before the next argument is taken. -/
theorem takes_settled_iff (settles : progress.settle = .ok settled) {sense : Sense} :
    Takes settled sense other ↔ Takes progress sense other := by
  have again := settle_of_pending (pending_of_settle settles)
  constructor
  · intro takes
    cases takes with
    | value waits =>
      rw [settle_of_waiting waits] at again
      cases again
    | expects first =>
      cases again.symm.trans first
      exact .expects settles
    | gives first given =>
      cases again.symm.trans first
      exact .gives settles given
    | raises first unused =>
      cases again.symm.trans first
      exact .raises settles unused
  · intro takes
    cases takes with
    | value waits =>
      rw [settle_of_waiting waits] at settles
      cases settles
    | expects first =>
      cases settles.symm.trans first
      exact .expects again
    | gives first given =>
      cases settles.symm.trans first
      exact .gives again given
    | raises first unused =>
      cases settles.symm.trans first
      exact .raises again unused

/-- A flag that waits takes the next argument for its value. -/
theorem takes_of_waiting {flag : Flag} (waits : progress.pending = some (flag, none))
    {sense : Sense} (takes : Takes progress sense other) :
    ∃ value, other = { progress with pending := some (flag, some value) } := by
  have stuck := settle_of_waiting waits
  cases takes with
  | @value own argument also =>
    obtain rfl : flag = own := by
      rw [waits] at also
      simpa using also
    exact ⟨argument, rfl⟩
  | expects settles | gives settles | raises settles =>
    rw [stuck] at settles
    cases settles

end Progress

/-! ## Whole readings -/

variable {progress other settled result : Progress}

theorem readFrom_cons_eq_ok_iff {argument : Bytes} {rest : List Bytes} :
    readFrom progress (argument :: rest) = .ok result ↔
      (argument = [0x2D, 0x2D] ∧ rest = [] ∧ progress.settle = .ok result) ∨
        argument ≠ [0x2D, 0x2D] ∧
          ∃ next, progress.Takes (.ofArgument argument) next ∧ readFrom next rest = .ok result := by
  by_cases last : argument = [0x2D, 0x2D]
  · cases rest with
    | nil => simp [readFrom, last]
    | cons extra rest => simp [readFrom, last]
  · have step : readFrom progress (argument :: rest) =
        progress.take argument >>= fun next => readFrom next rest := if_neg last
    rw [step, bind_eq_ok]
    simp only [Progress.take_eq_ok_iff, last, false_and, false_or, ne_eq, not_false_eq_true,
      true_and]

/-- A reading goes on from a value that is settled as from one that is not. -/
theorem readFrom_of_settle (settles : progress.settle = .ok settled) (arguments : List Bytes) :
    readFrom settled arguments = .ok result ↔ readFrom progress arguments = .ok result := by
  have again := Progress.settle_of_pending (Progress.pending_of_settle settles)
  cases arguments with
  | nil =>
    show settled.settle = .ok result ↔ progress.settle = .ok result
    rw [again, settles]
  | cons argument rest =>
    simp only [readFrom_cons_eq_ok_iff, Progress.takes_settled_iff settles, again, settles]

/-- A value that is there can be settled, if all goes well after it. -/
theorem readFrom_settles (ready : ∀ flag, progress.pending ≠ some (flag, none))
    {arguments : List Bytes} (read : readFrom progress arguments = .ok result) :
    ∃ settled, progress.settle = .ok settled := by
  cases arguments with
  | nil => exact ⟨result, read⟩
  | cons argument rest =>
    rcases readFrom_cons_eq_ok_iff.mp read with ⟨_, _, settles⟩ | ⟨_, next, takes, _⟩
    · exact ⟨result, settles⟩
    · generalize Sense.ofArgument argument = sense at takes
      cases takes with
      | value waits => exact absurd waits (ready _)
      | expects settles | gives settles | raises settles => exact ⟨_, settles⟩

/-! ## Readings that differ in flags for a terminal -/

/-- One progress has used all that another has, with the same settings file. -/
structure Progress.Covers (progress other : Progress) : Prop where
  config : other.options.config = progress.options.config
  used : progress.used ⊆ other.used
  pending : other.pending = progress.pending

namespace Progress.Covers

variable {longer : Progress} (covers : progress.Covers longer)

include covers

theorem unused {flag : Flag} (unused : longer.used.contains flag = false) :
    progress.used.contains flag = false := by
  rw [List.contains_eq_mem, decide_eq_false_iff_not] at unused ⊢
  exact fun used => unused (covers.used used)

theorem used_append (flag : Flag) : progress.used ++ [flag] ⊆ longer.used ++ [flag] := by
  intro any within
  rw [List.mem_append] at within ⊢
  exact within.imp_left fun used => covers.used used

theorem give {flag : Flag} {value : Bytes} (given : longer.give flag value = .ok other) :
    ∃ shorter, progress.give flag value = .ok shorter ∧ shorter.Covers other := by
  unfold Progress.give at given ⊢
  split at given
  · cases given
  · next unused =>
    rw [Bool.not_eq_true] at unused
    simp only [covers.unused unused]
    split at given
    · cases given
    · next some =>
      cases given
      rw [if_neg Bool.false_ne_true, if_neg some]
      refine ⟨_, rfl, ?_, covers.used_append flag, rfl⟩
      cases flag with
      | config => rfl
      | history | noBanner | help | version => exact covers.config

theorem settle (settles : longer.settle = .ok other) :
    ∃ shorter, progress.settle = .ok shorter ∧ shorter.Covers other := by
  unfold Progress.settle at settles ⊢
  rw [covers.pending] at settles
  split at settles
  · cases settles
    exact ⟨progress, rfl, covers⟩
  · cases settles
  · have rest : ({ progress with pending := none } : Progress).Covers
        { longer with pending := none } := ⟨covers.config, covers.used, rfl⟩
    exact rest.give settles

theorem takes {sense : Sense} (takes : longer.Takes sense other) :
    ∃ shorter, progress.Takes sense shorter ∧ shorter.Covers other := by
  cases takes with
  | value waits =>
    exact ⟨_, .value (covers.pending.symm.trans waits), covers.config, covers.used, rfl⟩
  | expects settles =>
    obtain ⟨shorter, settles, covers⟩ := covers.settle settles
    exact ⟨_, .expects settles, covers.config, covers.used, rfl⟩
  | gives settles given =>
    obtain ⟨shorter, settles, covers⟩ := covers.settle settles
    obtain ⟨given, gives, covers⟩ := covers.give given
    exact ⟨given, .gives settles gives, covers⟩
  | raises settles unused =>
    obtain ⟨shorter, settles, covers⟩ := covers.settle settles
    exact ⟨_, .raises settles (covers.unused unused), covers.config, covers.used_append .noBanner,
      covers.pending⟩

/-- What is read after more flags is read after fewer. -/
theorem readFrom {arguments : List Bytes} (read : Options.readFrom longer arguments = .ok result) :
    ∃ shorter, Options.readFrom progress arguments = .ok shorter ∧ shorter.Covers result := by
  induction arguments generalizing progress longer with
  | nil => exact covers.settle read
  | cons argument rest ih =>
    rcases readFrom_cons_eq_ok_iff.mp read with ⟨last, none, settles⟩ | ⟨more, next, takes, read⟩
    · obtain ⟨shorter, settles, covers⟩ := covers.settle settles
      exact ⟨shorter, readFrom_cons_eq_ok_iff.mpr (.inl ⟨last, none, settles⟩), covers⟩
    · obtain ⟨shorter, takes, covers⟩ := covers.takes takes
      obtain ⟨final, read, covers⟩ := ih covers read
      exact ⟨final, readFrom_cons_eq_ok_iff.mpr (.inr ⟨more, shorter, takes, read⟩), covers⟩

end Progress.Covers

/-- Flags that matter at a terminal only, with their values. -/
inductive ForTerminal : List Bytes → Prop where
  | noBanner : ForTerminal [Bytes.ofString "--no-banner"]
  | history (path : Bytes) : ForTerminal [Bytes.ofString "--history", path]
  | joined (path : Bytes) : ForTerminal [Bytes.ofString "--history=" ++ path]

/-- Arguments to which such flags have been added, in any places. -/
inductive Extended (bare : List Bytes) : List Bytes → Prop where
  | bare : Extended bare bare
  | added {before extra after : List Bytes} (extended : Extended bare (before ++ after))
      (only : ForTerminal extra) : Extended bare (before ++ (extra ++ after))

theorem ForTerminal.ne_nil {extra : List Bytes} (only : ForTerminal extra) : extra ≠ [] := by
  cases only <;> exact List.cons_ne_nil _ _

theorem covers_of_give {value : Bytes} (ready : progress.pending = none)
    (given : progress.give .history value = .ok other) : progress.Covers other := by
  have pending := (Progress.pending_of_give given).trans ready.symm
  unfold Progress.give at given
  split at given
  · cases given
  · split at given
    · cases given
    · cases given
      exact ⟨rfl, List.subset_append_left _ _, pending⟩

/-- The flags themselves may be passed over. -/
theorem readFrom_of_forTerminal {extra after : List Bytes} (only : ForTerminal extra)
    (read : readFrom progress (extra ++ after) = .ok result) :
    ∃ shorter, readFrom progress after = .ok shorter ∧
      shorter.options.config = result.options.config := by
  have passed {settled next : Progress} (settles : progress.settle = .ok settled)
      (covers : settled.Covers next) (read : readFrom next after = .ok result) :
      ∃ shorter, readFrom progress after = .ok shorter ∧
        shorter.options.config = result.options.config := by
    obtain ⟨shorter, read, covers⟩ := covers.readFrom read
    exact ⟨shorter, (readFrom_of_settle settles after).mp read, covers.config.symm⟩
  cases only with
  | noBanner =>
    have sense : Sense.ofArgument (Bytes.ofString "--no-banner") = .raises := rfl
    rcases readFrom_cons_eq_ok_iff.mp read with ⟨last, _⟩ | ⟨_, next, takes, read⟩
    · exact absurd last (by decide)
    · rw [sense] at takes
      cases takes with
      | @raises settled settles unused =>
        have covers : settled.Covers
            { settled with
              options := { settled.options with noBanner := true }
              used := settled.used ++ [.noBanner] } :=
          ⟨rfl, List.subset_append_left _ _, rfl⟩
        exact passed settles covers read
  | joined path =>
    have sense : Sense.ofArgument (Bytes.ofString "--history=" ++ path) = .gives .history path :=
      rfl
    rcases readFrom_cons_eq_ok_iff.mp read with ⟨last, _⟩ | ⟨_, next, takes, read⟩
    · cases last
    · rw [sense] at takes
      cases takes with
      | gives settles given =>
        exact passed settles (covers_of_give (Progress.pending_of_settle settles) given) read
  | history path =>
    have sense : Sense.ofArgument (Bytes.ofString "--history") = .expects .history := rfl
    rcases readFrom_cons_eq_ok_iff.mp read with ⟨last, _⟩ | ⟨_, next, takes, read⟩
    · exact absurd last (by decide)
    · rw [sense] at takes
      cases takes with
      | @expects _ settled settles =>
        rcases readFrom_cons_eq_ok_iff.mp read with ⟨_, _, lost⟩ | ⟨_, given, takes, read⟩
        · rw [Progress.settle_of_waiting rfl] at lost
          cases lost
        · obtain ⟨value, rfl⟩ := Progress.takes_of_waiting rfl takes
          obtain ⟨final, settlesAgain⟩ := readFrom_settles (by simp) read
          have ready := Progress.pending_of_settle settles
          have given : settled.give .history value = .ok final := by
            have same : ({ settled with pending := none } : Progress) = settled := by rw [← ready]
            rw [← same]
            exact settlesAgain
          exact passed settles (covers_of_give ready given)
            ((readFrom_of_settle settlesAgain after).mpr read)

theorem readFrom_of_added {before extra after : List Bytes} (only : ForTerminal extra)
    (read : readFrom progress (before ++ (extra ++ after)) = .ok result) :
    ∃ shorter, readFrom progress (before ++ after) = .ok shorter ∧
      shorter.options.config = result.options.config := by
  induction before generalizing progress with
  | nil => exact readFrom_of_forTerminal only read
  | cons argument before ih =>
    rcases readFrom_cons_eq_ok_iff.mp read with ⟨_, none, _⟩ | ⟨more, next, takes, read⟩
    · have none := (List.append_eq_nil_iff.mp none).2
      exact absurd (List.append_eq_nil_iff.mp none).1 only.ne_nil
    · obtain ⟨shorter, read, config⟩ := ih read
      exact ⟨shorter, readFrom_cons_eq_ok_iff.mpr (.inr ⟨more, next, takes, read⟩), config⟩

/-! ## What ends a reading -/

/-- Whatever ends a reading early, it is no request to run. -/
def EndsOtherwise {α : Type} (value : Except Request α) : Prop :=
  ∀ options, value ≠ .error (.run options)

theorem EndsOtherwise.bind {α β : Type} {value : Except Request α} {next : α → Except Request β}
    (first : EndsOtherwise value) (later : ∀ result, EndsOtherwise (next result)) :
    EndsOtherwise (value >>= next) := by
  intro options ended
  rcases bind_eq_error.mp ended with early | ⟨result, _, late⟩
  · exact first options early
  · exact later result options late

namespace Progress

theorem endsOtherwise_give (progress : Progress) (flag : Flag) (value : Bytes) :
    EndsOtherwise (progress.give flag value) := by
  unfold give
  split
  · exact nofun
  · split <;> exact nofun

theorem endsOtherwise_settle (progress : Progress) : EndsOtherwise progress.settle := by
  unfold settle
  split
  · exact nofun
  · exact nofun
  · exact endsOtherwise_give _ _ _

theorem endsOtherwise_raise (progress : Progress) (flag : Flag) :
    EndsOtherwise (progress.raise flag) := by
  refine (endsOtherwise_settle progress).bind fun settled => ?_
  cases flag with
  | help | version => exact nofun
  | config | history | noBanner =>
    simp only
    split <;> exact nofun

theorem endsOtherwise_take (progress : Progress) (argument : Bytes) :
    EndsOtherwise (progress.take argument) := by
  unfold take
  split
  · unfold long
    simp only
    split
    · exact nofun
    · split
      · exact (endsOtherwise_settle progress).bind fun settled => endsOtherwise_give _ _ _
      · exact (endsOtherwise_settle progress).bind fun settled => nofun
      · exact nofun
      · exact endsOtherwise_raise _ _
  · unfold letters
    split
    · split
      · exact endsOtherwise_raise _ _
      · exact nofun
    · exact nofun
  · unfold plain
    split <;> exact nofun

end Progress

theorem endsOtherwise_readFrom (progress : Progress) (arguments : List Bytes) :
    EndsOtherwise (readFrom progress arguments) := by
  induction arguments generalizing progress with
  | nil => exact Progress.endsOtherwise_settle progress
  | cons argument rest ih =>
    unfold readFrom
    split
    · cases rest with
      | nil => exact Progress.endsOtherwise_settle progress
      | cons extra rest => exact nofun
    · exact (Progress.endsOtherwise_take progress argument).bind fun next => ih next

theorem read_eq_run_iff {arguments : List Bytes} {options : Options} :
    read arguments = .run options ↔
      ∃ progress, readFrom {} arguments = .ok progress ∧ progress.options = options := by
  unfold read
  cases ended : readFrom {} arguments with
  | ok progress => simp
  | error request =>
    have ends := endsOtherwise_readFrom {} arguments options
    rw [ended] at ends
    constructor
    · rintro rfl
      exact absurd rfl ends
    · rintro ⟨_, read, _⟩
      cases read

/-- What is accepted with more flags for a terminal is accepted with fewer, with the same settings
file. -/
theorem read_of_extended {bare arguments : List Bytes} (extended : Extended bare arguments)
    {options : Options} (accepted : read arguments = .run options) :
    ∃ fewer, read bare = .run fewer ∧ fewer.config = options.config := by
  induction extended generalizing options with
  | bare => exact ⟨options, accepted, rfl⟩
  | added _ only ih =>
    obtain ⟨progress, read, rfl⟩ := read_eq_run_iff.mp accepted
    obtain ⟨shorter, read, config⟩ := readFrom_of_added only read
    obtain ⟨fewer, accepted, same⟩ := ih (read_eq_run_iff.mpr ⟨shorter, read, rfl⟩)
    exact ⟨fewer, accepted, same.trans config⟩

/-- So flags for a terminal do not decide which settings file is asked for. -/
theorem config_of_extended {bare arguments others : List Bytes} (extended : Extended bare arguments)
    (otherwise : Extended bare others) {options otherOptions : Options}
    (accepted : read arguments = .run options) (otherAccepted : read others = .run otherOptions) :
    otherOptions.config = options.config := by
  obtain ⟨fewer, bareAccepted, config⟩ := read_of_extended extended accepted
  obtain ⟨also, again, otherConfig⟩ := read_of_extended otherwise otherAccepted
  obtain rfl : fewer = also := by
    rw [bareAccepted] at again
    simpa using again
  exact otherConfig.symm.trans config

end LineShell.Options
