import LineShell.Program.Launch
import Mathlib.Data.List.Basic

/-!
# The search for a program

A search takes the first candidate that can be run, if all before it are passed over
(`searchIn_eq_ok_iff`). Where none leads to a file, the last one alone decides what is reported
(`searchIn_of_misses`): a program counts as not found if there is nothing at that place, but not if
what should be a directory there is none (`launch_of_missing`).
-/
namespace LineShell.Program

section SearchIn

variable {α : Type} {attempt : Bytes → Except Refusal α}

/-- A candidate is refused in a way that lets the search go on. -/
def IsPassedOver (attempt : Bytes → Except Refusal α) (path : Bytes) : Prop :=
  ∃ refusal, attempt path = .error refusal ∧ passedOver refusal = true

theorem searchIn_of_passedOver {path : Bytes} {refusal : Refusal}
    (refused : attempt path = .error refusal) (goes : passedOver refusal = true) (last : Refusal)
    (barred : Bool) (others : List Bytes) :
    searchIn attempt last barred (path :: others) =
      searchIn attempt refusal (barred || refusal == .denied) others := by
  rw [searchIn, refused]
  exact if_pos goes

/-- The first candidate that can be run is taken, and it is looked for no further. -/
theorem searchIn_eq_ok_iff {last : Refusal} {barred : Bool} {paths : List Bytes} {found : α} :
    searchIn attempt last barred paths = .ok found ↔
      ∃ before path after, paths = before ++ path :: after ∧
        (∀ earlier ∈ before, IsPassedOver attempt earlier) ∧ attempt path = .ok found := by
  induction paths generalizing last barred with
  | nil => simp [searchIn]
  | cons first others ih =>
    constructor
    · intro came
      cases tried : attempt first with
      | ok item =>
        rw [searchIn, tried] at came
        exact ⟨[], first, others, rfl, by simp, tried.trans came⟩
      | error refusal =>
        cases goes : passedOver refusal with
        | false => simp [searchIn, tried, goes] at came
        | true =>
          rw [searchIn_of_passedOver tried goes] at came
          obtain ⟨before, path, after, rfl, passed, runs⟩ := ih.mp came
          refine ⟨first :: before, path, after, rfl, ?_, runs⟩
          rw [List.forall_mem_cons]
          exact ⟨⟨refusal, tried, goes⟩, passed⟩
    · rintro ⟨before, path, after, cut, passed, runs⟩
      cases before with
      | nil =>
        obtain ⟨rfl, rfl⟩ := List.cons.inj cut
        rw [searchIn, runs]
      | cons earlier before =>
        obtain ⟨rfl, rfl⟩ := List.cons.inj cut
        rw [List.forall_mem_cons] at passed
        obtain ⟨⟨refusal, tried, goes⟩, passed⟩ := passed
        rw [searchIn_of_passedOver tried goes]
        exact ih.mpr ⟨before, path, after, rfl, passed, runs⟩

/-- Where every candidate misses, what becomes of the last is what becomes of all. -/
theorem searchIn_of_misses {paths : List Bytes} (last : Refusal)
    (misses : ∀ path ∈ paths,
      attempt path = .error .notFound ∨ attempt path = .error .notDirectory) :
    searchIn attempt last false paths =
      match paths.getLast? with
      | none => .error last
      | some path => attempt path := by
  induction paths generalizing last with
  | nil => rfl
  | cons first others ih =>
    rw [List.forall_mem_cons] at misses
    obtain ⟨misses, later⟩ := misses
    have goesOn (refusal : Refusal) (refused : attempt first = .error refusal)
        (goes : passedOver refusal = true) (free : (refusal == .denied) = false) :
        searchIn attempt last false (first :: others) =
          match (first :: others).getLast? with
          | none => .error last
          | some path => attempt path := by
      rw [searchIn_of_passedOver refused goes, free, Bool.or_false, ih refusal later]
      cases others with
      | nil => exact refused.symm
      | cons => rfl
    rcases misses with refused | refused
    · exact goesOn .notFound refused rfl rfl
    · exact goesOn .notDirectory refused rfl rfl

end SearchIn

/-- What becomes of one candidate. -/
def attempt (world : World) (arguments : List Bytes) (path : Bytes) : Except Refusal Image :=
  image world.files world.directory (fitsArguments world.environment arguments path) scriptDepth
    path []

theorem search_of_ne_nil (world : World) (arguments : List Bytes) {name : Bytes}
    (named : name ≠ []) :
    search world arguments name =
      searchIn (attempt world arguments) .notFound false (candidates world.environment name) :=
  if_neg named

/-- The image of a name is that of the first candidate that can be run. -/
theorem search_eq_ok_iff {world : World} {arguments : List Bytes} {name : Bytes} {found : Image} :
    search world arguments name = .ok found ↔
      name ≠ [] ∧ ∃ before path after,
        candidates world.environment name = before ++ path :: after ∧
          (∀ earlier ∈ before, IsPassedOver (attempt world arguments) earlier) ∧
          attempt world arguments path = .ok found := by
  by_cases named : name = []
  · simp [search, named]
  · rw [search_of_ne_nil world arguments named, searchIn_eq_ok_iff]
    exact (and_iff_right named).symm

/-- A launch has failed for this cause and left this status. -/
def Launched.Fails (launched : Launched) (cause : Fault.Cause) (code : Int) : Prop :=
  ∃ fault, launched.status = .error fault ∧ fault.cause = cause ∧ fault.status.code = code

/-- A path leads to no file: there is nothing at its end, or something on the way is no
directory. -/
def Misses (world : World) (path : Bytes) : Prop :=
  world.files.find world.directory path = .error .notFound ∨
    world.files.find world.directory path = .error .notDirectory

/-- Where a name is looked for: at the name itself if that has a slash, or else in each directory of
the search path. -/
def places (environment : Environment) (name : Bytes) : List Bytes :=
  if name.contains Path.slash then [name]
  else
    (searchDirectories (environment.searchPath?.getD defaultSearchPath)).map (candidate name)

/-- The last place of a name is refused like this. -/
def EndsIn (world : World) (name : Bytes) (refusal : Refusal) : Prop :=
  ∃ last, (places world.environment name).getLast? = some last ∧
    world.files.find world.directory last = .error refusal

section Missing

variable {world : World} {name path : Bytes}

/-- A path that is too long is refused for that reason. -/
theorem Misses.length_lt (misses : Misses world path) : path.length < Files.pathBound := by
  by_contra long
  have bound : Files.pathBound ≤ path.length := Nat.not_lt.mp long
  have some : path ≠ [] := by
    rintro rfl
    exact absurd bound (by decide)
  unfold Misses Files.find Files.locate at misses
  by_cases nul : path.contains 0 = true
  · simp only [if_pos nul] at misses
    rcases misses with refused | refused <;> cases refused
  · simp only [if_neg nul, if_neg some, if_pos bound] at misses
    rcases misses with refused | refused <;> cases refused

theorem length_le_candidate (name directory : Bytes) :
    directory.length ≤ (candidate name directory).length := by
  unfold candidate
  split
  · next empty => simp [empty]
  · simp

theorem candidate_ne_nil (named : name ≠ []) (directory : Bytes) :
    candidate name directory ≠ [] := by
  unfold candidate
  split
  · exact named
  · simp

/-- Directories that are short enough are all used. -/
theorem usableDirectories_eq {directories : List Bytes}
    (short : ∀ directory ∈ directories, directory.length < Files.pathBound) :
    usableDirectories directories = directories := by
  induction directories with
  | nil => rfl
  | cons directory others ih =>
    rw [List.forall_mem_cons] at short
    obtain ⟨first, later⟩ := short
    cases others with
    | nil => rw [usableDirectories, if_neg (Nat.not_le.mpr first)]
    | cons second rest =>
      rw [usableDirectories, if_neg (Nat.not_le.mpr first), ih later]
      exact List.cons_ne_nil second rest

/-- A name that misses everywhere is tried at all its places. -/
theorem candidates_eq_places (short : name.length ≤ Files.longestName)
    (missing : ∀ path ∈ places world.environment name, Misses world path) :
    candidates world.environment name = places world.environment name := by
  have whole : name.take (Files.longestName + 1) = name := List.take_of_length_le (by omega)
  unfold candidates places
  split
  · rfl
  · next bare =>
    rw [whole]
    refine congrArg (List.map (candidate name)) (usableDirectories_eq fun directory within => ?_)
    have misses := missing (candidate name directory) (by
      rw [places, if_neg bare]
      exact List.mem_map_of_mem within)
    exact Nat.lt_of_le_of_lt (length_le_candidate name directory) misses.length_lt

theorem places_ne_nil (environment : Environment) (name : Bytes) :
    places environment name ≠ [] := by
  unfold places
  split
  · exact List.cons_ne_nil _ _
  · exact fun none => Text.pieces_ne_nil _ _ (List.map_eq_nil_iff.mp none)

theorem ne_nil_of_mem_places {environment : Environment} (named : name ≠ [])
    (within : path ∈ places environment name) : path ≠ [] := by
  unfold places at within
  split at within
  · rw [List.mem_singleton.mp within]
    exact named
  · obtain ⟨directory, _, rfl⟩ := List.mem_map.mp within
    exact candidate_ne_nil named directory

/-- What leads to no file is not run. -/
theorem image_of_refused {files : Files} {here : NodeId} {refusal : Refusal} (some : path ≠ [])
    (refused : files.find here path = .error refusal) (fits : List Bytes → Bool) (depth : Nat)
    (lead : List Bytes) : image files here fits depth path lead = .error refusal := by
  rw [image.eq_def]
  simp only [runnable, if_neg some, refused]

/-- A name that misses everywhere is refused as its last place is. -/
theorem search_of_missing (named : name ≠ []) (short : name.length ≤ Files.longestName)
    (missing : ∀ path ∈ places world.environment name, Misses world path) (arguments : List Bytes)
    {refusal : Refusal} (ends : EndsIn world name refusal) :
    search world arguments name = .error refusal := by
  obtain ⟨last, isLast, refused⟩ := ends
  have tried {path : Bytes} {reason : Refusal} (within : path ∈ places world.environment name)
      (refused : world.files.find world.directory path = .error reason) :
      attempt world arguments path = .error reason :=
    image_of_refused (ne_nil_of_mem_places named within) refused _ _ _
  rw [search_of_ne_nil world arguments named, candidates_eq_places short missing,
    searchIn_of_misses, isLast]
  · exact tried (List.mem_of_getLast? isLast) refused
  · intro path within
    exact (missing path within).imp (tried within) (tried within)

theorem EndsIn.unique {refusal other : Refusal} (ends : EndsIn world name refusal)
    (again : EndsIn world name other) : refusal = other := by
  obtain ⟨last, isLast, refused⟩ := ends
  obtain ⟨same, alsoLast, alsoRefused⟩ := again
  obtain rfl : last = same := Option.some.inj (isLast.symm.trans alsoLast)
  exact Except.error.inj (refused.symm.trans alsoRefused)

/-- A name that misses everywhere has a last place, which misses. -/
theorem exists_endsIn (missing : ∀ path ∈ places world.environment name, Misses world path) :
    EndsIn world name .notFound ∨ EndsIn world name .notDirectory := by
  have some := places_ne_nil world.environment name
  have isLast := List.getLast?_eq_some_getLast some
  rcases missing _ (List.getLast_mem some) with refused | refused
  · exact .inl ⟨_, isLast, refused⟩
  · exact .inr ⟨_, isLast, refused⟩

end Missing

section Invocation

variable {world : World} {name : Bytes} {parameters : List Bytes}

/-- Without NUL bytes it is the search that decides what is run. -/
theorem invocation_of_plain (plain : ∀ word ∈ name :: parameters, (0 : UInt8) ∉ word) :
    invocation world (name :: parameters) =
      match search world (name :: parameters) name with
      | .error refusal => .error (faultOf name refusal)
      | .ok image =>
        .ok ⟨image, name :: parameters, world.environment, world.directory, world.input⟩ := by
  have noNul : ¬ (name :: parameters).any (·.contains 0) = true := by
    simpa [List.any_eq_true] using plain
  rw [invocation, if_neg noNul]
  rfl

/-- A NUL byte is refused, whatever a search would come to. -/
theorem invocation_of_nul (nul : ∃ word ∈ name :: parameters, (0 : UInt8) ∈ word) :
    invocation world (name :: parameters) = .error (faultOf name .nulInArgument) := by
  have found : (name :: parameters).any (·.contains 0) = true := by
    simpa [List.any_eq_true] using nul
  rw [invocation, if_pos found]
  rfl

/-- A search that is refused fails the launch before anything has run. -/
theorem launch_of_refused {refusal : Refusal}
    (plain : ∀ word ∈ name :: parameters, (0 : UInt8) ∉ word)
    (refused : search world (name :: parameters) name = .error refusal) (programs : Programs) :
    launch programs world (name :: parameters) = ⟨.error (faultOf name refusal), world, []⟩ := by
  rw [launch, invocation_of_plain plain, refused]

end Invocation

theorem Launched.fails_iff {fault : Fault} {world : World} {printed : List Printed}
    {cause : Fault.Cause} {code : Int} :
    (Launched.mk (.error fault) world printed).Fails cause code ↔
      fault.cause = cause ∧ fault.status.code = code := by
  constructor
  · rintro ⟨other, status, fails⟩
    obtain rfl : fault = other := Except.error.inj status
    exact fails
  · exact fun fails => ⟨fault, rfl, fails⟩

/-- What comes of launching a program that is at none of its places. -/
structure Launched.Unfound (world : World) (name : Bytes) (launched : Launched) : Prop where
  /-- Nothing has run and nothing has changed. -/
  standing : launched.world = world
  silent : launched.printed = []
  /-- The last place is refused in one of two ways, -/
  either : EndsIn world name .notFound ∨ EndsIn world name .notDirectory
  /-- and the command counts as not found exactly if there is nothing at that place, -/
  notFound : launched.Fails (.commandNotFound name.display) 127 ↔
    name = [] ∨ EndsIn world name .notFound
  /-- and as a process that could not be created if a directory is missing on the way there. -/
  notSpawned : launched.Fails (.notSpawned name.display "Not a directory (os error 20)") 1 ↔
    name ≠ [] ∧ EndsIn world name .notDirectory

/-- **Of a program that is nowhere, the last place decides what is reported**, whatever the places
before it are. -/
theorem launch_of_missing {world : World} {name : Bytes} {parameters : List Bytes}
    (plain : ∀ word ∈ name :: parameters, (0 : UInt8) ∉ word)
    (short : name.length ≤ Files.longestName)
    (missing : ∀ path ∈ places world.environment name, Misses world path) (programs : Programs) :
    (launch programs world (name :: parameters)).Unfound world name := by
  have either := exists_endsIn missing
  have unfound {refusal : Refusal}
      (refused : search world (name :: parameters) name = .error refusal)
      (given : refusal = .notFound ∧ (name = [] ∨ EndsIn world name .notFound) ∨
        refusal = .notDirectory ∧ name ≠ [] ∧ EndsIn world name .notDirectory) :
      (launch programs world (name :: parameters)).Unfound world name := by
    rw [launch_of_refused plain refused]
    rcases given with ⟨rfl, absent⟩ | ⟨rfl, named, ends⟩
    · have other : ¬ (name ≠ [] ∧ EndsIn world name .notDirectory) := by
        rintro ⟨named, obstructed⟩
        exact Refusal.noConfusion ((absent.resolve_left named).unique obstructed)
      refine ⟨rfl, rfl, either, ?_, ?_⟩
      · simp [Launched.fails_iff, faultOf, Fault.status, absent]
      · simp [Launched.fails_iff, faultOf, other]
    · have other : ¬ (name = [] ∨ EndsIn world name .notFound) := by
        rintro (nameless | absent)
        · exact named nameless
        · exact Refusal.noConfusion (absent.unique ends)
      have reason : Refusal.message .notDirectory = "Not a directory (os error 20)" := rfl
      refine ⟨rfl, rfl, either, ?_, ?_⟩
      · simp [Launched.fails_iff, faultOf, other]
      · simp [Launched.fails_iff, faultOf, Fault.status, Status.failure, reason, named, ends]
  by_cases named : name = []
  · exact unfound (if_pos named) (.inl ⟨rfl, .inl named⟩)
  · rcases either with absent | obstructed
    · exact unfound (search_of_missing named short missing _ absent) (.inl ⟨rfl, .inr absent⟩)
    · exact unfound (search_of_missing named short missing _ obstructed)
        (.inr ⟨rfl, named, obstructed⟩)

/-- A tree that has a plain file in it, which a search path may name among its directories. -/
def plainFileWorld (path : String) : World where
  files := ⟨#[.directory 0 [(Bytes.ofString "plain", 1)], .file 0o644 (Bytes.ofString "x")]⟩
  directory := Files.root
  environment := ⟨[(Bytes.ofString "PATH", Bytes.ofString path)]⟩

/-- The file is named before a directory that is missing: there is no such command. -/
theorem launch_of_missing_plain :
    let world := plainFileWorld "/plain:/none"
    let name := Bytes.ofString "nosuch"
    let programs : Programs := fun _ files => ⟨0, files, [], 0⟩
    (∀ word ∈ [name], (0 : UInt8) ∉ word) ∧ name.length ≤ Files.longestName ∧
      (∀ path ∈ places world.environment name, Misses world path) ∧
      (launch programs world [name]).Unfound world name := by
  intro world name programs
  have plain : ∀ word ∈ [name], (0 : UInt8) ∉ word := by decide
  have short : name.length ≤ Files.longestName := by decide
  have missing : ∀ path ∈ places world.environment name, Misses world path := by
    have are : places world.environment name =
        [Bytes.ofString "/plain/nosuch", Bytes.ofString "/none/nosuch"] := by decide
    rw [are, List.forall_mem_cons, List.forall_mem_singleton]
    constructor
    · exact .inr (by decide)
    · exact .inl (by decide)
  exact ⟨plain, short, missing, launch_of_missing plain short missing programs⟩

/-- So a program that is nowhere is not always reported as not found: it is not if the file is the
last that the search path names. -/
theorem not_launch_commandNotFound :
    ¬ ∀ (programs : Programs) (world : World) (name : Bytes) (parameters : List Bytes),
      (∀ word ∈ name :: parameters, (0 : UInt8) ∉ word) → name.length ≤ Files.longestName →
      (∀ path ∈ places world.environment name, Misses world path) →
      (launch programs world (name :: parameters)).Fails (.commandNotFound name.display) 127 := by
  intro notFound
  let world := plainFileWorld "/plain"
  let name := Bytes.ofString "nosuch"
  have refused : world.files.find world.directory (Bytes.ofString "/plain/nosuch") =
      .error .notDirectory := by decide
  have missing : ∀ path ∈ places world.environment name, Misses world path := by
    have are : places world.environment name = [Bytes.ofString "/plain/nosuch"] := by decide
    rw [are, List.forall_mem_singleton]
    exact .inr refused
  obtain ⟨fault, status, cause, code⟩ :=
    notFound (fun _ files => ⟨0, files, [], 0⟩) world name [] (by decide) (by decide) missing
  obtain rfl : faultOf name .notDirectory = fault := Except.error.inj status
  exact absurd code (by decide)

end LineShell.Program
