import LineShell.Proofs.Children
import LineShell.Proofs.Loading

/-!
# Files that nobody looks into

The shell follows paths, and what it looks for in a file is an interpreter at most. So two trees
that differ in what some files hold (`Files.Apart`) are the same to it: a line comes to the same in
both, and leaves trees that differ in no more (`Command.evaluate_of_apart`). Only the program that
the line starts might tell them apart.
-/
namespace LineShell

namespace Files

section Plain

variable {files : Files} {id : NodeId} {node : Node} (there : files.node? id = some node)
  (isPlain : node.IsPlain)

include there isPlain

theorem isDirectory_of_plain : files.isDirectory id = false := by
  rw [isDirectory, there]
  cases node with
  | directory | link => exact isPlain.elim
  | file | program | sink => rfl

/-- A plain node lists nothing, -/
theorem nameIn_of_plain (listed : NodeId) : files.nameIn id listed = none := by
  rw [nameIn, there]
  cases node with
  | directory | link => exact isPlain.elim
  | file | program | sink => rfl

/-- and lies in no directory. -/
theorem namesTo_of_plain (depth : Nat) :
    files.namesTo (depth + 1) id = if id = root then some [] else none := by
  rw [namesTo, there]
  cases node with
  | directory | link => exact isPlain.elim
  | file | program | sink => rfl

end Plain

section Likewise

variable {files other : Files} (likewise : Likewise files other)

include likewise

/-- The same nodes are directories. -/
theorem isDirectory_of_likewise (id : NodeId) : other.isDirectory id = files.isDirectory id := by
  rcases likewise id with same | ⟨node, otherNode, there, otherThere, isPlain, otherPlain⟩
  · rw [isDirectory, isDirectory, same]
  · rw [isDirectory_of_plain there isPlain, isDirectory_of_plain otherThere otherPlain]

theorem enter_of_likewise (here : NodeId) (path : Bytes) :
    enter other here path = enter files here path := by
  simp only [enter, find_of_likewise likewise, isDirectory_of_likewise likewise]

theorem nameIn_of_likewise (directory id : NodeId) :
    nameIn other directory id = nameIn files directory id := by
  rcases likewise directory with same | ⟨node, otherNode, there, otherThere, isPlain, otherPlain⟩
  · rw [nameIn, nameIn, same]
  · rw [nameIn_of_plain there isPlain, nameIn_of_plain otherThere otherPlain]

/-- They have the same names on the way to them. -/
theorem namesTo_of_likewise (depth : Nat) (id : NodeId) :
    namesTo other depth id = namesTo files depth id := by
  induction depth generalizing id with
  | zero => rfl
  | succ depth ih =>
    rcases likewise id with same | ⟨node, otherNode, there, otherThere, isPlain, otherPlain⟩
    · rw [namesTo, namesTo]
      simp only [same, ih, nameIn_of_likewise likewise]
    · rw [namesTo_of_plain there isPlain, namesTo_of_plain otherThere otherPlain]

end Likewise

/-- Two trees that differ at most in what hidden files hold. These cannot be run, or are scripts for
the same interpreter. -/
structure Apart (hidden : NodeId → Prop) (files other : Files) : Prop where
  size : other.nodes.size = files.nodes.size
  nodes : ∀ id, other.node? id = files.node? id ∨
    hidden id ∧ ∃ mode content otherContent,
      files.node? id = some (.file mode content) ∧
      other.node? id = some (.file mode otherContent) ∧
      (mode &&& 0o111 = 0 ∨ Program.interpreter? otherContent = Program.interpreter? content)

namespace Apart

variable {hidden : NodeId → Prop} {files other : Files}

theorem refl (hidden : NodeId → Prop) (files : Files) : Apart hidden files files :=
  ⟨rfl, fun _ => .inl rfl⟩

/-- Where nothing is hidden there is no difference. -/
theorem eq (apart : Apart (fun _ => False) files other) : other = files := by
  obtain ⟨nodes⟩ := files
  obtain ⟨otherNodes⟩ := other
  refine congrArg Files.mk (Array.ext_getElem? fun id => ?_)
  rcases apart.nodes id with same | ⟨none, _⟩
  · exact same
  · exact none.elim

theorem likewise (apart : Apart hidden files other) : Likewise files other := by
  intro id
  rcases apart.nodes id with same | ⟨_, mode, content, otherContent, there, otherThere, _⟩
  · exact .inl same
  · exact .inr ⟨_, _, there, otherThere, trivial, trivial⟩

theorem pathOf (apart : Apart hidden files other) (id : NodeId) :
    other.pathOf id = files.pathOf id := by
  rw [Files.pathOf, Files.pathOf, apart.size, namesTo_of_likewise apart.likewise]

end Apart

/-- One tree holds other bytes in one file than another. They make no difference to running it. -/
def Refilled (id : NodeId) (content fresh : Bytes) (files other : Files) : Prop :=
  ∃ mode, files.node? id = some (.file mode content) ∧
    (mode &&& 0o111 = 0 ∨ Program.interpreter? fresh = Program.interpreter? content) ∧
    other = files.set id (.file mode fresh)

namespace Refilled

variable {id here : NodeId} {content fresh path : Bytes} {files other : Files}

/-- The trees can be told apart by that file alone. -/
theorem apart (refilled : Refilled id content fresh files other) : Apart (· = id) files other := by
  obtain ⟨mode, there, runs, rfl⟩ := refilled
  constructor
  case size => simp [set]
  case nodes =>
    intro any
    by_cases same : any = id
    · subst same
      exact .inr ⟨rfl, mode, content, fresh, there, node?_set_self there _, runs⟩
    · exact .inl (node?_set_of_ne same files _)

/-- Other files are opened as before, -/
theorem opened?_of_ne (refilled : Refilled id content fresh files other)
    (elsewhere : files.find here path ≠ .ok id) :
    other.opened? here path = files.opened? here path := by
  have likewise := refilled.apart.likewise
  obtain ⟨mode, _, _, rfl⟩ := refilled
  exact opened?_set_of_ne likewise elsewhere

/-- and that one holds other bytes than before. -/
theorem read_before (refilled : Refilled id content fresh files other)
    (found : files.find here path = .ok id) : files.read here path = .ok content := by
  obtain ⟨mode, there, _⟩ := refilled
  have holds : files.Holds here path content := ⟨id, mode, found, there⟩
  exact holds.read

theorem read (refilled : Refilled id content fresh files other)
    (found : files.find here path = .ok id) : other.read here path = .ok fresh := by
  have likewise := refilled.apart.likewise
  obtain ⟨mode, there, _, rfl⟩ := refilled
  have holds : (files.set id (.file mode fresh)).Holds here path fresh :=
    ⟨id, mode, (find_of_likewise likewise here path).trans found, node?_set_self there _⟩
  exact holds.read

end Refilled

end Files

namespace Program

variable {hidden : NodeId → Prop} {files other : Files}

/-- What can be run is the same, or is two scripts for one interpreter. -/
theorem runnable_of_apart (apart : Files.Apart hidden files other) (here : NodeId) (path : Bytes) :
    runnable other here path = runnable files here path ∨
      ∃ mode content otherContent, runnable files here path = .ok (.file mode content) ∧
        runnable other here path = .ok (.file mode otherContent) ∧
        interpreter? otherContent = interpreter? content := by
  unfold runnable
  rw [Files.find_of_likewise apart.likewise]
  split
  · exact .inl rfl
  · cases found : files.find here path with
    | error refusal => exact .inl rfl
    | ok id =>
      rcases apart.nodes id with same | ⟨_, mode, content, otherContent, there, otherThere, runs⟩
      · exact .inl (by simp only [same])
      · simp only [there, otherThere]
        by_cases denied : mode &&& 0o111 = 0
        · exact .inl (by rw [if_pos denied, if_pos denied])
        · rw [if_neg denied, if_neg denied]
          exact .inr ⟨mode, content, otherContent, rfl, rfl, runs.resolve_left denied⟩

theorem image_of_apart (apart : Files.Apart hidden files other) (here : NodeId)
    (fits : List Bytes → Bool) (depth : Nat) (path : Bytes) (lead : List Bytes) :
    image other here fits depth path lead = image files here fits depth path lead := by
  induction depth generalizing path lead with
  | zero =>
    rw [image, image]
    rcases runnable_of_apart apart here path with same | ⟨_, _, _, runs, otherRuns, _⟩
    · rw [same]
    · simp only [runs, otherRuns]
  | succ depth ih =>
    rw [image, image]
    rcases runnable_of_apart apart here path with same | ⟨_, _, _, runs, otherRuns, interpreter⟩
    · rw [same]
      cases runnable files here path with
      | error refusal => rfl
      | ok node => cases node <;> simp only [ih]
    · simp only [runs, otherRuns, interpreter, ih]

variable {world : World}

theorem search_of_apart (apart : Files.Apart hidden world.files files) (arguments : List Bytes)
    (name : Bytes) :
    search { world with files } arguments name = search world arguments name := by
  unfold search
  simp only [image_of_apart apart]

/-- The same program is started. -/
theorem invocation_of_apart (apart : Files.Apart hidden world.files files)
    (arguments : List Bytes) :
    invocation { world with files } arguments = invocation world arguments := by
  unfold invocation
  simp only [search_of_apart apart]

/-- A program does not look into hidden files: whatever these hold, it prints the same, ends alike
and leaves trees that differ in no more. -/
def Overlooks (hidden : NodeId → Prop) (programs : Programs) (invocation : Invocation)
    (files : Files) : Prop :=
  ∀ other, Files.Apart hidden files other →
    (programs invocation other).wait = (programs invocation files).wait ∧
      (programs invocation other).printed = (programs invocation files).printed ∧
      (programs invocation other).used = (programs invocation files).used ∧
      Files.Apart hidden (programs invocation files).files (programs invocation other).files

/-- Where nothing is hidden there is nothing to look into. -/
theorem overlooks_nothing (programs : Programs) (invocation : Invocation) (files : Files) :
    Overlooks (fun _ => False) programs invocation files := by
  intro other apart
  rw [apart.eq]
  exact ⟨rfl, rfl, rfl, .refl _ _⟩

end Program

/-- The same directory is entered. -/
theorem World.changeDirectory_of_apart {hidden : NodeId → Prop} {world : World} {files : Files}
    (apart : Files.Apart hidden world.files files) (target : Option Bytes) :
    ({ world with files } : World).changeDirectory target =
      (world.changeDirectory target).map fun next => { next with files } := by
  have same : ({ world with files } : World).destination target = world.destination target := rfl
  unfold changeDirectory
  rw [same]
  cases world.destination target with
  | error fault => rfl
  | ok path =>
    cases entered : world.files.enter world.directory path <;>
      simp [entered, Files.enter_of_likewise apart.likewise, bind, Except.bind, pure, Except.pure,
        throw, throwThe, MonadExceptOf.throw, Except.map]

namespace Command

variable {hidden : NodeId → Prop} {programs : Programs} {limit : Option Nat} {world : World}
  {files : Files} {writer : Writer} {line : Bytes}

theorem child?_of_apart (apart : Files.Apart hidden world.files files) (limit : Option Nat)
    (line : Bytes) : child? limit { world with files } line = child? limit world line := by
  unfold child?
  simp only [Program.invocation_of_apart apart]

/-- What starts no program comes to the same. -/
theorem perform_of_apart (apart : Files.Apart hidden world.files files) {arguments : List Bytes}
    (idle : Action.ofArguments arguments = .program →
      ∃ fault, Program.invocation world arguments = .error fault) :
    perform programs { world with files } writer arguments =
      let came := perform programs world writer arguments
      { came with world := { came.world with files } } := by
  cases asked : Action.ofArguments arguments with
  | nothing => simp only [perform, asked]
  | changeDirectory target =>
    simp only [perform, asked, World.changeDirectory_of_apart apart]
    cases world.changeDirectory target <;> rfl
  | builtin command => simp only [perform, asked]
  | program =>
    obtain ⟨fault, failed⟩ := idle asked
    have otherFailed := (Program.invocation_of_apart apart arguments).trans failed
    simp only [perform, asked, Program.launch, failed, otherFailed]

/-- **A line comes to the same whatever hidden files hold**, if the program that it starts
overlooks them. -/
theorem evaluate_of_apart (apart : Files.Apart hidden world.files files)
    (overlooks : ∀ invocation, child? limit world line = some invocation →
      Program.Overlooks hidden programs invocation world.files) :
    ∃ left, Files.Apart hidden (evaluate programs limit world writer line).world.files left ∧
      evaluate programs limit { world with files } writer line =
        let came := evaluate programs limit world writer line
        { came with world := { came.world with files := left } } := by
  cases starts : child? limit world line with
  | some invocation =>
    have otherStarts := (child?_of_apart apart limit line).trans starts
    obtain ⟨wait, printed, used, left⟩ := overlooks invocation starts files apart
    refine ⟨(programs invocation files).files, ?_, ?_⟩
    · rw [evaluate_of_child starts]
      exact left
    · rw [evaluate_of_child starts, evaluate_of_child otherStarts]
      simp only [Evaluated.ofFinish, wait, printed, used]
  | none =>
    refine ⟨files, by rw [files_of_childless starts]; exact apart, ?_⟩
    cases stored : Arguments.ofLine limit line with
    | error fault => rw [evaluate_of_refused stored, evaluate_of_refused stored]
    | ok arguments =>
      rw [evaluate_of_stored stored, evaluate_of_stored stored]
      exact perform_of_apart apart (invocation_of_childless starts stored)

end Command

end LineShell
