import LineShell.Files.Access

/-!
# Paths after a file has been written

What a path leads to depends on directories and links alone, so every path leads where it did when
one file has other content (`locate_of_likewise`). A new file is found by the path at which there
was none, and any other path leads where it did or to that file (`Added.locate_gains`). Hence what
is written at a path is what stands there afterwards (`Holds.write`, `holds_of_write_absent`).
-/
namespace LineShell

/-- Neither a directory nor a link: no path leads any further from there. -/
def Node.IsPlain : Node → Prop
  | .directory .. | .link _ => False
  | .file .. | .program _ | .sink => True

namespace Files

/-! ## Single nodes -/

theorem node?_set_self {files : Files} {id : NodeId} {node : Node}
    (there : files.node? id = some node) (fresh : Node) :
    (files.set id fresh).node? id = some fresh := by
  have below : id < files.nodes.size := (Array.getElem?_eq_some_iff.mp there).1
  rw [node?, set, Array.getElem?_setIfInBounds_self, if_pos below]

theorem node?_set_of_ne {id other : NodeId} (apart : other ≠ id) (files : Files) (fresh : Node) :
    (files.set id fresh).node? other = files.node? other := by
  rw [node?, set, Array.getElem?_setIfInBounds_ne apart.symm, node?]

theorem node?_push (files : Files) (node : Node) (id : NodeId) :
    (⟨files.nodes.push node⟩ : Files).node? id =
      if id = files.nodes.size then some node else files.node? id :=
  Array.getElem?_push

/-! ## One step of a way -/

/-- A way ends at a plain node. -/
theorem advance_of_plain {files : Files} {here : NodeId} {node : Node}
    (there : files.node? here = some node) (isPlain : node.IsPlain) (follow : Bool)
    (step : Bytes) (rest : List Bytes) :
    advance files follow here (step :: rest) = .error .notDirectory := by
  cases node with
  | directory | link => exact isPlain.elim
  | file | program | sink => simp only [advance, there]

/-- How a way goes on from an entry of a directory. -/
def advanceOnto (files : Files) (follow : Bool) (here id : NodeId) (rest : List Bytes) :
    Except Refusal Stretch :=
  match files.node? id with
  | some (.link target) =>
    if rest = [] ∧ follow = false then .ok (.arrived (.found id))
    else .ok (.link here target rest)
  | some _ => advance files follow id rest
  | none => .error .notFound

/-- How it goes on from a directory. -/
theorem advance_of_directory {files : Files} {here parent : NodeId}
    {entries : List (Bytes × NodeId)}
    (there : files.node? here = some (.directory parent entries)) (follow : Bool) (step : Bytes)
    (rest : List Bytes) :
    advance files follow here (step :: rest) =
      if step = [Path.dot] then advance files follow here rest
      else if step = [Path.dot, Path.dot] then advance files follow parent rest
      else if longestName < step.length then .error .nameTooLong
      else match entries.lookup step with
        | none => if rest = [] then .ok (.arrived (.absent here step)) else .error .notFound
        | some id => advanceOnto files follow here id rest := by
  simp only [advance, there]
  rfl

theorem advance_of_link {files : Files} {here : NodeId} {target : Bytes}
    (there : files.node? here = some (.link target)) (follow : Bool) (step : Bytes)
    (rest : List Bytes) : advance files follow here (step :: rest) = .error .notDirectory := by
  simp only [advance, there]

theorem advance_of_none {files : Files} {here : NodeId} (there : files.node? here = none)
    (follow : Bool) (step : Bytes) (rest : List Bytes) :
    advance files follow here (step :: rest) = .error .notFound := by
  simp only [advance, there]

/-- From an entry with a plain node there is no way on. -/
theorem advanceOnto_of_plain {files : Files} {id : NodeId} {node : Node}
    (there : files.node? id = some node) (isPlain : node.IsPlain) (follow : Bool) (here : NodeId)
    (rest : List Bytes) : advanceOnto files follow here id rest = advance files follow id rest := by
  cases node with
  | directory | link => exact isPlain.elim
  | file | program | sink => simp only [advanceOnto, there]

theorem advanceOnto_of_directory {files : Files} {id parent : NodeId}
    {entries : List (Bytes × NodeId)} (there : files.node? id = some (.directory parent entries))
    (follow : Bool) (here : NodeId) (rest : List Bytes) :
    advanceOnto files follow here id rest = advance files follow id rest := by
  simp only [advanceOnto, there]

theorem advanceOnto_of_none {files : Files} {id : NodeId} (there : files.node? id = none)
    (follow : Bool) (here : NodeId) (rest : List Bytes) :
    advanceOnto files follow here id rest = .error .notFound := by
  simp only [advanceOnto, there]

/-- A directory does not list the name. -/
def IsFree (files : Files) (directory : NodeId) (name : Bytes) : Prop :=
  ∃ parent entries, files.node? directory = some (.directory parent entries) ∧
    entries.lookup name = none

theorem isFree_of_advance {files : Files} {follow : Bool} {here directory : NodeId}
    {path : List Bytes} {name : Bytes}
    (absent : advance files follow here path = .ok (.arrived (.absent directory name))) :
    files.IsFree directory name := by
  induction path generalizing here with
  | nil => cases absent
  | cons step rest ih =>
    cases there : files.node? here with
    | none =>
      rw [advance_of_none there] at absent
      cases absent
    | some node =>
      cases node with
      | directory parent entries =>
        rw [advance_of_directory there] at absent
        split at absent
        · exact ih absent
        · split at absent
          · exact ih absent
          · split at absent
            · cases absent
            · split at absent
              · next free =>
                split at absent
                · cases absent
                  exact ⟨parent, entries, there, free⟩
                · cases absent
              · next id _ =>
                unfold advanceOnto at absent
                split at absent
                · split at absent <;> cases absent
                · exact ih absent
                · cases absent
      | link target =>
        rw [advance_of_link there] at absent
        cases absent
      | file | program | sink =>
        rw [advance_of_plain there trivial] at absent
        cases absent

theorem isFree_of_walk {files : Files} {follow : Bool} {links : Nat} {here directory : NodeId}
    {path : List Bytes} {name : Bytes}
    (absent : walk files follow links here path = .ok (.absent directory name)) :
    files.IsFree directory name := by
  induction links generalizing here path with
  | zero =>
    unfold walk at absent
    split at absent
    · cases absent
    · next way =>
      cases absent
      exact isFree_of_advance way
    · cases absent
  | succ links ih =>
    unfold walk at absent
    split at absent
    · cases absent
    · next way =>
      cases absent
      exact isFree_of_advance way
    · exact ih absent

/-- Where a path leads to no node but one could be made, its name is free. -/
theorem isFree_of_locate {files : Files} {follow : Bool} {here directory : NodeId}
    {path name : Bytes} (absent : locate files follow here path = .ok (.absent directory name)) :
    files.IsFree directory name := by
  unfold locate at absent
  split at absent
  · cases absent
  · split at absent
    · cases absent
    · split at absent
      · cases absent
      · exact isFree_of_walk absent

/-! ## Other content in the same tree -/

/-- Two trees with the same directories and links. -/
def Likewise (files other : Files) : Prop :=
  ∀ id, other.node? id = files.node? id ∨
    ∃ node otherNode, files.node? id = some node ∧ other.node? id = some otherNode ∧
      node.IsPlain ∧ otherNode.IsPlain

section Likewise

variable {files other : Files} (likewise : Likewise files other)

include likewise

theorem advance_of_likewise (follow : Bool) (here : NodeId) (path : List Bytes) :
    advance other follow here path = advance files follow here path := by
  induction path generalizing here with
  | nil => rfl
  | cons step rest ih =>
    have onto (id : NodeId) : advanceOnto other follow here id rest =
        advanceOnto files follow here id rest := by
      rcases likewise id with same | ⟨node, otherNode, there, otherThere, isPlain, otherPlain⟩
      · simp only [advanceOnto, same, ih]
      · rw [advanceOnto_of_plain there isPlain, advanceOnto_of_plain otherThere otherPlain, ih]
    rcases likewise here with same | ⟨node, otherNode, there, otherThere, isPlain, otherPlain⟩
    · cases there : files.node? here with
      | none => rw [advance_of_none there, advance_of_none (same.trans there)]
      | some node =>
        cases node with
        | directory parent entries =>
          simp only [advance_of_directory there, advance_of_directory (same.trans there), ih, onto]
        | link target => rw [advance_of_link there, advance_of_link (same.trans there)]
        | file | program | sink =>
          rw [advance_of_plain there trivial, advance_of_plain (same.trans there) trivial]
    · rw [advance_of_plain there isPlain, advance_of_plain otherThere otherPlain]

theorem walk_of_likewise (follow : Bool) (links : Nat) (here : NodeId) (path : List Bytes) :
    walk other follow links here path = walk files follow links here path := by
  induction links generalizing here path with
  | zero =>
    unfold walk
    rw [advance_of_likewise likewise]
  | succ links ih =>
    unfold walk
    rw [advance_of_likewise likewise]
    simp only [ih]

/-- Every path leads where it did. -/
theorem locate_of_likewise (follow : Bool) (here : NodeId) (path : Bytes) :
    locate other follow here path = locate files follow here path := by
  simp only [locate, walk_of_likewise likewise]

theorem find_of_likewise (here : NodeId) (path : Bytes) :
    find other here path = find files here path := by
  simp only [find, locate_of_likewise likewise]

end Likewise

/-- So it is where a file is filled anew. -/
theorem likewise_set {files : Files} {id : NodeId} {node fresh : Node}
    (there : files.node? id = some node) (isPlain : node.IsPlain) (freshPlain : fresh.IsPlain) :
    Likewise files (files.set id fresh) := by
  intro other
  by_cases same : other = id
  · subst same
    exact .inr ⟨node, fresh, there, node?_set_self there fresh, isPlain, freshPlain⟩
  · exact .inl (node?_set_of_ne same files fresh)

/-- All other nodes have the content they had. -/
theorem contentOf_set_of_ne {id other : NodeId} (apart : other ≠ id) (files : Files)
    (fresh : Node) : (files.set id fresh).contentOf other = files.contentOf other := by
  rw [contentOf, contentOf, node?_set_of_ne apart]

/-- What is read at any path that does not lead there is the same. -/
theorem read_set_of_ne {files : Files} {id here : NodeId} {fresh : Node} {path : Bytes}
    (likewise : Likewise files (files.set id fresh)) (apart : files.find here path ≠ .ok id) :
    (files.set id fresh).read here path = files.read here path := by
  rw [read, read, find_of_likewise likewise]
  cases found : files.find here path with
  | error refusal => rfl
  | ok other =>
    have old : other ≠ id := fun same => apart (same ▸ found)
    exact contentOf_set_of_ne old files fresh

/-! ## A new file -/

/-- A tree with a new plain node, which is listed in a directory under a name that was free. -/
structure Added (files other : Files) (directory : NodeId) (name : Bytes) (fresh : NodeId)
    (node : Node) : Prop where
  unused : files.node? fresh = none
  isPlain : node.IsPlain
  there : other.node? fresh = some node
  listed : ∃ parent entries, files.node? directory = some (.directory parent entries) ∧
    entries.lookup name = none ∧
    other.node? directory = some (.directory parent (entries ++ [(name, fresh)]))
  others : ∀ id, id ≠ fresh → id ≠ directory → other.node? id = files.node? id

/-- What may become of an answer when there is one more goal to reach: it is that goal, or what it
was before, though a refusal may have another reason. -/
inductive Gains {α : Type} (goal : α) (before : Except Refusal α) : Except Refusal α → Prop where
  | reached : Gains goal before (.ok goal)
  | same : Gains goal before before
  | refused {refusal other : Refusal} (was : before = .error refusal) :
      Gains goal before (.error other)

namespace Added

variable {files other : Files} {directory fresh : NodeId} {name : Bytes} {node : Node}
  (added : Added files other directory name fresh node)

include added

/-- The new entry apart, a directory lists what it did. -/
theorem directory_of {id parent : NodeId} {entries : List (Bytes × NodeId)}
    (there : files.node? id = some (.directory parent entries)) :
    ∃ more, other.node? id = some (.directory parent more) ∧
      ∀ step, more.lookup step = entries.lookup step ∨
        entries.lookup step = none ∧ more.lookup step = some fresh := by
  by_cases same : id = directory
  · subst same
    obtain ⟨lies, held, listed, free, now⟩ := added.listed
    obtain ⟨rfl, rfl⟩ : parent = lies ∧ entries = held := by
      rw [there] at listed
      simpa using listed
    refine ⟨_, now, fun step => ?_⟩
    rw [List.lookup_append]
    cases found : entries.lookup step with
    | some id => exact .inl rfl
    | none =>
      by_cases named : step = name
      · subst named
        exact .inr ⟨rfl, by simp⟩
      · exact .inl (by simp [List.lookup_cons, beq_eq_false_iff_ne.mpr named])
  · refine ⟨entries, ?_, fun step => .inl rfl⟩
    rw [added.others id ?_ same, there]
    rintro rfl
    rw [added.unused] at there
    cases there

/-- Whatever is no directory is as it was. -/
theorem node_of {id : NodeId} {old : Node} (there : files.node? id = some old)
    (noDirectory : ∀ parent entries, old ≠ .directory parent entries) :
    other.node? id = some old := by
  rw [added.others id ?_ ?_, there]
  · rintro rfl
    rw [added.unused] at there
    cases there
  · rintro rfl
    obtain ⟨parent, entries, listed, _⟩ := added.listed
    rw [listed] at there
    exact noDirectory parent entries (Option.some.inj there).symm

/-- A way that comes to the new node ends there. -/
theorem advanceOnto_fresh (follow : Bool) (here : NodeId) (rest : List Bytes) :
    advanceOnto other follow here fresh rest =
      if rest = [] then .ok (.arrived (.found fresh)) else .error .notDirectory := by
  rw [advanceOnto_of_plain added.there added.isPlain]
  cases rest with
  | nil => rfl
  | cons step rest => rw [advance_of_plain added.there added.isPlain, if_neg (by simp)]

/-- Where there is no node, there is none but the new one. -/
theorem none_of {id : NodeId} (there : files.node? id = none) :
    id = fresh ∨ other.node? id = none := by
  by_cases same : id = fresh
  · exact .inl same
  · refine .inr ?_
    rw [added.others id same, there]
    rintro rfl
    obtain ⟨parent, entries, listed, _⟩ := added.listed
    rw [listed] at there
    cases there

/-- A way from an entry goes as it did, or to the new node, if those from directories do. -/
theorem advanceOnto_gains {follow : Bool} {rest : List Bytes}
    (ways : ∀ here, Gains (.arrived (.found fresh)) (advance files follow here rest)
      (advance other follow here rest)) (here id : NodeId) :
    Gains (.arrived (.found fresh)) (advanceOnto files follow here id rest)
      (advanceOnto other follow here id rest) := by
  cases there : files.node? id with
  | none =>
    have before := advanceOnto_of_none there follow here rest
    rcases added.none_of there with rfl | gone
    · rw [added.advanceOnto_fresh]
      split
      · exact .reached
      · exact .refused before
    · rw [advanceOnto_of_none gone]
      exact .refused before
  | some node =>
    cases node with
    | directory parent entries =>
      obtain ⟨more, otherThere, _⟩ := added.directory_of there
      rw [advanceOnto_of_directory there, advanceOnto_of_directory otherThere]
      exact ways id
    | link target =>
      have otherThere := added.node_of there (by simp)
      simp only [advanceOnto, there, otherThere]
      exact .same
    | file | program | sink =>
      have otherThere := added.node_of there (by simp)
      rw [advanceOnto_of_plain there trivial, advanceOnto_of_plain otherThere trivial]
      exact ways id

/-- A way goes as it did, or to the new node. -/
theorem advance_gains (follow : Bool) (here : NodeId) (path : List Bytes) :
    Gains (.arrived (.found fresh)) (advance files follow here path)
      (advance other follow here path) := by
  induction path generalizing here with
  | nil => exact .same
  | cons step rest ih =>
    cases there : files.node? here with
    | none =>
      have before := advance_of_none there follow step rest
      rcases added.none_of there with rfl | gone
      · rw [advance_of_plain added.there added.isPlain]
        exact .refused before
      · rw [advance_of_none gone]
        exact .refused before
    | some node =>
      cases node with
      | directory parent entries =>
        obtain ⟨more, otherThere, lookups⟩ := added.directory_of there
        rw [advance_of_directory there, advance_of_directory otherThere]
        split
        · exact ih here
        · split
          · exact ih parent
          · split
            · exact .same
            · rcases lookups step with same | ⟨free, found⟩
              · rw [same]
                cases entries.lookup step with
                | none => exact .same
                | some id => exact added.advanceOnto_gains ih here id
              · rw [free, found]
                simp only [added.advanceOnto_fresh]
                split
                · exact .reached
                · exact .refused rfl
      | link target =>
        rw [advance_of_link there, advance_of_link (added.node_of there (by simp))]
        exact .same
      | file | program | sink =>
        have otherThere := added.node_of there (by simp)
        rw [advance_of_plain there trivial, advance_of_plain otherThere trivial]
        exact .same

theorem walk_gains (follow : Bool) (links : Nat) (here : NodeId) (path : List Bytes) :
    Gains (.found fresh) (walk files follow links here path)
      (walk other follow links here path) := by
  induction links generalizing here path with
  | zero =>
    have way := added.advance_gains follow here path
    unfold walk
    generalize advance files follow here path = before at way ⊢
    generalize advance other follow here path = after at way ⊢
    cases way with
    | reached => exact .reached
    | same => exact .same
    | refused was =>
      rw [was]
      exact .refused rfl
  | succ links ih =>
    have way := added.advance_gains follow here path
    unfold walk
    generalize advance files follow here path = before at way ⊢
    generalize advance other follow here path = after at way ⊢
    cases way with
    | reached => exact .reached
    | same =>
      cases before with
      | error refusal => exact .same
      | ok stretch =>
        cases stretch with
        | arrived place => exact .same
        | link directory target rest => exact ih _ _
    | refused was =>
      rw [was]
      exact .refused rfl

/-- A path leads where it did, or to the new node. -/
theorem locate_gains (follow : Bool) (here : NodeId) (path : Bytes) :
    Gains (.found fresh) (locate files follow here path) (locate other follow here path) := by
  unfold locate
  split
  · exact .same
  · split
    · exact .same
    · split
      · exact .same
      · exact added.walk_gains ..

/-- Its name is not free any more, so the path at which there was no node leads to the new one. -/
theorem locate_fresh {follow : Bool} {here : NodeId} {path : Bytes}
    (absent : locate files follow here path = .ok (.absent directory name)) :
    locate other follow here path = .ok (.found fresh) := by
  have gains := added.locate_gains follow here path
  generalize after : locate other follow here path = found at gains ⊢
  cases gains with
  | reached => rfl
  | same =>
    rw [absent] at after
    obtain ⟨parent, entries, listed, free⟩ := isFree_of_locate after
    obtain ⟨lies, before, _, none, now⟩ := added.listed
    obtain ⟨rfl, rfl⟩ : lies = parent ∧ before ++ [(name, fresh)] = entries := by
      rw [now] at listed
      simpa using listed
    rw [List.lookup_append, none] at free
    simp at free
  | refused was =>
    rw [absent] at was
    cases was

end Added

/-- A new node under a free name. -/
theorem added_add {files : Files} {directory : NodeId} {name : Bytes} {node : Node}
    (free : files.IsFree directory name) (isPlain : node.IsPlain) :
    Added files (files.add directory name node) directory name files.nodes.size node := by
  obtain ⟨parent, entries, there, none⟩ := free
  have below : directory < files.nodes.size := (Array.getElem?_eq_some_iff.mp there).1
  have pushed : (⟨files.nodes.push node⟩ : Files).node? directory =
      some (.directory parent entries) := by
    rw [node?_push, if_neg (Nat.ne_of_lt below), there]
  have added : files.add directory name node = (⟨files.nodes.push node⟩ : Files).set directory
      (.directory parent (entries ++ [(name, files.nodes.size)])) := by
    rw [add, enlist, pushed]
  rw [added]
  constructor
  case unused => exact Array.getElem?_eq_none (Nat.le_refl _)
  case isPlain => exact isPlain
  case there => rw [node?_set_of_ne (Nat.ne_of_gt below), node?_push, if_pos rfl]
  case listed => exact ⟨parent, entries, there, none, node?_set_self pushed _⟩
  case others =>
    intro id old apart
    rw [node?_set_of_ne apart, node?_push, if_neg old]

/-! ## What stands at a path -/

/-- A path leads to a file with this content. -/
def Holds (files : Files) (here : NodeId) (path content : Bytes) : Prop :=
  ∃ id mode, files.find here path = .ok id ∧ files.node? id = some (.file mode content)

theorem locate_of_find {files : Files} {here id : NodeId} {path : Bytes}
    (found : files.find here path = .ok id) :
    files.locate true here path = .ok (.found id) := by
  unfold find at found
  split at found
  · next other place =>
    cases found
    exact place
  · cases found
  · cases found

theorem find_of_locate {files : Files} {here id : NodeId} {path : Bytes}
    (place : files.locate true here path = .ok (.found id)) : files.find here path = .ok id := by
  rw [find, place]

namespace Holds

variable {files : Files} {here : NodeId} {path content : Bytes}

theorem read (holds : files.Holds here path content) : files.read here path = .ok content := by
  obtain ⟨id, mode, found, there⟩ := holds
  rw [Files.read, found]
  change files.contentOf id = _
  rw [contentOf, there]

/-- What is written at the path of a file stands there afterwards, in the same node. -/
theorem write (holds : files.Holds here path content) (fresh : Bytes) :
    ∃ id mode, files.find here path = .ok id ∧ files.node? id = some (.file mode content) ∧
      files.write here path fresh = .ok (files.set id (.file mode fresh)) ∧
      (files.set id (.file mode fresh)).Holds here path fresh := by
  obtain ⟨id, mode, found, there⟩ := holds
  refine ⟨id, mode, found, there, ?_, id, mode, ?_, node?_set_self there _⟩
  · rw [Files.write, locate_of_find found]
    change files.refill id fresh = _
    rw [refill, there]
  · have likewise : Likewise files (files.set id (.file mode fresh)) :=
      likewise_set there trivial trivial
    rw [find_of_likewise likewise, found]

end Holds

/-- What is written at a path where there is nothing stands there afterwards. -/
theorem holds_of_write_absent {files : Files} {here directory : NodeId} {path name : Bytes}
    (absent : files.locate true here path = .ok (.absent directory name))
    (writable : (files.pathOf directory).isSome) (fresh : Bytes) :
    ∃ other, files.write here path fresh = .ok other ∧ other.Holds here path fresh := by
  have added := @added_add files directory name (.file freshMode fresh)
    (isFree_of_locate absent) trivial
  refine ⟨files.add directory name (.file freshMode fresh), ?_, ?_⟩
  · rw [write, absent]
    change files.make directory name _ = _
    rw [make, if_pos writable]
  · exact ⟨files.nodes.size, freshMode, find_of_locate (added.locate_fresh absent), added.there⟩

end Files

end LineShell
