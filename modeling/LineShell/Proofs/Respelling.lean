import LineShell.Proofs.Stage
import LineShell.Proofs.Words

/-!
# Sessions over inputs that say the same

What a session comes to is read off the argument lists of its lines, and those without arguments
play no part (`upshot_play`). So it is the same for two inputs with the same argument lists, however
many rounds it takes over each of them.
-/
namespace LineShell

namespace Arguments

/-- The argument list of some words, if there is storage for them. -/
def listed (limit : Option Nat) (words : List Bytes) : Except Fault (List Bytes) := do
  reserve limit initialCapacity
  let arguments ← words.foldlM (push limit) empty
  return arguments.toList

/-- The argument list of a line. -/
def read (limit : Option Nat) (line : Bytes) : Except Fault (List Bytes) :=
  (ofLine limit line).map toList

/-- It goes by the words of the line. -/
theorem read_eq_listed (limit : Option Nat) (line : Bytes) :
    read limit line = listed limit (words line) := by
  unfold read listed ofLine
  cases reserve limit initialCapacity with
  | error fault => rfl
  | ok _ => cases (words line).foldlM (push limit) empty <;> rfl

/-- Words that find storage are the argument list. -/
theorem eq_of_listed {limit : Option Nat} {words arguments : List Bytes}
    (stored : listed limit words = .ok arguments) : arguments = words := by
  obtain ⟨_, _, pushed⟩ := bind_eq_ok.mp stored
  obtain ⟨whole, folded, same⟩ := bind_eq_ok.mp pushed
  cases same
  exact toList_of_foldlM folded

/-- Whether an argument list asks for anything. One that found no storage does. -/
def asks : Except Fault (List Bytes) → Bool
  | .ok [] => false
  | _ => true

theorem eq_of_not_asks {arguments : Except Fault (List Bytes)} (blank : asks arguments = false) :
    arguments = .ok [] := by
  unfold asks at blank
  split at blank
  · rfl
  · cases blank

/-- Where the first reservation is granted, words ask for something and their absence does not. -/
theorem asks_listed {limit : Option Nat} (room : limit.all (initialCapacity ≤ ·) = true)
    (words : List Bytes) : asks (listed limit words) = decide (words ≠ []) := by
  cases words with
  | nil =>
    have reserved : reserve limit initialCapacity = .ok () := if_pos room
    have stored : listed limit [] = .ok [] := by rw [listed, reserved]; rfl
    simp [stored, asks]
  | cons word others =>
    cases stored : listed limit (word :: others) with
    | error fault => simp [asks]
    | ok arguments => simp [eq_of_listed stored, asks]

end Arguments

/-- The argument lists of some lines, without those that are empty. -/
def argumentLists (limit : Option Nat) (lines : List Bytes) : List (Except Fault (List Bytes)) :=
  (lines.map (Arguments.read limit)).filter Arguments.asks

theorem argumentLists_cons (limit : Option Nat) (line : Bytes) (rest : List Bytes) :
    argumentLists limit (line :: rest) =
      if Arguments.asks (Arguments.read limit line) then
        Arguments.read limit line :: argumentLists limit rest
      else argumentLists limit rest := by
  simp [argumentLists, List.filter_cons]

/-- Where the first reservation is granted, what an input says gives its argument lists. -/
theorem argumentLists_endedLines {limit : Option Nat}
    (room : limit.all (Arguments.initialCapacity ≤ ·) = true) (input : Bytes) :
    argumentLists limit (Text.endedLines input) =
      (vectors input).map (Arguments.listed limit) := by
  have stored : Arguments.read limit = Arguments.listed limit ∘ words :=
    funext (Arguments.read_eq_listed limit)
  have asked : Arguments.asks ∘ Arguments.listed limit = fun words => decide (words ≠ []) :=
    funext (Arguments.asks_listed room)
  rw [argumentLists, stored, ← List.map_map, List.filter_map, asked]
  rfl

/-- What is printed apart from prompts. -/
def Printed.unprompted (pieces : List Printed) : List Printed :=
  pieces.filter fun piece => piece.channel ≠ .prompt

/-- What of a session is seen from without, its prompts aside. -/
structure Upshot where
  code : Int
  stage : Stage
  printed : List Printed

/-- What is seen of a session after something was printed. -/
def Upshot.after (printed : List Printed) (later : Upshot) : Upshot :=
  { later with printed := printed ++ later.printed }

def Account.upshot (account : Account) : Upshot :=
  ⟨account.code, account.stage, Printed.unprompted (account.turns.flatMap (·.printed))⟩

/-- What an argument list comes to. One that found no storage does nothing. -/
def Command.fulfil (programs : Programs) (world : World) (writer : Writer) :
    Except Fault (List Bytes) → Evaluated
  | .error fault => ⟨.error fault, world, writer, []⟩
  | .ok arguments => perform programs world writer arguments

theorem Command.evaluate_eq_fulfil (programs : Programs) (limit : Option Nat) (world : World)
    (writer : Writer) (line : Bytes) :
    evaluate programs limit world writer line =
      fulfil programs world writer (Arguments.read limit line) := by
  unfold evaluate Arguments.read
  cases Arguments.ofLine limit line <;> rfl

namespace Stage

/-- A session on argument lists that are given. -/
def obey (platform : Platform) : Stage → List (Except Fault (List Bytes)) → Upshot
  | stage, [] => ⟨0, stage, []⟩
  | stage, arguments :: rest =>
    let evaluated := Command.fulfil platform.programs stage.world stage.writer arguments
    let (shell, reported, code) := Session.settle stage.shell evaluated.outcome
    let next : Stage := ⟨shell, evaluated.world, evaluated.writer⟩
    let printed := Printed.unprompted (evaluated.printed ++ reported)
    match code with
    | some code => ⟨code, next, printed⟩
    | none => (obey platform next rest).after printed

/-- An empty argument list has no effect. -/
theorem obey_nothing (platform : Platform) (stage : Stage)
    (rest : List (Except Fault (List Bytes))) :
    stage.obey platform (.ok [] :: rest) = stage.obey platform rest := rfl

variable (platform : Platform) (prompts : Writer) (stage : Stage)

/-- Apart from its prompt, a round prints what its line does. -/
theorem unprompted_round (answer : Except Fault (Option Bytes)) (printed : List Printed) :
    Printed.unprompted (stage.round platform prompts answer printed).printed =
      Printed.unprompted printed := by
  unfold round Printed.unprompted Printed.of
  split <;> simp

/-- What is seen of a line and of those after it. -/
theorem obey_cons (line : Bytes) (rest : List (Except Fault (List Bytes))) :
    stage.obey platform (Arguments.read platform.storageLimit line :: rest) =
      let printed := Printed.unprompted
        ((stage.evaluate platform line).printed ++ (stage.settle platform line).2.1)
      match (stage.settle platform line).2.2 with
      | some code => ⟨code, stage.next platform line, printed⟩
      | none => ((stage.next platform line).obey platform rest).after printed := by
  unfold next settle evaluate
  rw [Command.evaluate_eq_fulfil]
  rfl

/-- What is seen of a session goes by its argument lists. -/
theorem upshot_play (lines : List Bytes) :
    (stage.play platform (.ok none) prompts lines).upshot =
      stage.obey platform (argumentLists platform.storageLimit lines) := by
  induction lines generalizing stage prompts with
  | nil =>
    have silent := unprompted_round platform prompts stage (.ok none) []
    simp only [play, Account.upshot, List.flatMap_singleton]
    exact congrArg (Upshot.mk 0 stage) silent
  | cons line rest ih =>
    have shown : Printed.unprompted (stage.lineRound platform prompts line).printed =
        Printed.unprompted
          ((stage.evaluate platform line).printed ++ (stage.settle platform line).2.1) :=
      unprompted_round ..
    have step : (stage.play platform (.ok none) prompts (line :: rest)).upshot =
        stage.obey platform (Arguments.read platform.storageLimit line ::
          argumentLists platform.storageLimit rest) := by
      rw [obey_cons, play]
      cases (stage.settle platform line).2.2 with
      | some code =>
        simp only [Account.upshot, List.flatMap_singleton]
        exact congrArg (Upshot.mk code _) shown
      | none =>
        rw [← ih (stage.prompted platform prompts), ← shown]
        simp [Account.upshot, Upshot.after, Printed.unprompted]
    rw [step, argumentLists_cons]
    split
    · rfl
    · next blank =>
      have empty := Arguments.eq_of_not_asks (eq_false_of_ne_true blank)
      rw [empty, obey_nothing]

end Stage

namespace Session

/-- A session over another input that ends. -/
def given (session : Session Stream) (input : Bytes) : Session Stream :=
  { session with source := { session.source with input, failure := none } }

/-- Two sessions that differ in their prompts and rounds at most. -/
structure Alike (report other : Report Stream) : Prop where
  code : other.code = report.code
  /-- With the status of the last line. -/
  shell : other.final.shell = report.final.shell
  /-- With the files, the working directory and the environment. -/
  world : other.final.world = report.final.world
  writer : other.final.writer = report.final.writer
  /-- What builtins and programs print, and the diagnostics, in order. -/
  printed : Printed.unprompted (other.turns.flatMap (·.printed)) =
    Printed.unprompted (report.turns.flatMap (·.printed))

/-- What is seen of a session over an input goes by the input's argument lists. -/
theorem upshot_run_given (platform : Platform) (session : Session Stream) (input : Bytes) :
    ((session.given input).run platform).account.upshot =
      session.opening.obey platform
        (argumentLists platform.storageLimit (Text.endedLines input)) := by
  rw [account_run]
  exact Stage.upshot_play ..

theorem alike_of_upshot {report other : Report Stream}
    (same : other.account.upshot = report.account.upshot) : Alike report other := by
  have stage := congrArg Upshot.stage same
  exact
    { code := congrArg Upshot.code same
      shell := congrArg Stage.shell stage
      world := congrArg Stage.world stage
      writer := congrArg Stage.writer stage
      printed := congrArg Upshot.printed same }

/-- In which inputs a session comes to the same. -/
structure GoesByArguments (platform : Platform) (session : Session Stream) (input : Bytes) :
    Prop where
  /-- In those with the same argument lists, when lines without arguments are left out. -/
  listed : ∀ other,
    argumentLists platform.storageLimit (Text.endedLines other) =
      argumentLists platform.storageLimit (Text.endedLines input) →
    Alike ((session.given input).run platform) ((session.given other).run platform)
  /-- In those that say the same. -/
  said : ∀ other, vectors other = vectors input →
    Alike ((session.given input).run platform) ((session.given other).run platform)
  /-- However words are parted, and whatever blank lines there are. -/
  respelled : ∀ other, Respelled input other →
    Alike ((session.given input).run platform) ((session.given other).run platform)
  /-- Whether or not there is a carriage return before each line feed. -/
  returns : Alike ((session.given input).run platform)
    ((session.given (withReturns input)).run platform)
  /-- Whether or not the last line has its line feed. -/
  feed : Alike ((session.given input).run platform)
    ((session.given (input ++ [Text.lineFeed])).run platform)

/-- **A session goes by the argument lists of its input**, where the first reservation of storage
is granted. -/
theorem run_goesByArguments {platform : Platform}
    (room : platform.storageLimit.all (Arguments.initialCapacity ≤ ·) = true)
    (session : Session Stream) (input : Bytes) : GoesByArguments platform session input := by
  have listed (other : Bytes)
      (same : argumentLists platform.storageLimit (Text.endedLines other) =
        argumentLists platform.storageLimit (Text.endedLines input)) :
      Alike ((session.given input).run platform) ((session.given other).run platform) := by
    refine alike_of_upshot ?_
    rw [upshot_run_given, upshot_run_given, same]
  have said (other : Bytes) (same : vectors other = vectors input) :
      Alike ((session.given input).run platform) ((session.given other).run platform) := by
    refine listed other ?_
    rw [argumentLists_endedLines room, argumentLists_endedLines room, same]
  have respelled (other : Bytes) (same : Respelled input other) :
      Alike ((session.given input).run platform) ((session.given other).run platform) :=
    said other same.vectors_eq.symm
  exact
    { listed
      said
      respelled
      returns := respelled _ (respelled_withReturns input)
      feed := respelled _ (respelled_concat_feed input) }

/-- Two commands on lines of their own, and the same with other delimiters around them and no
second line feed. -/
theorem run_goesByArguments_echo :
    let programs : Programs := fun _ files => ⟨0, files, [], 0⟩
    let platform : Platform := ⟨programs, some 64, false⟩
    let shell : Shell := ⟨⟨"user", false⟩, {}, .success⟩
    let session : Session Stream := ⟨shell, ⟨.bare, Files.root, ⟨[]⟩, {}⟩, {}, { input := [] }⟩
    let input := Bytes.ofString "echo a b\nexit 3\n"
    let other := Bytes.ofString "\t\r\necho  a\tb \n\n exit\x073"
    platform.storageLimit.all (Arguments.initialCapacity ≤ ·) = true ∧
      vectors other = vectors input ∧
        Alike ((session.given input).run platform) ((session.given other).run platform) :=
  ⟨rfl, by decide, (run_goesByArguments rfl _ _).said _ (by decide)⟩

end Session

end LineShell
