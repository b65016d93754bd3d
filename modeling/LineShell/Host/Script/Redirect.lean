import LineShell.Host.Script.Expansion

/-!
Redirections: where the descriptors of a statement lead.
-/
namespace LineShell.Host.Script

/-- What redirections lead to, once their words have been replaced. -/
structure Target where
  descriptor : Nat
  kind : Redirection.Kind
  bytes : Bytes

/-- The targets of some redirections. -/
def targets (capture : Statement → Step Bytes) (redirections : List Redirection) :
    Step (List Target) :=
  redirections.mapM fun redirection => do
    let .mk descriptor kind word := redirection
    match kind with
    | .document number =>
      let document := ((← get).documents[number]?).getD []
      let cells ← cells capture wordDepth {} document
      return ⟨descriptor, kind, Cell.bytes (← get).between cells⟩
    | kind =>
      let bytes ← joined capture false word
      let isDescriptor := bytes == [0x2D] || (bytes.length == 1 && bytes.all Numeral.isDigit)
      if kind = .duplicate ∧ !isDescriptor then
        Step.fail [ofString "Syntax error: Bad fd number"]
      else return ⟨descriptor, kind, bytes⟩

/-- Why a file that would be written to cannot be opened. -/
def creationReason : Refusal → String
  | .notFound | .notDirectory => "Directory nonexistent"
  | refusal => refusal.reason

/-- Why a file that would be read cannot be opened. -/
def openingReason : Refusal → String
  | .notFound | .notDirectory => "No such file"
  | refusal => refusal.reason

/-- Opens a file to be written to, and gives what it is known by. -/
def openOutput (path : Bytes) (emptied reads appends : Bool) (guarded : Bool) : Step Nat := do
  let runner ← get
  let here := runner.process.directory
  let cannot {α : Type} (reason : String) : Step α :=
    Step.fail [ofString "cannot create ", path, ofString (": " ++ reason)]
  let files := (← Step.act MonadState.get).files
  let isFile := match (files.find here path).toOption.bind files.node? with
    | some (.file ..) | some (.program _) => true
    | _ => false
  if guarded && isFile then cannot Refusal.alreadyThere.reason
  else
    let write (files : Files) := if emptied then files.write here path []
      else files.append here path []
    match ← Step.act (Machine.change write) with
    | .error refusal => cannot (creationReason refusal)
    | .ok () =>
      match (← Step.act MonadState.get).files.find here path with
      | .ok id => Step.act (Machine.enter (.node id 0 reads true appends))
      | .error refusal => cannot (creationReason refusal)

/-- Carries out one redirection. -/
def Target.redirect (target : Target) : Step Unit := do
  let runner ← get
  let attach (number : Nat) : Step Unit :=
    Step.modifyProcess fun process => process.attach target.descriptor number
  match target.kind with
  | .input =>
    let files := (← Step.act MonadState.get).files
    match files.find runner.process.directory target.bytes with
    | .ok id => attach (← Step.act (Machine.enter (.node id 0 true false false)))
    | .error refusal =>
      Step.fail [ofString "cannot open ", target.bytes,
        ofString (": " ++ openingReason refusal)]
  | .output force =>
    attach (← openOutput target.bytes true false false (!force && runner.isOn 'C'))
  | .append => attach (← openOutput target.bytes false false true false)
  | .both => attach (← openOutput target.bytes false true false false)
  | .document _ => attach (← Step.act (Machine.enter (.pipe target.bytes)))
  | .duplicate =>
    if target.bytes = [0x2D] then
      Step.modifyProcess fun process => process.detach target.descriptor
    else
      match runner.process.descriptors.lookup (Numeral.value 10 target.bytes) with
      | some number => attach number
      | none => Step.fail [target.bytes, ofString (": " ++ Refusal.badDescriptor.reason)]

end LineShell.Host.Script
