import LineShell.Host.Script.Command

/-!
Statements other than simple commands.
-/
namespace LineShell.Host.Script.Engine

/-- Does one round of a loop, and says whether there may be another. -/
def round (act : Step Unit) : Step Bool := do
  match ← Step.attempt act with
  | .ok () => return true
  | .error (.broken count again) =>
    if count ≤ 1 then return again else throw (.broken (count - 1) again)
  | .error stop => throw stop

/-- Does something within a loop. -/
def looped (act : Step Unit) : Step Unit := do
  let loops := (← get).loops
  modify fun runner => { runner with loops := loops + 1 }
  Step.withAfter act fun runner => { runner with loops }

/-- Repeats a body as long as a condition holds, or until it does. -/
def loop (engine : Engine) (tested whileTrue : Bool) (condition body : Statement) : Step Unit :=
  looped do
    let mut status := 0
    for _ in [0:roundBound] do
      let mut goes := false
      let more ← round do engine.statement false true condition
      if more then goes := ((← get).status == 0) == whileTrue
      if !goes then
        if !more then status := (← get).status
        break
      let again ← round do engine.statement false tested body
      status := (← get).status
      if !again then break
    Step.setStatus status

/-- Carries out a body for each of some values. -/
def each (engine : Engine) (tested : Bool) (name : Bytes) (values : List Bytes)
    (body : Statement) : Step Unit :=
  looped do
    if values.isEmpty then Step.setStatus 0
    for value in values do
      Step.assign name value
      if !(← round do engine.statement false tested body) then break

/-- Carries out the first case of which a pattern fits. -/
def select (engine : Engine) (last tested : Bool) (value : Bytes) :
    List (List Word × Statement) → Step Unit
  | [] => Step.setStatus 0
  | (patterns, body) :: others => do
    let fits ← patterns.anyM fun word => do
      return (← patternOf engine.capture word).fits value
    if fits then engine.statement last tested body
    else engine.select last tested value others

/-- Carries out commands of which each reads what the one before prints. -/
def pipe (engine : Engine) (tested : Bool) : Option Nat → List Statement → Step Unit
  | _, [] => return
  | input, command :: others => do
    let output ← if others.isEmpty then pure none
      else some <$> Step.act (Machine.enter (.pipe []))
    let ending ← engine.subshell do
      for number in input do Step.modifyProcess fun process => process.attach 0 number
      for number in output do Step.modifyProcess fun process => process.attach 1 number
      engine.statement true tested command
    settle ending
    engine.pipe tested output others

/-- Ends the script after a command that has failed, where that is wanted. -/
def checked (tested : Bool) : Step Unit := do
  let runner ← get
  if !tested && runner.isOn 'e' && runner.status ≠ 0 then throw (.ended runner.status)

/-- Carries out a statement. -/
def perform (engine : Engine) (last tested : Bool) (statement : Statement) : Step Unit := do
  if (← get).isOn 'n' then return
  match statement with
  | .nothing => Step.setStatus 0
  | .simple line assignments words redirections =>
    engine.simple last tested line assignments words redirections
    checked tested
  | .sequence first second =>
    engine.statement false tested first
    engine.statement last tested second
  | .conditional afterSuccess first second =>
    engine.statement false true first
    if ((← get).status == 0) == afterSuccess then engine.statement last tested second
  | .pipe commands =>
    engine.pipe tested none commands
    engine.deliver
    checked tested
  | .negation inner =>
    engine.statement false true inner
    Step.setStatus (if (← get).status = 0 then 1 else 0)
  | .subshell line inner redirections =>
    modify fun runner => { runner with line }
    let targets ← targets engine.capture redirections
    let ending ← engine.subshell do
      targets.forM (·.redirect)
      engine.statement true tested inner
    if last && (← get).traps.isEmpty then throw (.replaced ending)
    settle ending
    engine.deliver
    checked tested
  | .background inner =>
    let input ← Step.act (Machine.enter (.pipe []))
    let ending ← engine.subshell do
      Step.modifyProcess fun process => process.attach 0 input
      engine.statement true tested inner
    engine.deliver
    modify fun runner => { runner with
      jobs := (ofNat (firstJob + runner.jobs.length), ending) :: runner.jobs }
    Step.setStatus 0
  | .redirected line inner redirections =>
    modify fun runner => { runner with line }
    engine.redirected redirections (engine.statement false tested inner)
  | .choice condition yes no =>
    engine.statement false true condition
    if (← get).status = 0 then engine.statement last tested yes
    else engine.statement last tested no
  | .loop whileTrue condition body => engine.loop tested whileTrue condition body
  | .each line name words body =>
    modify fun runner => { runner with line }
    engine.each tested name (← engine.fields words) body
  | .select line word cases =>
    modify fun runner => { runner with line }
    engine.select last tested (← joined engine.capture false word) cases
  | .define name body =>
    modify fun runner => { runner with
      functions := (name, body) :: runner.functions.filter (·.1 != name) }
    Step.setStatus 0

end LineShell.Host.Script.Engine
