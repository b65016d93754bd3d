import LineShell.Host.Arithmetic
import LineShell.Host.Script.Field
import LineShell.Host.Script.Runner

/-!
The values of words. Commands in them are carried out by `capture`, which gives what they print.
-/
namespace LineShell.Host.Script

/-- What a tilde and the name behind it stand for. -/
def homeOf (runner : Runner) (name : Bytes) : Option Bytes :=
  if name = [] then runner.value? (ofString "HOME")
  else if name = ofString "root" then some (ofString "/root")
  else none

/-- The cells of a text that may begin with a tilde; `isLast` says that nothing follows it in its
word. In assignments colons part it. -/
def tilde (runner : Runner) (inAssignment isValue isLast : Bool) (bytes : Bytes) : List Cell :=
  let plain := Cell.ofBytes false isValue
  match bytes with
  | 0x7E :: rest =>
    let name := rest.takeWhile fun b => b != Path.slash && !(inAssignment && b == 0x3A)
    let after := rest.drop name.length
    match if after = [] && !isLast then none else homeOf runner name with
    | some home => Cell.ofBytes true isValue home ++ plain after
    | none => plain bytes
  | _ => plain bytes

/-- The cells of a text with a tilde at its beginning or, in assignments, after any colon. -/
def tildes (runner : Runner) (inAssignment isValue isFirst isLast : Bool) (bytes : Bytes) :
    List Cell :=
  if !inAssignment then
    if isFirst then tilde runner false isValue isLast bytes else Cell.ofBytes false isValue bytes
  else
    let pieces := Text.pieces (· == 0x3A) bytes
    let shown := pieces.zipIdx.map fun (piece, position) =>
      if position = 0 && !isFirst then Cell.ofBytes false isValue piece
      else tilde runner true isValue (isLast || position + 1 < pieces.length) piece
    (shown.intersperse (Cell.ofBytes false isValue [0x3A])).flatten

/-- The value of a parameter. Those that stand for all parameters are left to the caller. -/
def Runner.parameter? (runner : Runner) (name : Bytes) : Option Bytes :=
  match name with
  | [0x3F] => some (ofNat runner.status)
  | [0x23] => some (ofNat runner.process.arguments.length)
  | [0x24] => some processNumber
  | [0x21] => some ((runner.jobs.head?.map (·.1)).getD [])
  | [0x2D] =>
    let letters := (optionNames.reverse.filterMap (·.2)).filter runner.options.contains
    some (ofString (String.ofList letters))
  | _ =>
    if name.all Numeral.isDigit then
      match Numeral.value 10 name with
      | 0 => some runner.process.name
      | position + 1 => runner.process.arguments[position]?
    else runner.value? name

def isAll (name : Bytes) : Bool := name == [0x40] || name == [0x2A]

/-- The cells of all parameters. -/
def allParameters (runner : Runner) (quoted : Bool) (name : Bytes) : List Cell :=
  let arguments := runner.process.arguments
  if quoted && name == [0x2A] then
    Cell.ofBytes true true (arguments.intersperse runner.between).flatten
  else
    let shown (argument : Bytes) :=
      (if quoted then [Cell.mark] else []) ++ Cell.ofBytes quoted true argument
    ((arguments.map shown).intersperse [.border]).flatten

/-- The value of a parameter, with those that stand for all of them. -/
def valueOf (runner : Runner) (name : Bytes) : Option Bytes :=
  if isAll name then
    if runner.process.arguments = [] then none
    else some (runner.process.arguments.intersperse runner.between).flatten
  else runner.parameter? name

/-- The value without the shortest or the longest piece at one end that fits a pattern. -/
def trimmed (fromEnd longest : Bool) (pattern : Pattern) (value : Bytes) : Bytes :=
  let lengths := (List.range (value.length + 1))
  let lengths := if longest then lengths.reverse else lengths
  let fits (length : Nat) := pattern.fits
    (if fromEnd then value.drop (value.length - length) else value.take length)
  match lengths.find? fits with
  | some length => if fromEnd then value.take (value.length - length) else value.drop length
  | none => value

/-- What is to be done with a part of a word. -/
structure Context where
  /-- Tildes stand for directories. -/
  inAssignment : Bool := false
  /-- The text belongs to the value of a parameter and is cut like it. -/
  isValue : Bool := false

def withoutNewlines (bytes : Bytes) : Bytes :=
  (bytes.reverse.dropWhile (· == newline)).reverse

/-- The value of an arithmetic expression. -/
def arithmetic (text : Bytes) : Step Int := do
  let fail (complaint : String) : Step Int :=
    Step.fail [ofString ("arithmetic expression: " ++ complaint ++ ": \""), text, ofString "\""]
  let get (name : Bytes) : Step Int := do
    match (← MonadState.get).value? name with
    | none =>
      if (← MonadState.get).isOn 'u' then Step.fail [name, ofString ": parameter not set"]
      else return 0
    | some value =>
      match Numeral.read? value with
      | some (number, rest) =>
        if rest.all Numeral.isBlank then return Arithmetic.clamped number
        else Step.fail [ofString "Illegal number: ", value]
      | none =>
        if value.all Numeral.isBlank then return 0
        else Step.fail [ofString "Illegal number: ", value]
  (Arithmetic.read text).value fail get fun name value => Step.assign name (Numeral.ofInt value)

/-- The cells of a word. Commands in it are carried out by `capture`; the fuel bounds how deep
words lie within words. -/
def cells (capture : Statement → Step Bytes) : Nat → Context → Word → Step (List Cell)
  | 0, _, _ => throw (.replaced .unfinished)
  | fuel + 1, context, word => do
    let within (word : Word) : Step (List Cell) :=
      cells capture fuel { context with isValue := true } word
    let bytes (word : Word) : Step Bytes := do
      let cells ← cells capture fuel { isValue := true } word
      return Cell.bytes (← get).between cells
    let parameter (quoted : Bool) (name : Bytes) (use : Use) : Step (List Cell) := do
      let runner ← get
      let value := valueOf runner name
      let plain (value : Bytes) := Cell.ofBytes quoted true value
      let unset := [name, ofString ": parameter not set"]
      let required : Step Bytes := do
        if value.isNone && runner.isOn 'u' && !isAll name then Step.fail unset
        else return value.getD []
      let missing (orEmpty : Bool) := value.isNone || (orEmpty && value == some [])
      let whole : List Cell := if isAll name then allParameters runner quoted name
        else plain (value.getD [])
      match use with
      | .value => if isAll name then return whole else return plain (← required)
      | .length => return plain (ofNat (← required).length)
      | .otherwise orEmpty word => if missing orEmpty then within word else return whole
      | .instead orEmpty word => if missing orEmpty then return [] else within word
      | .assign orEmpty word =>
        if missing orEmpty then
          let value ← bytes word
          if isName name then
            Step.assign name value
            return plain value
          else Step.fail [name, ofString ": bad variable name"]
        else return whole
      | .demand orEmpty word =>
        if missing orEmpty then
          if word.isEmpty then
            Step.fail (unset ++ if orEmpty then [ofString " or null"] else [])
          else Step.fail [name, ofString ": ", ← bytes word]
        else return whole
      | .trim fromEnd longest pattern =>
        let pattern := Pattern.of (Cell.pattern (← within pattern))
        return plain (trimmed fromEnd longest pattern (← required))
      | .senseless => Step.fail [ofString "Bad substitution"]
    let parts ← word.zipIdx.mapM fun (part, position) => do
      let runner ← get
      match part with
      | .text false bytes =>
        return tildes runner context.inAssignment context.isValue (position == 0)
          (position + 1 == word.length) bytes
      | .text true bytes => return Cell.ofBytes true context.isValue bytes
      | .mark => return [.mark]
      | .parameter quoted name use => parameter quoted name use
      | .command quoted body =>
        return Cell.ofBytes quoted true (withoutNewlines (← capture body))
      | .arithmetic quoted parts =>
        let text := Cell.bytes runner.between (← cells capture fuel {} parts)
        return Cell.ofBytes quoted true (Numeral.ofInt (← arithmetic text))
    return parts.flatten

/-- How deep words may lie within words. -/
def wordDepth : Nat := 1000

/-- The bytes of a word that is not cut into fields. -/
def joined (capture : Statement → Step Bytes) (inAssignment : Bool) (word : Word) :
    Step Bytes := do
  let cells ← cells capture wordDepth { inAssignment } word
  return Cell.bytes (← get).between cells

/-- The pattern that a word is. -/
def patternOf (capture : Statement → Step Bytes) (word : Word) : Step Pattern := do
  return Pattern.of (Cell.pattern (← cells capture wordDepth {} word))

/-- The fields of a word. -/
def fields (capture : Statement → Step Bytes) (word : Word) : Step (List Bytes) := do
  let cells ← cells capture wordDepth {} word
  let runner ← get
  let fields := Cell.fields runner.separators cells
  if runner.isOn 'f' then return fields.map (Cell.bytes [])
  else return fields.flatMap (Cell.expanded (← Step.act MonadState.get).files
    runner.process.directory)

end LineShell.Host.Script
