import LineShell.Host.Numeral
import LineShell.Host.Utility.Files

/-!
Utilities that print or count the bytes of files.
-/
namespace LineShell.Host.Utility

/-- What is shown of the bytes of a file beside themselves. -/
structure Rendering where
  /-- Lines have numbers. -/
  numbers : Bool := false
  /-- Lines have numbers only if there is something in them. -/
  filled : Bool := false
  /-- Of empty lines in a row only one is shown. -/
  squeezes : Bool := false
  ends : Bool := false
  tabs : Bool := false
  controls : Bool := false

namespace Rendering

/-- Where in the lines printing stands: the number of the last line, and how many empty lines came
last, unless it is within a line. -/
structure Place where
  number : Nat := 0
  blanks : Option Nat := some 0

/-- A byte as it is shown, given what follows it. -/
def shown (rendering : Rendering) (b : UInt8) (rest : Bytes) : Bytes :=
  let low (b : UInt8) : Bytes := if b < 0x20 then [0x5E, b + 0x40]
    else if b = 0x7F then [0x5E, 0x3F] else [b]
  if b = 0x09 then if rendering.tabs then [0x5E, 0x49] else [b]
  else if rendering.controls then
    if b < 0x80 then low b else [0x4D, 0x2D] ++ low (b - 0x80)
  else if b = 0x0D ∧ rendering.ends ∧ rest.head? = some 0x0A then [0x5E, 0x4D]
  else [b]

/-- The number of the next line, and the place behind it. -/
def numbered (place : Place) : Bytes × Place :=
  let number := place.number + 1
  let digits := Numeral.digits 10 number
  (List.replicate (6 - digits.length) 0x20 ++ digits ++ [0x09], { place with number })

/-- Shows bytes from a place on. -/
def render (rendering : Rendering) : Place → Bytes → Bytes × Place
  | place, [] => ([], place)
  | place, b :: rest =>
    if b = 0x0A then
      let blanks := place.blanks.elim 0 (· + 1)
      let after (place : Place) : Place := { place with blanks := some (min blanks 2) }
      if rendering.squeezes ∧ 2 ≤ blanks then rendering.render (after place) rest
      else
        let (number, place) :=
          if 0 < blanks ∧ rendering.numbers ∧ !rendering.filled then numbered place
          else ([], place)
        let (others, place) := rendering.render (after place) rest
        (number ++ (if rendering.ends then [0x24] else []) ++ 0x0A :: others, place)
    else
      let (number, place) := if place.blanks.isSome ∧ rendering.numbers then numbered place
        else ([], place)
      let (others, place) := rendering.render { place with blanks := none } rest
      (number ++ rendering.shown b rest ++ others, place)

end Rendering

/-- Whether what is read from a place in a file is what the output goes on to write. -/
def feedsItself (process : Process) (id : NodeId) (position : Nat) : Act Bool := do
  let machine ← get
  return match (process.descriptors.lookup 1).bind (machine.openings[·]?) with
    | some (.node other place _ true appends) =>
      let size := ((machine.files.contentOf id).toOption.getD []).length
      id == other && decide (position < if appends then size else place)
    | _ => false

/-- The node that a path or a dash leads to, and where in it reading begins. -/
def sourceOf (process : Process) (path : Bytes) : Act (Option (NodeId × Nat)) := do
  let machine ← get
  if path = [0x2D] then
    return match (process.descriptors.lookup 0).bind (machine.openings[·]?) with
      | some (.node id position ..) => some (id, position)
      | _ => none
  else return ((machine.files.find process.directory path).toOption).map ((·, 0))

/-- Prints files one after the other. -/
def cat : Utility := fun process =>
  let known := [⟨'b', "number-nonblank", .nothing⟩, ⟨'n', "number", .nothing⟩,
    ⟨'s', "squeeze-blank", .nothing⟩, ⟨'v', "show-nonprinting", .nothing⟩,
    ⟨'E', "show-ends", .nothing⟩, ⟨'T', "show-tabs", .nothing⟩, ⟨'A', "show-all", .nothing⟩,
    ⟨'e', "", .nothing⟩, ⟨'t', "", .nothing⟩, ⟨'u', "", .nothing⟩]
  withSwitches process known 1 fun switches => do
    let has := switches.hasLetter
    let rendering : Rendering :=
      { numbers := has 'n' || has 'b'
        filled := has 'b'
        squeezes := has 's'
        ends := has 'E' || has 'A' || has 'e'
        tabs := has 'T' || has 'A' || has 't'
        controls := has 'v' || has 'A' || has 'e' || has 't' }
    let operands := if switches.operands = [] then [[0x2D]] else switches.operands
    if (process.descriptors.lookup 1).isNone then
      complain process [ofString "standard output: ", ofString Refusal.badDescriptor.reason]
      return 1
    let (code, _) ← operands.foldlM (fun (code, place) path => do
      let refuse (reason : String) : Act (Nat × Rendering.Place) := do
        complain process [Quote.ifNeeded path, ofString (": " ++ reason)]
        return (1, place)
      let isOwn ← match ← sourceOf process path with
        | some (id, position) => feedsItself process id position
        | none => pure false
      if isOwn then refuse "input file is output file"
      else match ← contentAt process path with
        | .ok bytes =>
          let (shown, place) := if switches.given = [] then (bytes, place)
            else rendering.render place bytes
          process.put shown
          return (code, place)
        | .error refusal => refuse refusal.reason) (0, {})
    if operands.contains [0x2D] ∧ (process.descriptors.lookup 0).isNone then
      complain process [ofString "closing standard input: ",
        ofString Refusal.badDescriptor.reason]
      return 1
    return code

/-- A share of the lines or bytes of a file: so many from the beginning, or all but so many. -/
structure Share where
  ofLines : Bool
  count : Nat
  /-- All but so many. -/
  isRest : Bool

/-- The lines of a text, each with its end. -/
def lines : Nat → Bytes → List Bytes
  | 0, _ | _, [] => []
  | fuel + 1, text =>
    let line := text.takeWhile (· != 0x0A)
    let whole := text.take (line.length + 1)
    whole :: lines fuel (text.drop whole.length)

namespace Share

def units (share : Share) (text : Bytes) : List Bytes :=
  if share.ofLines then lines (text.length + 1) text else text.map ([·])

def first (share : Share) (text : Bytes) : Bytes :=
  let units := share.units text
  (units.take (if share.isRest then units.length - share.count else share.count)).flatten

/-- So much of the end, or what begins with a line or byte of some number. -/
def last (share : Share) (text : Bytes) : Bytes :=
  let units := share.units text
  (units.drop (if share.isRest then share.count - 1 else units.length - share.count)).flatten

/-- The share that a number asks for, with a mark before it for the rest. -/
def parse? (ofLines : Bool) (mark : UInt8) (number : Bytes) : Option Share :=
  let isRest := number.head? == some mark
  let digits := if number.head?.any (ofString "+-").contains then number.tail else number
  if digits ≠ [] ∧ digits.all Numeral.isDigit then
    some ⟨ofLines, Numeral.value 10 digits, isRest⟩
  else none

end Share

/-- The first line of a share of a file, where there are several. -/
def heading (isFirst : Bool) (path : Bytes) : Bytes :=
  let name := if path = [0x2D] then ofString "standard input" else path
  ofString (if isFirst then "==> " else "\n==> ") ++ name ++ ofString " <==\n"

/-- Arguments of which the first may be a number of lines behind a dash. -/
def withLineCount : List Bytes → List Bytes
  | (0x2D :: digit :: more) :: rest =>
    if Numeral.isDigit digit && more.all Numeral.isDigit then
      ofString "-n" :: (digit :: more) :: rest
    else (0x2D :: digit :: more) :: rest
  | arguments => arguments

/-- Prints a share of each file. -/
def shares (mark : UInt8) (part : Share → Bytes → Bytes) : Utility := fun process =>
  let known := [⟨'c', "bytes", .argument⟩, ⟨'n', "lines", .argument⟩, ⟨'q', "quiet", .nothing⟩,
    ⟨'q', "silent", .nothing⟩, ⟨'v', "verbose", .nothing⟩, ⟨'z', "zero-terminated", .nothing⟩]
  let process := { process with arguments := withLineCount process.arguments }
  withSwitches process known 1 fun switches => do
    let wanted := switches.given.reverse.find? fun (switch, _) => switch.takes = .argument
    let ofLines := wanted.all (·.1.word == "lines")
    let number := (wanted.map (·.2)).getD (ofString "10")
    match Share.parse? ofLines mark number with
    | none =>
      complain process [ofString ("invalid number of " ++ if ofLines then "lines: " else "bytes: "),
        Quote.escaped number]
      return 1
    | some share =>
      let operands := if switches.operands = [] then [[0x2D]] else switches.operands
      let isQuiet := switches.hasLetter 'q'
      let titled := switches.has "verbose" || (1 < operands.length && !isQuiet)
      let (code, _) ← operands.foldlM (fun (code, isFirst) path => do
        let found ← contentAt process path
        let title := if titled then heading isFirst path else []
        match found with
        | .ok bytes =>
          process.put (title ++ part share bytes)
          return (code, false)
        | .error .isDirectory =>
          process.put title
          complain process (refused "error reading" path .isDirectory)
          return (1, false)
        | .error refusal =>
          complain process [ofString "cannot open ", Quote.always path,
            ofString (" for reading: " ++ refusal.reason)]
          return (1, isFirst)) (0, true)
      return code

def head : Utility := shares 0x2D Share.first

def tail : Utility := shares 0x2B Share.last

/-- The counts of a text: its lines, words and bytes, and the length of its longest line. -/
def counts (text : Bytes) : List Nat :=
  let widths := (Text.pieces (· == 0x0A) text).map List.length
  [text.count 0x0A, ((Text.pieces Numeral.isBlank text).filter (!·.isEmpty)).length, text.length,
    widths.foldl max 0]

/-- The size of the file that a path or a dash leads to, unless it is known only in the end. -/
def sizeOf? (process : Process) (path : Bytes) : Act (Option Nat) := do
  let machine ← get
  match ← sourceOf process path with
  | some (id, _) =>
    return match machine.files.node? id with
      | some (.file _ content) => some content.length
      | some (.program _) => some 0
      | _ => none
  | none =>
    if path ≠ [0x2D] then return some 0
    return match (process.descriptors.lookup 0).bind (machine.openings[·]?) with
      | some .input =>
        if machine.supply.byLine then none else some machine.supply.items.length
      | _ => none

/-- Counts the lines, words and bytes of files. -/
def wc : Utility := fun process =>
  let known := [⟨'c', "bytes", .nothing⟩, ⟨'m', "chars", .nothing⟩, ⟨'l', "lines", .nothing⟩,
    ⟨'w', "words", .nothing⟩, ⟨'L', "max-line-length", .nothing⟩]
  withSwitches process known 1 fun switches => do
    let has := switches.hasLetter
    let isPlain := switches.given.isEmpty
    let columns := [isPlain || has 'l', isPlain || has 'w', isPlain || has 'c' || has 'm', has 'L']
    let chosen (counts : List Nat) : List Nat :=
      (counts.zip columns).filterMap fun (count, isWanted) => if isWanted then some count else none
    let operands := switches.operands
    let sources := if operands = [] then [[0x2D]] else operands
    let sizes ← sources.mapM (sizeOf? process)
    let isSingle := sources.length = 1 ∧ (columns.filter (· == true)).length = 1
    let total := (sizes.filterMap (·)).foldl (· + ·) 0
    let width := if isSingle then 1
      else max (Numeral.digits 10 total).length (if sizes.contains none then 7 else 1)
    let row (counts : List Nat) (name : Bytes) : Act Unit := do
      let cells := (chosen counts).map fun count =>
        let digits := Numeral.digits 10 count
        List.replicate (width - digits.length) 0x20 ++ digits
      process.put (spaced (cells ++ if name = [] then [] else [name]) ++ [0x0A])
    let (code, sums) ← sources.foldlM (fun (code, sums) path => do
      let name := if operands = [] then [] else path
      let count (bytes : Bytes) : Act (List Nat) := do
        let found := counts bytes
        row found name
        return (sums.zip found).map fun (sum, count) => sum + count
      if path = [] then
        complain process [ofString "invalid zero-length file name"]
        return (1, sums)
      match ← contentAt process path with
      | .ok bytes => return (code, ← count bytes)
      | .error refusal =>
        complain process [Quote.ifNeeded path, ofString (": " ++ refusal.reason)]
        return (1, ← if refusal = .isDirectory then count [] else pure sums)) (0, [0, 0, 0, 0])
    if 1 < sources.length then row sums (ofString "total")
    return code

/-- Prints its input, and writes it to files. -/
def tee : Utility := fun process =>
  let known := [⟨'a', "append", .nothing⟩, ⟨'i', "ignore-interrupts", .nothing⟩,
    ⟨'p', "output-error", .nothing⟩]
  withSwitches process known 1 fun switches => do
    let input := (← process.drain 0).toOption.getD []
    process.put input
    switches.operands.foldlM (fun code path => do
      let write := if switches.has "append" then Files.append else Files.write
      match ← change process fun files here => write files here path input with
      | .ok () => return code
      | .error refusal =>
        complain process [Quote.ifNeeded path, ofString (": " ++ refusal.reason)]
        return 1) 0

end LineShell.Host.Utility
