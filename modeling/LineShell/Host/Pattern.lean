import LineShell.Files.Access
import LineShell.Host.Numeral

/-!
Patterns of names: a star stands for anything, a question mark for one byte, and a bracket for one
byte out of a set. Bytes that were quoted stand for themselves.
-/
namespace LineShell.Host

/-- A byte of a pattern, and whether it was quoted. -/
abbrev Pattern.Source := List (UInt8 × Bool)

/-- What a set in brackets is made of. -/
inductive Pattern.Item where
  | range (first last : UInt8)
  | named (name : String)

inductive Pattern.Glyph where
  | byte (b : UInt8)
  | any
  | many
  | set (negated : Bool) (items : List Pattern.Item)

abbrev Pattern := List Pattern.Glyph

namespace Pattern

def isUpper (b : UInt8) : Bool := 0x41 ≤ b && b ≤ 0x5A

def isLower (b : UInt8) : Bool := 0x61 ≤ b && b ≤ 0x7A

/-- The sets that have names. -/
def classes : List (String × (UInt8 → Bool)) :=
  let isLetter := fun b => isUpper b || isLower b
  let isShown := fun (b : UInt8) => 0x20 < b && b < 0x7F
  [("alnum", fun b => isLetter b || Numeral.isDigit b), ("alpha", isLetter),
    ("blank", fun b => b == 0x20 || b == 0x09), ("cntrl", fun b => b < 0x20 || b == 0x7F),
    ("digit", Numeral.isDigit), ("graph", isShown), ("lower", isLower),
    ("print", fun b => isShown b || b == 0x20),
    ("punct", fun b => isShown b && !(isLetter b || Numeral.isDigit b)),
    ("space", Numeral.isBlank), ("upper", isUpper), ("xdigit", Numeral.isHexadecimal)]

def Item.holds (b : UInt8) : Item → Bool
  | .range first last => first ≤ b && b ≤ last
  | .named name => ((classes.lookup name).map (· b)).getD false

/-- The name of a set, and what follows it, given what comes after the inner bracket. -/
def named? : Source → Option (String × Source)
  | (0x3A, _) :: rest =>
    let letters := rest.takeWhile fun unit => isLower unit.1
    let name := Bytes.display (letters.map (·.1))
    match rest.drop letters.length with
    | (0x3A, _) :: (0x5D, _) :: after =>
      if (classes.lookup name).isSome then some (name, after) else none
    | _ => none
  | _ => none

/-- The items of a set up to its closing bracket, which does not close the set if it comes
first. -/
def items? : Nat → Bool → Source → Option (List Item × Source)
  | 0, _, _ | _, _, [] => none
  | fuel + 1, first, (b, quoted) :: rest =>
    let also (item : Item) (rest : Source) :=
      (items? fuel false rest).map fun (items, rest) => (item :: items, rest)
    if b = 0x5D ∧ quoted = false ∧ first = false then some ([], rest)
    else match (if b = 0x5B ∧ quoted = false then named? rest else none), rest with
      | some (name, rest), _ => also (.named name) rest
      | none, (0x2D, false) :: (last, lastQuoted) :: after =>
        if last = 0x5D ∧ lastQuoted = false then also (.range b b) rest
        else also (.range b last) after
      | none, _ => also (.range b b) rest

/-- The pattern that is written so. A bracket that is never closed stands for itself. -/
def ofSource : Nat → Source → Pattern
  | 0, _ | _, [] => []
  | fuel + 1, (b, true) :: rest => .byte b :: ofSource fuel rest
  | fuel + 1, (b, false) :: rest =>
    match b, rest with
    | 0x5C, (next, _) :: after => .byte next :: ofSource fuel after
    | 0x2A, _ => .many :: ofSource fuel rest
    | 0x3F, _ => .any :: ofSource fuel rest
    | 0x5B, _ =>
      let (negated, inside) := match rest with
        | (0x21, false) :: inside | (0x5E, false) :: inside => (true, inside)
        | inside => (false, inside)
      match items? (inside.length + 1) true inside with
      | some (items, after) => .set negated items :: ofSource fuel after
      | none => .byte b :: ofSource fuel rest
    | _, _ => .byte b :: ofSource fuel rest

def of (source : Source) : Pattern := ofSource source.length source

def isSpecial : Glyph → Bool
  | .byte _ => false
  | _ => true

/-- The bytes of a pattern that is a plain name. -/
def plain (pattern : Pattern) : Bytes :=
  pattern.filterMap fun glyph => match glyph with
    | .byte b => some b
    | _ => none

def Glyph.holds (b : UInt8) : Glyph → Bool
  | .byte c => b == c
  | .any | .many => true
  | .set negated items => items.any (·.holds b) != negated

/-- Whether a pattern fits a whole name. -/
def fits : Pattern → Bytes → Bool
  | [], name => name.isEmpty
  | .many :: rest, name => (List.range (name.length + 1)).any fun n => fits rest (name.drop n)
  | _ :: _, [] => false
  | glyph :: rest, b :: name => glyph.holds b && fits rest name

/-- How names are put in order. -/
def before (first second : Bytes) : Bool := !(second.map (·.toNat) < first.map (·.toNat))

/-- The names in a directory that fit. A dot at the beginning has to be written. -/
def entries (files : Files) (here : NodeId) (directory : Bytes) (pattern : Pattern) :
    List Bytes :=
  let place := if directory = [] then some here else (files.find here directory).toOption
  match place.bind files.node? with
  | some (.directory _ entries) =>
    let names := [Path.dot] :: [Path.dot, Path.dot] :: entries.map (·.1)
    let hidden := match pattern with
      | .byte b :: _ => b == Path.dot
      | _ => false
    let isShown (name : Bytes) : Bool := hidden || name.head? != some Path.dot
    (names.filter fun name => isShown name && fits pattern name).mergeSort before
  | _ => []

/-- The paths that a pattern fits, given the patterns of their names. -/
def pathsIn (files : Files) (here : NodeId) : List Source → List Bytes → List Bytes
  | [], fronts => fronts
  | piece :: others, fronts =>
    let pattern := of piece
    let next := fronts.flatMap fun front =>
      if pattern.any isSpecial then
        (entries files here front pattern).map (front ++ ·)
      else [front ++ plain pattern]
    let next := next.filter fun path => path = [] || match files.locate false here path with
      | .ok (.found _) => true
      | _ => false
    pathsIn files here others
      (if others = [] then next else next.map fun path => path ++ [Path.slash])

/-- The paths that a pattern fits, in order. -/
def paths (files : Files) (here : NodeId) (source : Source) : List Bytes :=
  pathsIn files here (Text.pieces (fun unit => unit.1 == Path.slash) source) [[]]

end Pattern

end LineShell.Host
