import LineShell.Host.Condition.Basic
import LineShell.Host.Quote

/-!
Conditions of the utility. Up to four words are read by their number, and more of them by what
they are.
-/
namespace LineShell.Host.Condition

namespace Utility

/-- The integers of the utility may be of any size. -/
def number (word : Bytes) : Answer Int :=
  match integer? word with
  | some value => .ok value
  | none => .error [ofString "invalid integer ", Quote.escaped word]

def isBinary (word : Bytes) : Bool := ("==" :: binaries).contains (spelling word)

/-- What is complained of when words are missing. -/
def missing (all : List Bytes) : List Bytes :=
  [ofString "missing argument after ", Quote.escaped (all.getLastD [])]

/-- The utility also asks whether a file has been written to since it was last read, which is never
known. -/
def isUnary (word : Bytes) : Bool := ("-N" :: unaries).contains (spelling word)

/-- A question of one operand, which begins with a dash and has one letter. -/
def unary (scene : Scene) (all : List Bytes) : List Bytes → Answer (Bool × List Bytes)
  | operator :: operand :: rest => do
    if isUnary operator then
      return (← scene.one number (spelling operator) operand, rest)
    else throw [Quote.escaped operator, ofString ": unary operator expected"]
  | [operator] =>
    if isUnary operator then .error (missing all)
    else .error [Quote.escaped operator, ofString ": unary operator expected"]
  | [] => .error (missing all)

def isSwitch (word : Bytes) : Bool := word.length == 2 && word.head? == some 0x2D

/-- A condition of two words. -/
def pair (scene : Scene) (all : List Bytes) : List Bytes → Answer (Bool × List Bytes)
  | first :: second :: rest =>
    if first = ofString "!" then .ok (second == [], rest)
    else if isSwitch first then unary scene all (first :: second :: rest)
    else .error (missing all)
  | _ => .error (missing all)

/-- The other joints of conditions. -/
def isJoint (word : Bytes) : Bool := ["-a", "-o"].contains (spelling word)

mutual

/-- A condition of so many words; the whole argument list serves for complaints. -/
def counted (scene : Scene) (all : List Bytes) : Nat → Nat → List Bytes →
    Answer (Bool × List Bytes)
  | 0, _, words => .ok (false, words)
  | fuel + 1, count, words =>
    match count, words with
    | 1, word :: rest => .ok (word != [], rest)
    | 2, words => pair scene all words
    | 3, first :: operator :: second :: rest =>
      if isBinary operator then do
        return (← scene.two number (spelling operator) first second, rest)
      else if first = ofString "!" then do
        let (holds, rest) ← pair scene all (operator :: second :: rest)
        return (!holds, rest)
      else if first = ofString "(" ∧ second = ofString ")" then .ok (operator != [], rest)
      else if isJoint operator then either scene all fuel words
      else .error [Quote.escaped operator, ofString ": binary operator expected"]
    | 4, first :: second :: third :: fourth :: rest =>
      if first = ofString "!" then do
        let (holds, rest) ← counted scene all fuel 3 (second :: third :: fourth :: rest)
        return (!holds, rest)
      else if first = ofString "(" ∧ fourth = ofString ")" then do
        let (holds, _) ← pair scene all [second, third]
        return (holds, rest)
      else either scene all fuel words
    | _, words => either scene all fuel words

/-- Conditions joined by `-o`. -/
def either (scene : Scene) (all : List Bytes) : Nat → List Bytes → Answer (Bool × List Bytes)
  | 0, words => .ok (false, words)
  | fuel + 1, words => do
    let (first, words) ← both scene all fuel words
    match words with
    | joint :: rest =>
      if joint = ofString "-o" then
        let (second, rest) ← either scene all fuel rest
        return (first || second, rest)
      else return (first, words)
    | [] => return (first, [])

/-- Conditions joined by `-a`. -/
def both (scene : Scene) (all : List Bytes) : Nat → List Bytes → Answer (Bool × List Bytes)
  | 0, words => .ok (false, words)
  | fuel + 1, words => do
    let (first, words) ← term scene all fuel words
    match words with
    | joint :: rest =>
      if joint = ofString "-a" then
        let (second, rest) ← both scene all fuel rest
        return (first && second, rest)
      else return (first, words)
    | [] => return (first, [])

/-- One condition, which may be denied or stand in brackets. -/
def term (scene : Scene) (all : List Bytes) : Nat → List Bytes → Answer (Bool × List Bytes)
  | 0, words => .ok (false, words)
  | _, [] => .error (missing all)
  | fuel + 1, first :: rest =>
    if first = ofString "!" then do
      if rest = [] then throw (missing all)
      let (holds, rest) ← term scene all fuel rest
      return (!holds, rest)
    else if first = ofString "(" then do
      if rest = [] then throw (missing all)
      let inside := 1 + (rest.drop 1).findIdx (· == ofString ")")
      let count := if 4 ≤ inside then rest.length else inside
      match ← counted scene all fuel count rest with
      | (_, []) => throw [ofString "')' expected"]
      | (holds, closing :: rest) =>
        if closing = ofString ")" then return (holds, rest)
        else throw [ofString "')' expected, found ", Quote.escaped closing]
    else match rest with
      | operator :: second :: after =>
        if isBinary operator then do
          return (← scene.two number (spelling operator) first second, after)
        else if isSwitch first then unary scene all (first :: rest)
        else .ok (first != [], rest)
      | _ => if isSwitch first then unary scene all (first :: rest) else .ok (first != [], rest)

end

/-- Whether the condition holds that the words of the utility state. -/
def holds (scene : Scene) (words : List Bytes) : Answer Bool := do
  if words = [] then return false
  match ← counted scene words (8 * words.length + 8) words.length words with
  | (holds, []) => return holds
  | (_, word :: _) => throw [ofString "extra argument ", Quote.escaped word]

end Utility

end LineShell.Host.Condition
