import LineShell.Host.Condition.Basic

/-!
Conditions of scripts. A list of words is read from left to right; a word may be an operator or
an operand, which depends on the words behind it.
-/
namespace LineShell.Host.Condition

namespace Script

/-- The integers of scripts are words. -/
def number (word : Bytes) : Answer Int :=
  match (integer? word).filter fun value => Numeral.lowest ≤ value && value ≤ Numeral.highest with
  | some value => .ok value
  | none => .error [ofString "Illegal number: ", word]

inductive Lexeme where
  | ending
  | operand
  | unary (operator : String)
  | binary (operator : String)
  | mark (operator : String)
  deriving DecidableEq, Repr

def isBinary (word : Bytes) : Bool := ("<" :: ">" :: binaries).contains (spelling word)

/-- What the first of some words is. A question of one operand is an operand itself where no
operand follows it. -/
def lexeme : List Bytes → Lexeme
  | [] => .ending
  | word :: rest =>
    let text := spelling word
    let alone := match rest with
      | [] => true
      | [_] => false
      | next :: _ => isBinary next
    if unaries.contains text then if alone then .operand else .unary text
    else if isBinary word then .binary text
    else if ["!", "-a", "-o", ")"].contains text then .mark text
    else if text = "(" ∧ rest ≠ [] then .mark text
    else .operand

mutual

/-- Conditions joined by `-o`; the words that are left begin with the last one that was used. -/
def either (scene : Scene) : Nat → Lexeme → List Bytes → Answer (Bool × List Bytes)
  | 0, _, words => .ok (false, words)
  | fuel + 1, lexeme, words => do
    let (first, words) ← both scene fuel lexeme words
    if Script.lexeme words.tail = .mark "-o" then
      let words := words.drop 2
      let (second, words) ← either scene fuel (Script.lexeme words) words
      return (first || second, words)
    else return (first, words)

/-- Conditions joined by `-a`. -/
def both (scene : Scene) : Nat → Lexeme → List Bytes → Answer (Bool × List Bytes)
  | 0, _, words => .ok (false, words)
  | fuel + 1, lexeme, words => do
    let (first, words) ← denied scene fuel lexeme words
    if Script.lexeme words.tail = .mark "-a" then
      let words := words.drop 2
      let (second, words) ← both scene fuel (Script.lexeme words) words
      return (first && second, words)
    else return (first, words)

/-- A condition that may be denied. -/
def denied (scene : Scene) : Nat → Lexeme → List Bytes → Answer (Bool × List Bytes)
  | 0, _, words => .ok (false, words)
  | fuel + 1, .mark "!", words => do
    let next := Script.lexeme words.tail
    let (holds, words) ← denied scene fuel next (if next = .ending then words else words.tail)
    return (!holds, words)
  | fuel + 1, lexeme, words => primary scene fuel lexeme words

/-- One condition. -/
def primary (scene : Scene) : Nat → Lexeme → List Bytes → Answer (Bool × List Bytes)
  | 0, _, words | _, .ending, words => .ok (false, words)
  | fuel + 1, .mark "(", words => do
    let words := words.tail
    if lexeme words = .mark ")" then return (false, words)
    let (holds, words) ← either scene fuel (lexeme words) words
    if lexeme words.tail = .mark ")" then return (holds, words.tail)
    else throw [ofString "closing paren expected"]
  | _ + 1, .unary operator, words =>
    match words.tail with
    | [] => .error [ofString (operator ++ ": argument expected")]
    | operand :: _ => do return (← scene.one number operator operand, words.tail)
  | _ + 1, _, words =>
    match lexeme words.tail, words with
    | .binary operator, first :: _ :: second :: rest => do
      return (← scene.two number operator first second, second :: rest)
    | .binary operator, _ => .error [ofString (operator ++ ": argument expected")]
    | _, first :: _ => .ok (first != [], words)
    | _, [] => .ok (false, words)

end

/-- Whether the condition holds that the words of a script state. -/
def holds (scene : Scene) (words : List Bytes) : Answer Bool := do
  let bracketed := words.head? = some (ofString "(") && words.getLast? = some (ofString ")")
  let inner := if (words.length = 3 || words.length = 4) && bracketed then
    (words.drop 1).dropLast
  else words
  let opening := match words with
    | [first, operator, second] =>
      if isBinary operator then (Lexeme.operand, words)
      else if bracketed then (lexeme inner, inner)
      else (if first = ofString "!" then .mark "!" else lexeme [first, operator, second], words)
    | first :: _ =>
      if words.length = 4 && !bracketed && first = ofString "!" then (.mark "!", words)
      else (lexeme inner, inner)
    | [] => (.ending, [])
  let (holds, rest) ← either scene (4 * words.length + 8) opening.1 opening.2
  match rest with
  | word :: _ :: _ =>
    .error [word, ofString (if word = [] then "unexpected operator" else ": unexpected operator")]
  | _ => .ok holds

end Script

end LineShell.Host.Condition
