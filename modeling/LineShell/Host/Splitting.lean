import LineShell.Environment
import LineShell.Host.Numeral

/-!
One text as several arguments: they stand apart at blanks, quotes keep them together, and names in
braces behind a dollar sign stand for variables.
-/
namespace LineShell.Host

/-- What has been split off so far. -/
structure Splitting where
  done : List Bytes := []
  current : Option Bytes := none
  /-- The quote that is open. -/
  quote : Option UInt8 := none

namespace Splitting

def ofString (s : String) : Bytes := Bytes.ofString s

/-- Adds bytes to the present argument, which begins with them if there is none. -/
def add (splitting : Splitting) (bytes : Bytes) : Splitting :=
  { splitting with current := some (splitting.current.getD [] ++ bytes) }

/-- Ends the present argument. -/
def close (splitting : Splitting) : Splitting :=
  { splitting with done := splitting.done ++ splitting.current.toList, current := none }

/-- Opens or closes a quote. -/
def toggle (splitting : Splitting) (mark : UInt8) : Splitting :=
  { splitting.add [] with
    quote := if splitting.quote = some mark then none else some mark }

/-- The arguments in the end. -/
def finish (splitting : Splitting) : Except (List Bytes) (List Bytes) :=
  if splitting.quote.isSome then .error [ofString "no terminating quote in -S string"]
  else .ok splitting.close.done

/-- The name in the braces that a text begins with. -/
def braced? (text : Bytes) : Option Bytes :=
  match text with
  | 0x7B :: rest =>
    let name := rest.takeWhile fun b =>
      Numeral.isDigit b || (0x41 ≤ b && b ≤ 0x5A) || (0x61 ≤ b && b ≤ 0x7A) || b == 0x5F
    if name ≠ [] ∧ !name.head?.any Numeral.isDigit ∧ (rest.drop name.length).head? = some 0x7D then
      some name
    else none
  | _ => none

/-- Controls that are escaped by a letter. -/
def letters : List (UInt8 × UInt8) :=
  [(0x66, 0x0C), (0x6E, 0x0A), (0x72, 0x0D), (0x74, 0x09), (0x76, 0x0B)]

/-- Splits the rest of a text. The fuel bounds its length. -/
def go (environment : Environment) :
    Nat → Splitting → Bytes → Except (List Bytes) (List Bytes)
  | 0, splitting, _ | _, splitting, [] => splitting.finish
  | fuel + 1, splitting, b :: rest => do
    let isSingle : Bool := splitting.quote = some 0x27
    let isDouble : Bool := splitting.quote = some 0x22
    if (b = 0x27 ∧ !isDouble) ∨ (b = 0x22 ∧ !isSingle) then
      go environment fuel (splitting.toggle b) rest
    else if Numeral.isBlank b ∧ splitting.quote = none then
      go environment fuel splitting.close rest
    else if b = 0x23 ∧ splitting.current = none then splitting.finish
    else if b = 0x24 ∧ !isSingle then
      match braced? rest with
      | none =>
        throw [ofString "only $\x7bVARNAME\x7d expansion is supported, error at: ", b :: rest]
      | some name =>
        let after := rest.drop (name.length + 2)
        match environment.get? name with
        | some value => go environment fuel (splitting.add value) after
        | none => go environment fuel splitting after
    else if b = 0x5C ∧ (!isSingle ∨ rest.head? = some 0x5C ∨ rest.head? = some 0x27) then
      match rest with
      | [] => throw [ofString "invalid backslash at end of string in -S"]
      | c :: after =>
        if c = 0x5F then
          go environment fuel (if isDouble then splitting.add [0x20] else splitting.close) after
        else if c = 0x63 then
          if isDouble then throw [ofString "'\\c' must not appear in double-quoted -S string"]
          else splitting.finish
        else if (ofString "\"#$'\\").contains c then
          go environment fuel (splitting.add [c]) after
        else match letters.lookup c with
          | some control => go environment fuel (splitting.add [control]) after
          | none => throw [ofString "invalid sequence '\\", [c], ofString "' in -S"]
    else go environment fuel (splitting.add [b]) rest

/-- The arguments that a text stands for. -/
def split (environment : Environment) (text : Bytes) : Except (List Bytes) (List Bytes) :=
  go environment (text.length + 1) {} text

end Splitting

end LineShell.Host
