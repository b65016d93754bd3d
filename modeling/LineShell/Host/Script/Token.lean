import LineShell.Host.Script.Reader

/-!
The words and the other tokens of a script. Commands inside of words are read by `body`, which is
the reader of statements.
-/
namespace LineShell.Host.Script

abbrev quote : UInt8 := 0x27
abbrev doubleQuote : UInt8 := 0x22
abbrev backslash : UInt8 := 0x5C
abbrev dollar : UInt8 := 0x24
abbrev backquote : UInt8 := 0x60
abbrev newline : UInt8 := 0x0A

def isNameStart (b : UInt8) : Bool :=
  (0x41 ≤ b && b ≤ 0x5A) || (0x61 ≤ b && b ≤ 0x7A) || b == 0x5F

def isNameByte (b : UInt8) : Bool := isNameStart b || Numeral.isDigit b

def isName (bytes : Bytes) : Bool := bytes.head?.any isNameStart && bytes.all isNameByte

/-- The parameters that are no variables. -/
def isSpecial (b : UInt8) : Bool := Numeral.isDigit b || (Bytes.ofString "#?$!-*@").contains b

def isSpace (b : UInt8) : Bool := b == 0x20 || b == 0x09

/-- Bytes that end a word: blanks, line feeds and the bytes of operators. -/
def endsWord (b : UInt8) : Bool :=
  isSpace b || b == newline || (Bytes.ofString ";&|<>()").contains b

/-- Where a stretch of a word stands. -/
inductive Place where
  | bare
  /-- The mark of a text in the script, in which a dollar sign means nothing. -/
  | announcement
  | double
  | brace (double : Bool)
  | arithmetic
  | document
  deriving DecidableEq, Repr

namespace Place

def isQuoted : Place → Bool
  | .bare | .announcement | .brace false => false
  | _ => true

/-- Whether a backslash takes the meaning from a byte. -/
def escapes (place : Place) (b : UInt8) : Bool :=
  !place.isQuoted || b == backslash || b == backquote || b == dollar ||
    (b == doubleQuote && place != .document) || (b == 0x7D && place == .brace true)

end Place

/-- A dollar sign that means nothing. -/
def loneDollar (place : Place) : List Part := [.text place.isQuoted [dollar]]

/-- The name of a parameter in braces, and whether its length is meant. Nothing is no name. -/
def bracedName : Parse (Option Bytes × Bool) := do
  let name : Parse (Option Bytes) := do
    let fuel ← Parse.fuel
    match ← Parse.peek with
    | some b =>
      if isNameStart b then return some (← Parse.takeWhile isNameByte fuel)
      else if Numeral.isDigit b then return some (← Parse.takeWhile Numeral.isDigit fuel)
      else if isSpecial b then
        Parse.skip
        return some [b]
      else return none
    | none => return none
  if (← Parse.peek) ≠ some 0x23 then return (← name, false)
  else
    Parse.skip
    let reader ← get
    match ← Parse.peek with
    | some b =>
      if isNameByte b then return (← name, true)
      else if b ≠ 0x7D && isSpecial b then
        Parse.skip
        if (← Parse.peek) = some 0x7D then return (some [b], true)
        else
          set reader
          return (some [0x23], false)
      else return (some [0x23], false)
    | none => return (some [0x23], false)

/-- The text between back quotes. Backslashes in it are taken off once. -/
def backquoted (quoted : Bool) : Nat → Parse Bytes
  | 0 => Parse.mistake "EOF in backquote substitution"
  | fuel + 1 => do
    match ← Parse.peek with
    | none => Parse.mistake "EOF in backquote substitution"
    | some b =>
      Parse.skip
      if b = backquote then return []
      else if b = backslash then
        match ← Parse.peekRaw with
        | none => Parse.mistake "EOF in backquote substitution"
        | some c =>
          Parse.skip
          let plain := c = backslash || c = backquote || c = dollar || (quoted && c = doubleQuote)
          let rest ← backquoted quoted fuel
          return (if plain then [c] else [b, c]) ++ rest
      else return b :: (← backquoted quoted fuel)

/-- The bytes between single quotes. -/
def singleQuoted : Nat → Parse Bytes
  | 0 => Parse.mistake "Unterminated quoted string"
  | fuel + 1 => do
    match ← Parse.peekRaw with
    | none => Parse.mistake "Unterminated quoted string"
    | some b =>
      Parse.skip
      if b = quote then return [] else return b :: (← singleQuoted fuel)

/-- The use of a parameter whose name has been read, given the reader of a stretch. -/
def use (stretch : Place → Parse (List Part)) (quoted isLength : Bool) : Parse Use := do
  let word (place : Place) (make : List Part → Use) : Parse Use := do
    let parts ← stretch place
    Parse.skip
    return make parts
  let senseless := word (.brace quoted) fun _ => .senseless
  if isLength then
    if ← Parse.accept 0x7D then return .length else senseless
  else
    let orEmpty ← Parse.accept 0x3A
    let some b ← Parse.peek | senseless
    match Char.ofNat b.toNat, orEmpty with
    | '\x7d', false =>
      Parse.skip
      return .value
    | '-', _ =>
      Parse.skip
      word (.brace quoted) (.otherwise orEmpty)
    | '+', _ =>
      Parse.skip
      word (.brace quoted) (.instead orEmpty)
    | '=', _ =>
      Parse.skip
      word (.brace quoted) (.assign orEmpty)
    | '?', _ =>
      Parse.skip
      word (.brace quoted) (.demand orEmpty)
    | '%', false | '#', false =>
      Parse.skip
      let longest ← Parse.accept b
      word (.brace false) (.trim (b == 0x25) longest)
    | _, _ => senseless

/-- What a dollar sign begins, after that sign. -/
def dollarPart (body : Parse Statement) (stretch : Place → Parse (List Part)) (place : Place) :
    Parse (List Part) := do
  let quoted := place.isQuoted
  match ← Parse.peek with
  | some 0x28 =>
    Parse.skip
    if ← Parse.accept 0x28 then return [.arithmetic quoted (← stretch .arithmetic)]
    else
      let announced := (← get).announced
      modify fun reader => { reader with announced := [] }
      let statement ← body
      modify fun reader => { reader with announced }
      return [.command quoted statement]
  | some 0x7B =>
    Parse.skip
    match ← bracedName with
    | (some name, isLength) => return [.parameter quoted name (← use stretch quoted isLength)]
    | (none, _) =>
      let _ ← stretch (.brace quoted)
      Parse.skip
      return [.parameter quoted [] .senseless]
  | some b =>
    if isNameStart b then
      return [.parameter quoted (← Parse.takeWhile isNameByte (← Parse.fuel)) .value]
    else if isSpecial b then
      Parse.skip
      return [.parameter quoted [b] .value]
    else return loneDollar place
  | none => return loneDollar place

/-- Bytes that stand for themselves wherever they are. -/
def isPlain (b : UInt8) : Bool :=
  isNameByte b || 0x80 ≤ b || (Bytes.ofString "/.,:+-=@%_").contains b

/-- What is missing where the text ends within a stretch. -/
def ending (place : Place) : Parse (List Part) :=
  match place with
  | .bare | .announcement | .document => return []
  | .double | .brace true => Parse.mistake "Unterminated quoted string"
  | .brace false => Parse.mistake "Missing '\x7d'"
  | .arithmetic => Parse.mistake "Missing '))'"

/-- The parts of a stretch up to its end. Only arithmetic takes its end with it. The `level` is
that of brackets in arithmetic, and of quotes in quoted braces. -/
def stretch (body inner : Parse Statement) : Nat → Place → Nat → Parse (List Part)
  | 0, _, _ => return []
  | fuel + 1, place, level => do
    let go (parts : List Part) (level : Nat) : Parse (List Part) := do
      return parts ++ (← stretch body inner fuel place level)
    let some b ← Parse.peek | ending place
    if isPlain b then
      let plain := (← get).rest.takeWhile isPlain
      modify fun reader => { reader with rest := reader.rest.drop plain.length }
      return ← go [.text place.isQuoted plain] level
    let literal : List Part := [.text place.isQuoted [b]]
    let ends : Bool := match place with
      | .bare | .announcement => endsWord b
      | .double => b == doubleQuote
      | .brace _ => b == 0x7D && level == 0
      | _ => false
    if ends then return []
    else
      Parse.skip
      if b = backslash then
        match ← Parse.peekRaw with
        | none => go [.text true [b]] level
        | some c =>
          Parse.skip
          go [.text true (if place.escapes c then [c] else [b, c])] level
      else if b = quote ∧ place.isQuoted = false then
        go [.mark, .text true (← singleQuoted (← Parse.fuel))] level
      else if b = doubleQuote ∧ place.isQuoted = false then
        let parts ← stretch body inner fuel .double 0
        Parse.skip
        match parts with
        | [.parameter true [0x40] .value] => go parts level
        | _ => go (.mark :: parts) level
      else if b = doubleQuote ∧ place = .brace true then go [] (1 - level)
      else if b = dollar ∧ place ≠ .announcement then
        go (← dollarPart body (fun place => stretch body inner fuel place 0) place) level
      else if b = backquote ∧ place ≠ .announcement then
        let text ← backquoted place.isQuoted (← Parse.fuel)
        go [.command place.isQuoted (← Parse.within text inner)] level
      else if place = .arithmetic ∧ b = 0x28 then go literal (level + 1)
      else if place = .arithmetic ∧ b = 0x29 then
        if 0 < level then go literal (level - 1)
        else if ← Parse.accept 0x29 then return []
        else go literal level
      else go literal level

/-- Neighbouring texts of one kind in one part. -/
def joinTexts : List Part → List Part
  | [] => []
  | part :: rest =>
    match part, joinTexts rest with
    | .text first bytes, .text second more :: others =>
      if first = second then .text first (bytes ++ more) :: others
      else .text first bytes :: .text second more :: others
    | part, others => part :: others

/-- The word, or the redirection with the digit before it, that comes next. -/
def wordOrRedirection (body inner : Parse Statement) (place : Place) : Parse Token := do
  let word := joinTexts (← stretch body inner (← Parse.fuel) place 0)
  let descriptor? : Option (Option Nat) := match word with
    | [] => some none
    | [.text false [digit]] =>
      if Numeral.isDigit digit then some (some (digit.toNat - 0x30)) else none
    | _ => none
  match descriptor?, ← Parse.peek with
  | some descriptor, some 0x3C =>
    Parse.skip
    let text ← if ← Parse.accept 0x3C then
        pure (if ← Parse.accept 0x2D then "<<-" else "<<")
      else if ← Parse.accept 0x26 then pure "<&"
      else if ← Parse.accept 0x3E then pure "<>"
      else pure "<"
    return .redirection (descriptor.getD 0) text
  | some descriptor, some 0x3E =>
    Parse.skip
    let text ← if ← Parse.accept 0x3E then pure ">>"
      else if ← Parse.accept 0x26 then pure ">&"
      else if ← Parse.accept 0x7C then pure ">|"
      else pure ">"
    return .redirection (descriptor.getD 1) text
  | _, _ => return .word word

/-- The next token, without regard to what it means where it stands. -/
def rawToken (body inner : Parse Statement) (place : Place) : Nat → Parse Token
  | 0 => return .ending
  | fuel + 1 => do
    let double (b : UInt8) (once twice : String) : Parse Token := do
      Parse.skip
      return .operator (if ← Parse.accept b then twice else once)
    let some b ← Parse.peek | return .ending
    if isSpace b then
      Parse.skip
      rawToken body inner place fuel
    else if b = newline then
      Parse.skip
      return .newline
    else if b = 0x23 then
      let length := ((← get).rest.takeWhile (· != newline)).length
      modify fun reader => { reader with rest := reader.rest.drop length }
      rawToken body inner place fuel
    else match Char.ofNat b.toNat with
      | '&' => double b "&" "&&"
      | '|' => double b "|" "||"
      | ';' => double b ";" ";;"
      | '(' =>
        Parse.skip
        return .operator "("
      | ')' =>
        Parse.skip
        return .operator ")"
      | _ => wordOrRedirection body inner place

/-- The lines of an announced text up to its mark, and what follows the mark. -/
def documentLines (announced : Announced) (unfinished : Bool) :
    Nat → Bytes → Option (Bytes × Bytes)
  | 0, rest => some ([], rest)
  | fuel + 1, rest =>
    let line := rest.takeWhile (· != newline)
    let after := rest.drop line.length
    let shown := if announced.indented then line.dropWhile (· == 0x09) else line
    if rest = [] ∨ after = [] then
      if unfinished then none
      else if shown = announced.mark then some ([], []) else some (shown, [])
    else if shown = announced.mark then some ([], after.tail)
    else (documentLines announced unfinished fuel after.tail).map fun (lines, rest) =>
      (shown ++ newline :: lines, rest)

/-- Reads the texts that have been announced. -/
def readDocuments (body inner : Parse Statement) : Parse Unit := do
  let announced := (← get).announced
  modify fun reader => { reader with announced := [] }
  announced.forM fun announced => do
    let reader ← get
    match documentLines announced reader.unfinished (reader.rest.length + 1) reader.rest with
    | none => throw .short
    | some (text, rest) =>
      let taken := reader.rest.take (reader.rest.length - rest.length)
      set { reader with rest, line := reader.line + taken.count newline }
      let word ← if announced.expanded then
          Parse.within text do stretch body inner (← Parse.fuel) .document 0
        else pure [Part.text true text]
      modify fun reader =>
        let documents := reader.documents.setIfInBounds announced.number (joinTexts word)
        { reader with documents }

def keywords : List String :=
  ["!", "case", "do", "done", "elif", "else", "esac", "fi", "for", "if", "in", "then", "until",
    "while", "\x7b", "\x7d"]

/-- A word that is a keyword where one may stand. -/
def asKeyword : Token → Token
  | .word word =>
    match (Word.plain? word).map Bytes.display with
    | some text => if keywords.contains text then .keyword text else .word word
    | none => .word word
  | token => token

/-- Puts the text that a word is an alias of in its place, if it is one. Within that text the word
is no alias. -/
def replaceAlias (word : Word) : Parse Bool := do
  let reader ← get
  let left := reader.rest.length
  let replaced := reader.replaced.filter fun entry => entry.2 ≤ left
  match (Word.plain? word).filter fun name => !replaced.any (·.1 == name) with
  | none => return false
  | some name =>
    let some text := reader.aliases.lookup name | return false
    set { reader with
      rest := text ++ reader.rest
      replaced := (name, left) :: replaced
      eager := if text.getLast?.any isSpace then some left else reader.eager }
    return true

/-- Whether the word that has just been read stands behind an alias that asks for another. -/
def isEager : Parse Bool := do
  let reader ← get
  if reader.eager.any (reader.rest.length < ·) then
    set { reader with eager := none }
    return true
  else return false

/-- The next token. Where lines do not count, line feeds are passed over. -/
def next (body inner : Parse Statement) (keyworded overLines : Bool) : Nat → Parse Token
  | 0 => return .ending
  | fuel + 1 => do
    let token ← match (← get).pushed with
      | some token => do
        modify fun reader => { reader with pushed := none }
        pure token
      | none => do rawToken body inner .bare (← Parse.fuel)
    match token with
    | .newline =>
      if overLines then
        readDocuments body inner
        next body inner keyworded overLines fuel
      else return .newline
    | token => return if keyworded then asKeyword token else token

end LineShell.Host.Script
