import LineShell.Host.Script.Token

/-!
The statements of a script, read one line, or as many as belong together, at a time.
-/
namespace LineShell.Host.Script

/-- Where a list of statements stands: on a line of its own, within another statement, where it
may not be empty, or where it may. -/
inductive Extent where
  | line
  | block
  | tail
  deriving DecidableEq, Repr

/-- The commands of scripts whose mistakes end the script. -/
def specialBuiltins : List String :=
  [".", ":", "break", "continue", "eval", "exec", "exit", "export", "local", "readonly", "return",
    "set", "shift", "times", "trap", "unset"]

/-- The tokens that end a list of statements. -/
def closes : Token → Bool
  | .ending => true
  | .operator text => text == ")" || text == ";;"
  | .keyword text =>
    ["do", "done", "elif", "else", "esac", "fi", "then", "\x7d"].contains text
  | _ => false

def isOperator (text : String) : Token → Bool
  | .operator other => other == text
  | _ => false

def isKeyword (text : String) : Token → Bool
  | .keyword other => other == text
  | _ => false

/-- A word of the form `name=value`. -/
def assignment? : Word → Option (Bytes × Word)
  | .text false bytes :: rest =>
    let name := bytes.takeWhile isNameByte
    match isName name, bytes.drop name.length with
    | true, 0x3D :: value => some (name, if value = [] then rest else .text false value :: rest)
    | _, _ => none
  | _ => none

/-- The word that a token was written as. -/
def Token.asWord : Token → Word
  | .word parts => parts
  | .keyword text => Word.ofBytes (Bytes.ofString text)
  | _ => []

def followed (first : Statement) : Statement → Statement
  | .nothing => first
  | second => match first with
    | .nothing => second
    | first => .sequence first second

mutual

/-- Statements one after the other. Nothing is read only at the very end of a script. -/
def statements : Nat → Extent → Option Statement → Parse (Option Statement)
  | 0, _, before => return before
  | fuel + 1, extent, before => do
    let token ← token fuel true (extent != .line)
    match token with
    | .newline =>
      documents fuel
      return some (before.getD .nothing)
    | .ending =>
      documents fuel
      Parse.push .ending
      return before
    | _ =>
      Parse.push token
      if (extent = .tail || (extent = .block && before.isSome)) && closes token then
        return before
      let one ← conditional fuel
      let token ← Script.next (body fuel) (inner fuel) false false fuel
      let one := if isOperator "&" token then .background one else one
      let all := followed (before.getD .nothing) one
      match token with
      | .ending =>
        documents fuel
        Parse.push .ending
        return some all
      | .newline =>
        Parse.push .newline
        statements fuel extent (some all)
      | _ =>
        if isOperator "&" token || isOperator ";" token then statements fuel extent (some all)
        else if extent = .line then Parse.unexpected token none
        else
          Parse.push token
          return some all

/-- The next token. -/
def token : Nat → Bool → Bool → Parse Token
  | 0, _, _ => return .ending
  | fuel + 1, keyworded, overLines =>
    Script.next (body fuel) (inner fuel) keyworded overLines (fuel + 1)

/-- The texts that have been announced on the lines before. -/
def documents : Nat → Parse Unit
  | 0 => return ()
  | fuel + 1 => readDocuments (body fuel) (inner fuel)

/-- The statements in a word up to a closing bracket. -/
def body : Nat → Parse Statement
  | 0 => return .nothing
  | fuel + 1 => do
    let statement ← statements fuel .tail none
    let closing ← token fuel false false
    if isOperator ")" closing then return statement.getD .nothing
    else Parse.unexpected closing (some (.operator ")"))

/-- The statements of a text. -/
def inner : Nat → Parse Statement
  | 0 => return .nothing
  | fuel + 1 => return (← statements fuel .tail none).getD .nothing

/-- Statements within another statement, after which a certain token has to come. -/
def block : Nat → Token → Parse Statement
  | 0, _ => return .nothing
  | fuel + 1, closing => do
    let statement ← statements fuel .block none
    let token ← token fuel false false
    if token.title = closing.title then return statement.getD .nothing
    else Parse.unexpected token (some closing)

/-- A pipeline, and others behind `&&` and `||`. -/
def conditional : Nat → Parse Statement
  | 0 => return .nothing
  | fuel + 1 => do conditionals fuel (← pipeline fuel false)

def conditionals : Nat → Statement → Parse Statement
  | 0, first => return first
  | fuel + 1, first => do
    let token ← token fuel false false
    if isOperator "&&" token || isOperator "||" token then
      let second ← pipeline fuel true
      conditionals fuel (.conditional (isOperator "&&" token) first second)
    else
      Parse.push token
      return first

/-- Commands with pipes between them, which may be denied as a whole. -/
def pipeline : Nat → Bool → Parse Statement
  | 0, _ => return .nothing
  | fuel + 1, overLines => do
    let first ← token fuel overLines overLines
    let denied := isKeyword "!" first
    if !denied then Parse.push first
    let command ← command fuel denied false
    let whole ← pipes fuel [command]
    let statement := match whole with
      | [single] => single
      | several => .pipe several
    return if denied then .negation statement else statement

def pipes : Nat → List Statement → Parse (List Statement)
  | 0, before => return before
  | fuel + 1, before => do
    let token ← token fuel false false
    if isOperator "|" token then pipes fuel (before ++ [← command fuel true true])
    else
      Parse.push token
      return before

/-- Redirections behind a statement. -/
def redirections : Nat → Parse (List Redirection)
  | 0 => return []
  | fuel + 1 => do
    match ← token fuel true false with
    | .redirection descriptor text =>
      return (← redirection fuel descriptor text) :: (← redirections fuel)
    | token =>
      Parse.push token
      return []

/-- What a redirection leads to. -/
def redirection : Nat → Nat → String → Parse Redirection
  | 0, descriptor, _ => return .mk descriptor .input []
  | fuel + 1, descriptor, text => do
    let isDocument := text = "<<" || text = "<<-"
    let place := if isDocument then Place.announcement else .bare
    let token ← rawToken (body fuel) (inner fuel) place (← Parse.fuel)
    match token with
    | .word word =>
      let kind : Redirection.Kind ← match text with
        | "<" => pure .input
        | ">" => pure (.output false)
        | ">|" => pure (.output true)
        | ">>" => pure .append
        | "<>" => pure .both
        | "<&" | ">&" => pure .duplicate
        | _ => do
          let reader ← get
          let mark := word.flatMap fun part => match part with
            | .text _ bytes => bytes
            | _ => []
          let announced := ⟨reader.documents.size, mark, text == "<<-", !Word.isQuoted word⟩
          set { reader with
            announced := reader.announced ++ [announced]
            documents := reader.documents.push [] }
          pure (.document announced.number)
      return .mk descriptor kind word
    | token => Parse.unexpected token none

/-- One command. -/
def command : Nat → Bool → Bool → Parse Statement
  | 0, _, _ => return .nothing
  | fuel + 1, keyworded, overLines => do
    let first ← token fuel keyworded overLines
    let line := (← get).line
    let compound : Option (Parse Statement) := match first with
      | .keyword "if" => some (choice fuel)
      | .keyword "while" => some (loop fuel true)
      | .keyword "until" => some (loop fuel false)
      | .keyword "for" => some (each fuel line)
      | .keyword "case" => some (select fuel line)
      | .keyword "\x7b" => some (block fuel (.keyword "\x7d"))
      | .operator "(" => some do return .subshell line (← block fuel (.operator ")")) []
      | _ => none
    match compound, first with
    | some compound, _ =>
      let statement ← compound
      match statement, ← redirections fuel with
      | statement, [] => return statement
      | .subshell line inner _, redirections => return .subshell line inner redirections
      | statement, redirections => return .redirected line statement redirections
    | none, .word _ | none, .redirection .. =>
      Parse.push first
      simple fuel line [] [] []
    | none, _ => Parse.unexpected first none

/-- A simple command: its assignments, words and redirections. One word with a pair of brackets
behind it begins the definition of a function. -/
def simple : Nat → Nat → List (Bytes × Word) → List Word → List Redirection → Parse Statement
  | 0, line, assignments, words, redirections =>
    return .simple line assignments words redirections
  | fuel + 1, line, assignments, words, redirections => do
    match ← token fuel false false with
    | .word word =>
      match words, assignment? word with
      | [], some assignment =>
        simple fuel line (assignments ++ [assignment]) words redirections
      | _, _ =>
        let eager ← isEager
        let isReplaced ← if eager || words.isEmpty then replaceAlias word else pure false
        if isReplaced then
          if words.isEmpty ∧ assignments.isEmpty ∧ redirections = [] then
            command fuel true false
          else simple fuel line assignments words redirections
        else simple fuel line assignments (words ++ [word]) redirections
    | .redirection descriptor text =>
      let redirection ← redirection fuel descriptor text
      simple fuel line assignments words (redirections ++ [redirection])
    | .operator "(" =>
      match assignments, words, redirections with
      | [], [name], [] => define fuel name
      | _, _, _ =>
        Parse.push (.operator "(")
        return .simple line assignments words redirections
    | token =>
      Parse.push token
      return .simple line assignments words redirections

/-- The definition of a function, after its name and the first bracket. -/
def define : Nat → Word → Parse Statement
  | 0, _ => return .nothing
  | fuel + 1, name => do
    let closing ← token fuel false false
    if !isOperator ")" closing then Parse.unexpected closing (some (.operator ")"))
    else match (Word.plain? name).filter fun name =>
        isName name && !specialBuiltins.contains (Bytes.display name) with
      | none => Parse.mistake "Bad function name"
      | some name =>
        return .define name (← command fuel true true)

/-- A condition and what depends on it, after `if` or `elif`. -/
def choice : Nat → Parse Statement
  | 0 => return .nothing
  | fuel + 1 => do
    let condition ← block fuel (.keyword "then")
    let yes ← statements fuel .block none
    let next ← token fuel false false
    let yes := yes.getD .nothing
    if isKeyword "elif" next then return .choice condition yes (← choice fuel)
    else if isKeyword "else" next then
      return .choice condition yes (← block fuel (.keyword "fi"))
    else if isKeyword "fi" next then return .choice condition yes .nothing
    else Parse.unexpected next (some (.keyword "fi"))

/-- A condition and what is repeated. -/
def loop : Nat → Bool → Parse Statement
  | 0, _ => return .nothing
  | fuel + 1, whileTrue => do
    let condition ← block fuel (.keyword "do")
    return .loop whileTrue condition (← block fuel (.keyword "done"))

/-- A loop over words, after `for`. -/
def each : Nat → Nat → Parse Statement
  | 0, _ => return .nothing
  | fuel + 1, line => do
    let name := match ← token fuel false false with
      | .word word => (Word.plain? word).filter isName
      | _ => none
    let some name := name | Parse.mistake "Bad for loop variable"
    let next ← token fuel true true
    let words ← if isKeyword "in" next then do
        let words ← wordsBefore fuel
        match ← token fuel false false with
        | .newline => pure ()
        | last => if !isOperator ";" last then Parse.unexpected last none
        pure words
      else do
        if !isOperator ";" next then Parse.push next
        pure [[Part.parameter true [0x40] .value]]
    let first ← token fuel true true
    if isKeyword "do" first then
      return .each line name words (← block fuel (.keyword "done"))
    else Parse.unexpected first (some (.keyword "do"))

/-- Words up to a token that is none. -/
def wordsBefore : Nat → Parse (List Word)
  | 0 => return []
  | fuel + 1 => do
    match ← token fuel false false with
    | .word word => return word :: (← wordsBefore fuel)
    | token =>
      Parse.push token
      return []

/-- A choice by patterns, after `case`. -/
def select : Nat → Nat → Parse Statement
  | 0, _ => return .nothing
  | fuel + 1, line => do
    match ← token fuel false false with
    | .word word =>
      let next ← token fuel true true
      if isKeyword "in" next then return .select line word (← cases fuel)
      else Parse.unexpected next (some (.keyword "in"))
    | token => Parse.unexpected token (some (.word []))

/-- The cases of a choice up to its end. -/
def cases : Nat → Parse (List (List Word × Statement))
  | 0 => return []
  | fuel + 1 => do
    let first ← token fuel true true
    if isKeyword "esac" first then return []
    else
      let first ← if isOperator "(" first then token fuel false false else pure first
      let patterns ← patterns fuel first
      let body ← statements fuel .tail none
      let chosen := (patterns, body.getD .nothing)
      let next ← token fuel true true
      if isKeyword "esac" next then return [chosen]
      else if isOperator ";;" next then return chosen :: (← cases fuel)
      else Parse.unexpected next (some (.operator ";;"))

/-- The patterns of a case, the first of which has been read. -/
def patterns : Nat → Token → Parse (List Word)
  | 0, _ => return []
  | fuel + 1, first => do
    let next ← token fuel false false
    if isOperator "|" next then
      let second ← token fuel false false
      return first.asWord :: (← patterns fuel second)
    else if isOperator ")" next then return [first.asWord]
    else Parse.unexpected next (some (.operator ")"))

end

/-- Reads the next line of a script with all lines that belong to it. Nothing is read at the
end. -/
def readStatement (reader : Reader) : Except Trouble (Option Statement) × Reader :=
  let reader := { reader with pushed := none, announced := [], replaced := [], eager := none }
  let texts := reader.aliases.foldl (· + ·.2.length + 1) 0
  (statements (24 * reader.rest.length * (texts + 1) + 64) .line none).run reader

end LineShell.Host.Script
