import LineShell.Host.Numeral

/-!
Arithmetic of words of 64 bits. An expression is read from its text; its value may change
variables on the way.
-/
namespace LineShell.Host.Arithmetic

inductive Token where
  | number (value : Int)
  | name (name : Bytes)
  | operator (text : String)
  /-- Bytes that mean nothing. -/
  | unknown
  deriving DecidableEq, Repr

inductive Expression where
  | number (value : Int)
  | reference (name : Bytes)
  | unary (operator : String) (operand : Expression)
  | binary (operator : String) (left right : Expression)
  | choice (condition yes no : Expression)
  /-- The operator is empty for a plain assignment. -/
  | assignment (name : Bytes) (operator : String) (value : Expression)
  /-- What could be read before a mistake. -/
  | broken (front : Expression) (mistake : String)
  deriving DecidableEq, Repr

def isLetter (b : UInt8) : Bool := (0x41 ≤ b && b ≤ 0x5A) || (0x61 ≤ b && b ≤ 0x7A) || b == 0x5F

def isNameByte (b : UInt8) : Bool := isLetter b || Numeral.isDigit b

/-- The operators, each before those it begins with. -/
def operators : List String :=
  ["<<=", ">>=", "<<", ">>", "<=", ">=", "==", "!=", "&&", "||", "+=", "-=", "*=", "/=", "%=", "&=",
    "^=", "|=", "=", "<", ">", "+", "-", "*", "/", "%", "&", "^", "|", "!", "~", "?", ":", "(", ")"]

/-- How tightly the operators between two operands bind. -/
def strengths : List (String × Nat) :=
  [("||", 1), ("&&", 2), ("|", 3), ("^", 4), ("&", 5), ("==", 6), ("!=", 6), ("<", 7), (">", 7),
    ("<=", 7), (">=", 7), ("<<", 8), (">>", 8), ("+", 9), ("-", 9), ("*", 10), ("/", 10),
    ("%", 10)]

/-- The operators that may stand before an equals sign. -/
def assigning : List (String × String) :=
  [("=", ""), ("+=", "+"), ("-=", "-"), ("*=", "*"), ("/=", "/"), ("%=", "%"), ("<<=", "<<"),
    (">>=", ">>"), ("&=", "&"), ("^=", "^"), ("|=", "|")]

/-- The nearest word to a number. -/
def clamped (number : Int) : Int := max Numeral.lowest (min Numeral.highest number)

/-- The tokens of an expression, up to bytes that belong to none. -/
def tokens : Nat → Bytes → List Token
  | 0, _ | _, [] => []
  | fuel + 1, b :: rest =>
    if Numeral.isBlank b then tokens fuel rest
    else if isLetter b then
      let name := (b :: rest).takeWhile isNameByte
      .name name :: tokens fuel ((b :: rest).drop name.length)
    else match Numeral.magnitude? (b :: rest) with
      | some (value, rest) => .number (clamped value) :: tokens fuel rest
      | none =>
        match operators.find? fun text => (Bytes.ofString text).isPrefixOf (b :: rest) with
        | some text => .operator text :: tokens fuel ((b :: rest).drop text.utf8ByteSize)
        | none => [.unknown]

/-- An expression, and the tokens after it unless there was a mistake. -/
abbrev Reading := Expression × Option (List Token)

/-- Nothing is read after a mistake. -/
def stopped (front : Expression) (mistake : String) : Reading := (.broken front mistake, none)

/-- What stands between operators: a number, a variable, or something in brackets, which the
reader of whole expressions reads. -/
def operand (whole : List Token → Reading) : List Token → Reading
  | .number value :: rest => (.number value, some rest)
  | .name name :: rest => (.reference name, some rest)
  | .operator text :: rest =>
    if text = "(" then
      match whole rest with
      | (inner, some (.operator ")" :: rest)) => (inner, some rest)
      | (inner, some _) => stopped inner "expecting ')'"
      | (inner, none) => (inner, none)
    else if ["+", "-", "!", "~"].contains text then
      let (inner, rest) := operand whole rest
      (.unary text inner, rest)
    else stopped (.number 0) "expecting primary"
  | .unknown :: _ | [] => stopped (.number 0) "expecting primary"

/-- Operands with the operators between them that bind at least so tightly, after a first
operand. -/
def chain (next : List Token → Reading) : Nat → Nat → Expression → List Token → Reading
  | 0, _, left, rest => (left, some rest)
  | fuel + 1, least, left, rest =>
    match rest with
    | .operator text :: after =>
      match (strengths.lookup text).filter (least ≤ ·) with
      | none => (left, some rest)
      | some strength =>
        match next after with
        | (right, none) => (.binary text left right, none)
        | (right, some after) =>
          match chain next fuel (strength + 1) right after with
          | (right, none) => (.binary text left right, none)
          | (right, some after) => chain next fuel least (.binary text left right) after
    | _ => (left, some rest)

/-- An expression, and the tokens after it. It may be an assignment unless it is `plain`. -/
def expression : Nat → Bool → List Token → Reading
  | 0, _, _ => stopped (.number 0) "expecting primary"
  | fuel + 1, plain, tokens =>
    let assigned := match plain, tokens with
      | false, .name name :: .operator text :: rest =>
        (assigning.lookup text).map fun operator => (name, operator, rest)
      | _, _ => none
    match assigned with
    | some (name, operator, rest) =>
      let (value, rest) := expression fuel false rest
      (.assignment name operator value, rest)
    | none =>
      let next := operand (expression fuel false)
      let condition : Reading := match next tokens with
        | (first, none) => (first, none)
        | (first, some rest) => chain next (2 * tokens.length + 2) 1 first rest
      match condition with
      | (condition, some (.operator "?" :: rest)) =>
        match expression fuel false rest with
        | (yes, some (.operator ":" :: rest)) =>
          let (no, rest) := expression fuel true rest
          (.choice condition yes no, rest)
        | (yes, some _) =>
          let (yes, rest) := stopped yes "expecting ':'"
          (.choice condition yes (.number 0), rest)
        | (yes, none) => (.choice condition yes (.number 0), none)
      | condition => condition

/-- The expression that a text is. -/
def read (text : Bytes) : Expression :=
  let tokens := tokens (text.length + 1) text
  match expression (tokens.length + 1) false tokens with
  | (whole, some []) | (whole, none) => whole
  | (whole, some _) => .broken whole "expecting EOF"

/-- The mistake in an expression, if there is one. -/
def Expression.mistake? : Expression → Option String
  | .number _ | .reference _ => none
  | .unary _ operand => operand.mistake?
  | .binary _ left right => left.mistake?.or right.mistake?
  | .choice condition yes no => condition.mistake?.or (yes.mistake?.or no.mistake?)
  | .assignment _ _ value => value.mistake?
  | .broken front mistake => front.mistake?.or (some mistake)

def ofBool (holds : Bool) : Int := if holds then 1 else 0

/-- An operation on bits, carried out on words. -/
def bits (operation : Nat → Nat → Nat) (left right : Int) : Int :=
  let word (number : Int) := (number % Numeral.wordRange).toNat
  operation (word left) (word right)

/-- The result of an operator, before it is wrapped to a word. -/
def operate (operator : String) (left right : Int) : Except String Int :=
  match operator with
  | "*" => .ok (left * right)
  | "/" => if right = 0 then .error "division by zero" else .ok (left.tdiv right)
  | "%" => if right = 0 then .error "division by zero" else .ok (left.tmod right)
  | "+" => .ok (left + right)
  | "-" => .ok (left - right)
  | "<<" => .ok (left * ((1 <<< (right % 64).toNat : Nat) : Int))
  | ">>" => .ok (left.fdiv ((1 <<< (right % 64).toNat : Nat) : Int))
  | "<" => .ok (ofBool (left < right))
  | ">" => .ok (ofBool (right < left))
  | "<=" => .ok (ofBool (left ≤ right))
  | ">=" => .ok (ofBool (right ≤ left))
  | "==" => .ok (ofBool (left == right))
  | "!=" => .ok (ofBool (left != right))
  | "&" => .ok (bits (· &&& ·) left right)
  | "^" => .ok (bits (· ^^^ ·) left right)
  | "|" => .ok (bits (· ||| ·) left right)
  | _ => .ok right

/-- The value of an expression, given how variables are read and set. A part that is passed over
has no effect, but a mistake in it is still found. -/
def Expression.value {m : Type → Type} [Monad m] (fail : String → m Int) (get : Bytes → m Int)
    (set : Bytes → Int → m Unit) : Expression → m Int
  | .number value => pure value
  | .reference name => get name
  | .unary operator operand => do
    let value ← operand.value fail get set
    return match operator with
      | "-" => Numeral.wrapped (-value)
      | "!" => ofBool (value == 0)
      | "~" => -value - 1
      | _ => value
  | .binary operator left right => do
    let first ← left.value fail get set
    if operator = "&&" ∧ first = 0 then (right.mistake?.map fail).getD (pure 0)
    else if operator = "||" ∧ first ≠ 0 then (right.mistake?.map fail).getD (pure 1)
    else
      let second ← right.value fail get set
      if operator = "&&" ∨ operator = "||" then return ofBool (second != 0)
      else match operate operator first second with
        | .ok value => return Numeral.wrapped value
        | .error text => fail text
  | .choice condition yes no => do
    if (← condition.value fail get set) = 0 then
      match yes.mistake? with
      | some text => fail text
      | none => no.value fail get set
    else
      let value ← yes.value fail get set
      (no.mistake?.map fail).getD (pure value)
  | .assignment name operator operand => do
    let second ← operand.value fail get set
    let value ← if operator = "" then pure second
      else do
        match operate operator (← get name) second with
        | .ok value => pure (Numeral.wrapped value)
        | .error text => fail text
    set name value
    return value
  | .broken front mistake => do
    discard (front.value fail get set)
    fail mistake

end LineShell.Host.Arithmetic
