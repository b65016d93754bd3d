import LineShell.Text.Utf8

/-!
The statements of scripts and the words they are made of.
-/
namespace LineShell.Host.Script

/-- How a redirection opens what it leads to. -/
inductive Redirection.Kind where
  | input
  /-- Into a file that is made or emptied; `force` does so even where files are guarded. -/
  | output (force : Bool)
  | append
  | both
  /-- From another descriptor. -/
  | duplicate
  /-- From a text in the script, by its number. -/
  | document (number : Nat)
  deriving DecidableEq, Repr

mutual

/-- A part of a word. Quoted parts are not cut into fields, and they mean nothing to patterns. -/
inductive Part where
  | text (quoted : Bool) (bytes : Bytes)
  /-- Quotes, because of which there is a field even if nothing is in it. -/
  | mark
  | parameter (quoted : Bool) (name : Bytes) (use : Use)
  | command (quoted : Bool) (body : Statement)
  | arithmetic (quoted : Bool) (parts : List Part)

/-- What is made of a parameter. Whether an empty value counts as none is said by `orEmpty`. -/
inductive Use where
  | value
  | length
  | otherwise (orEmpty : Bool) (word : List Part)
  | instead (orEmpty : Bool) (word : List Part)
  | assign (orEmpty : Bool) (word : List Part)
  | demand (orEmpty : Bool) (word : List Part)
  | trim (fromEnd longest : Bool) (pattern : List Part)
  /-- What cannot be understood is a mistake only when it is needed. -/
  | senseless

inductive Redirection where
  | mk (descriptor : Nat) (kind : Redirection.Kind) (target : List Part)

inductive Statement where
  | nothing
  | simple (line : Nat) (assignments : List (Bytes × List Part)) (words : List (List Part))
    (redirections : List Redirection)
  | sequence (first second : Statement)
  /-- The second is run only if the first succeeds, or only if it fails. -/
  | conditional (afterSuccess : Bool) (first second : Statement)
  | pipe (commands : List Statement)
  | negation (inner : Statement)
  | subshell (line : Nat) (inner : Statement) (redirections : List Redirection)
  | background (inner : Statement)
  | redirected (line : Nat) (inner : Statement) (redirections : List Redirection)
  | choice (condition : Statement) (yes no : Statement)
  | loop (whileTrue : Bool) (condition body : Statement)
  | each (line : Nat) (name : Bytes) (words : List (List Part)) (body : Statement)
  | select (line : Nat) (word : List Part)
    (cases : List (List (List Part) × Statement))
  | define (name : Bytes) (body : Statement)

end

abbrev Word := List Part

/-- A word made of one text. -/
def Word.ofBytes (bytes : Bytes) : Word := [.text false bytes]

/-- The bytes of a word that is written without quotes or anything to be replaced. -/
def Word.plain? : Word → Option Bytes
  | [] => some []
  | .text false bytes :: rest => (Word.plain? rest).map (bytes ++ ·)
  | _ :: _ => none

/-- Whether any part of a word was quoted. -/
def Word.isQuoted (word : Word) : Bool :=
  word.any fun part => match part with
    | .mark | .text true _ | .parameter true .. | .command true _ | .arithmetic true _ => true
    | _ => false

end LineShell.Host.Script
