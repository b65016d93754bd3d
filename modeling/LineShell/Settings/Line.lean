import LineShell.Fault
import LineShell.Settings.Basic
import LineShell.Text.Blank
import LineShell.Text.Lines
import LineShell.Text.Lowercase
import LineShell.Text.Numeral

/-!
The lines of a settings file. A line is blank, a comment, or a key and a value with a colon
between them; the value runs to the end of the line and may hold colons itself.
-/
namespace LineShell.Settings

def trueWords : List String :=
  ["true", "t", "enable", "enabled", "yes", "y", "on", "some", "1"]

def falseWords : List String :=
  ["false", "f", "disable", "disabled", "no", "n", "off", "none", "0"]

/-- Numbers in settings lie below this. -/
def numberBound : Nat := 0x10000000000000000

/-- A truth value, in any mixture of capital and small letters. -/
def readSwitch (key value : Text) : Except Fault Bool :=
  let word := String.ofList (Text.lowercase value)
  if trueWords.contains word then .ok true
  else if falseWords.contains word then .ok false
  else .error { cause := .invalidValue (String.ofList key) word }

/-- A number, or a false word for no limit. A true word does not say how large the limit is. -/
def readLimit (key value : Text) (description : String) : Except Fault (Option Nat) :=
  if falseWords.contains (String.ofList (Text.lowercase value)) then .ok none
  else match Text.natural? numberBound value with
    | some number => .ok (some number)
    | none =>
      let fault : Fault := { cause := .invalidValue (String.ofList key) (String.ofList value) }
      .error (fault.withContext ("Invalid " ++ description ++ ": '" ++ String.ofList value ++
        "', expected a number or a false value"))

/-- The setting that a key and a value stand for. A history file is relative to `directory`. -/
def readSetting (directory : Bytes) (key value : Text) : Except Fault Setting :=
  match String.ofList key with
  | "show-banner" => .showBanner <$> readSwitch key value
  | "multi-line-prompt" => .multiLinePrompt <$> readSwitch key value
  | "truncation" => .truncation <$> readLimit key value "truncation length"
  | "show-errors" => .showErrors <$> readSwitch key value
  | "history-file" => .ok (.historyFile (Path.join directory (Utf8.encode value)))
  | "history-limit" => .historyLimit <$> readLimit key value "history limit"
  | unknown => .error { cause := .unknownKey unknown }

/-- The text before and after the first colon. -/
def splitColon (text : Text) : Option (Text × Text) :=
  match text.dropWhile (· != ':') with
  | [] => none
  | _ :: value => some (text.takeWhile (· != ':'), value)

/-- The setting of one line of the file at `path`; blank lines and comments have none. -/
def readLine (path : Bytes) (number : Nat) (line : Bytes) : Except Fault (Option Setting) :=
  match Utf8.decode? line with
  | none => .error { cause := .settingsNotRead path }
  | some text =>
    let text := Text.trim text
    if text.isEmpty || text.head? == some '#' then .ok none
    else match splitColon text with
      | none => .error { cause := .malformedLine path number }
      | some (key, value) =>
        let directory := (Path.parent? path).getD [Path.dot]
        some <$> readSetting directory (Text.trim key) (Text.trim value)

/-- The settings in the content of the file at `path`. The first bad line decides the fault. -/
def ofContent (path content : Bytes) : Except Fault Settings := do
  let changes ← ((Text.lines content).zipIdx 1).mapM fun (line, number) => readLine path number line
  return (changes.filterMap id).foldl set {}

end LineShell.Settings
