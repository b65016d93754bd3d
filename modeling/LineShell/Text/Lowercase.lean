import LineShell.Text.Cased
import LineShell.Text.LowercaseTable
import LineShell.Text.Utf8

/-!
Lower case of a text. A capital sigma that ends a word becomes a final sigma; all else is decided
character by character. ASCII letters are mapped without the table.
-/
namespace LineShell.Text

/-- The image of a scalar value under the runs of the table. -/
def lowercaseValue (runs : List CaseRun) (value : Nat) : Nat :=
  match runs with
  | [] => value
  | run :: others =>
    if run.first ≤ value ∧ value ≤ run.last ∧ (value - run.first) % run.stride = 0 then
      (value + run.shift).toNat
    else lowercaseValue others value

/-- The lower case of one character on its own. -/
def lowercaseChar (c : Char) : Text :=
  if c.toNat < 0x80 then
    if 'A' ≤ c ∧ c ≤ 'Z' then [Char.ofNat (c.toNat + 32)] else [c]
  else if c.toNat = 0x130 then ['i', Char.ofNat 0x307]
  else [Char.ofNat (lowercaseValue lowercaseRuns c.toNat)]

/-- The first character that is not passed over has case. -/
def meetsCased (text : Text) : Bool :=
  match text.dropWhile isCaseIgnorable with
  | [] => false
  | c :: _ => isCased c

/-- The lower case of `rest`, which follows the reverse of `before`. -/
def lowercaseAfter (before : Text) : Text → Text
  | [] => []
  | c :: rest =>
    let image :=
      if c.toNat = 0x3A3 then
        if meetsCased before && !meetsCased rest then [Char.ofNat 0x3C2] else [Char.ofNat 0x3C3]
      else lowercaseChar c
    image ++ lowercaseAfter (c :: before) rest

/-- The lower case of a text. -/
def lowercase (text : Text) : Text := lowercaseAfter [] text

theorem lowercaseAfter_ascii (text : Text) (small : ∀ c ∈ text, c.toNat < 0x80) :
    ∀ before, lowercaseAfter before text = text.flatMap lowercaseChar := by
  induction text with
  | nil => intro before; rfl
  | cons c rest ih =>
    intro before
    have ascii : c.toNat < 0x80 := small c (by simp)
    have notSigma : c.toNat ≠ 0x3A3 := by omega
    simp only [lowercaseAfter, if_neg notSigma, List.flatMap_cons]
    rw [ih (fun d member => small d (by simp [member]))]

/-- Of ASCII text the letters alone change. -/
theorem lowercase_ascii {text : Text} (small : ∀ c ∈ text, c.toNat < 0x80) :
    lowercase text = text.flatMap lowercaseChar :=
  lowercaseAfter_ascii text small []

end LineShell.Text
