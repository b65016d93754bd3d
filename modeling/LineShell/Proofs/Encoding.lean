import LineShell.Text.Utf8

/-!
# Bytes that have a text

A byte string is all characters exactly if it is the encoding of a text (`valid_iff`), and this text
is what is read from it (`encode_lossy`, `lossy_encode`). The decoder is followed byte by byte:
while a character is unfinished, the bytes it has used up are those that its encoding begins with,
whatever bytes complete it (`Begun`). So the ASCII characters that are read from any bytes are among
these bytes (`mem_of_mem_lossy`).
-/
namespace LineShell.Utf8

theorem val_ofNat {number : Nat} (isChar : number.isValidChar) :
    (Char.ofNat number).val.toNat = number := by
  unfold Char.ofNat
  rw [dif_pos isChar]
  rfl

theorem ofNat_eq {number : Nat} (byte : UInt8) (same : byte.toNat = number) :
    UInt8.ofNat number = byte := by
  rw [← same, UInt8.ofNat_toNat]

/-! ## Characters of one, two, three and four bytes -/

theorem encodeChar_one {byte : UInt8} (small : byte.toNat < 0x80) :
    String.utf8EncodeChar (Char.ofNat byte.toNat) = [byte] := by
  have value : (Char.ofNat byte.toNat).val.toNat = byte.toNat := val_ofNat (.inl (by omega))
  simp only [String.utf8EncodeChar, value]
  rw [if_pos (by omega), ofNat_eq byte rfl]

theorem encodeChar_two {number : Nat} {first second : UInt8} (low : 0x80 ≤ number)
    (high : number < 0x800) (lead : first.toNat = number / 64 + 0xC0)
    (tail : second.toNat = number % 64 + 0x80) :
    String.utf8EncodeChar (Char.ofNat number) = [first, second] := by
  have value : (Char.ofNat number).val.toNat = number := val_ofNat (.inl (by omega))
  simp only [String.utf8EncodeChar, value]
  rw [if_neg (by omega), if_pos (by omega), ofNat_eq first (by omega),
    ofNat_eq second (by omega)]

theorem encodeChar_three {number : Nat} {first second third : UInt8} (low : 0x800 ≤ number)
    (high : number < 0x10000) (isChar : number.isValidChar)
    (lead : first.toNat = number / 4096 + 0xE0)
    (middle : second.toNat = number / 64 % 64 + 0x80) (tail : third.toNat = number % 64 + 0x80) :
    String.utf8EncodeChar (Char.ofNat number) = [first, second, third] := by
  simp only [String.utf8EncodeChar, val_ofNat isChar]
  rw [if_neg (by omega), if_neg (by omega), if_pos (by omega), ofNat_eq first (by omega),
    ofNat_eq second (by omega), ofNat_eq third (by omega)]

theorem encodeChar_four {number : Nat} {first second third fourth : UInt8}
    (low : 0x10000 ≤ number) (high : number < 0x110000)
    (lead : first.toNat = number / 262144 + 0xF0)
    (left : second.toNat = number / 4096 % 64 + 0x80)
    (right : third.toNat = number / 64 % 64 + 0x80) (tail : fourth.toNat = number % 64 + 0x80) :
    String.utf8EncodeChar (Char.ofNat number) = [first, second, third, fourth] := by
  have value : (Char.ofNat number).val.toNat = number := val_ofNat (.inr ⟨by omega, by omega⟩)
  simp only [String.utf8EncodeChar, value]
  rw [if_neg (by omega), if_neg (by omega), if_neg (by omega),
    ofNat_eq first (by omega), ofNat_eq second (by omega),
    ofNat_eq third (by omega), ofNat_eq fourth (by omega)]

/-! ## Bytes that begin a character -/

theorem lead_two {byte : UInt8} (low : 0xC2 ≤ byte.toNat) (high : byte.toNat < 0xE0) :
    lead byte = ([], .tail 0 0x80 0xBF (byte.toNat - 0xC0)) := by
  have noASCII : ¬ byte < 0x80 := UInt8.not_lt.mpr (Nat.le_trans (by decide) low)
  have begins : ¬ byte < 0xC2 := UInt8.not_lt.mpr low
  have ofTwo : byte < 0xE0 := high
  rw [lead, if_neg noASCII, if_neg begins, if_pos ofTwo]

/-- With the second of three bytes a character keeps clear of shorter ones and of surrogates. -/
def IsSecondOfThree (value : Nat) (second : UInt8) : Prop :=
  0x80 ≤ second.toNat ∧ second.toNat ≤ 0xBF ∧ 0x20 ≤ value * 64 + (second.toNat - 0x80) ∧
    ¬ (0x360 ≤ value * 64 + (second.toNat - 0x80) ∧ value * 64 + (second.toNat - 0x80) < 0x380)

theorem lead_three {byte : UInt8} (low : 0xE0 ≤ byte.toNat) (high : byte.toNat < 0xF0) :
    ∃ least most, lead byte = ([], .tail 1 least most (byte.toNat - 0xE0)) ∧
      ∀ second, least ≤ second ∧ second ≤ most ↔ IsSecondOfThree (byte.toNat - 0xE0) second := by
  have noASCII : ¬ byte < 0x80 := UInt8.not_lt.mpr (Nat.le_trans (by decide) low)
  have begins : ¬ byte < 0xC2 := UInt8.not_lt.mpr (Nat.le_trans (by decide) low)
  have notOfTwo : ¬ byte < 0xE0 := UInt8.not_lt.mpr low
  rw [lead, if_neg noASCII, if_neg begins, if_neg notOfTwo]
  simp only [IsSecondOfThree]
  by_cases shortest : byte = 0xE0
  · subst shortest
    refine ⟨_, _, rfl, fun second => ?_⟩
    simp only [UInt8.le_iff_toNat_le, UInt8.reduceToNat]
    omega
  by_cases surrogates : byte = 0xED
  · subst surrogates
    refine ⟨_, _, rfl, fun second => ?_⟩
    simp only [UInt8.le_iff_toNat_le, UInt8.reduceToNat]
    omega
  · have ofThree : byte < 0xF0 := high
    rw [if_neg shortest, if_neg surrogates, if_pos ofThree]
    refine ⟨_, _, rfl, fun second => ?_⟩
    simp only [UInt8.le_iff_toNat_le, UInt8.reduceToNat, ← UInt8.toNat_inj] at *
    omega

/-- With the second of four bytes a character keeps within the numbers that there are. -/
def IsSecondOfFour (value : Nat) (second : UInt8) : Prop :=
  0x80 ≤ second.toNat ∧ second.toNat ≤ 0xBF ∧ 0x10 ≤ value * 64 + (second.toNat - 0x80) ∧
    value * 64 + (second.toNat - 0x80) < 0x110

theorem lead_four {byte : UInt8} (low : 0xF0 ≤ byte.toNat) (high : byte.toNat < 0xF5) :
    ∃ least most, lead byte = ([], .tail 2 least most (byte.toNat - 0xF0)) ∧
      ∀ second, least ≤ second ∧ second ≤ most ↔ IsSecondOfFour (byte.toNat - 0xF0) second := by
  have noASCII : ¬ byte < 0x80 := UInt8.not_lt.mpr (Nat.le_trans (by decide) low)
  have begins : ¬ byte < 0xC2 := UInt8.not_lt.mpr (Nat.le_trans (by decide) low)
  have notOfTwo : ¬ byte < 0xE0 := UInt8.not_lt.mpr (Nat.le_trans (by decide) low)
  have notE0 : byte ≠ 0xE0 := fun same => absurd low (by rw [same]; decide)
  have notED : byte ≠ 0xED := fun same => absurd low (by rw [same]; decide)
  have notOfThree : ¬ byte < 0xF0 := UInt8.not_lt.mpr low
  rw [lead, if_neg noASCII, if_neg begins, if_neg notOfTwo, if_neg notE0, if_neg notED,
    if_neg notOfThree]
  simp only [IsSecondOfFour]
  by_cases shortest : byte = 0xF0
  · subst shortest
    refine ⟨_, _, rfl, fun second => ?_⟩
    simp only [UInt8.le_iff_toNat_le, UInt8.reduceToNat]
    omega
  by_cases last : byte = 0xF4
  · subst last
    refine ⟨_, _, rfl, fun second => ?_⟩
    simp only [UInt8.le_iff_toNat_le, UInt8.reduceToNat]
    omega
  · have ofFour : byte < 0xF4 := by
      simp only [UInt8.lt_iff_toNat_lt, UInt8.reduceToNat, ← UInt8.toNat_inj] at *
      omega
    rw [if_neg shortest, if_pos ofFour]
    refine ⟨_, _, rfl, fun second => ?_⟩
    simp only [UInt8.le_iff_toNat_le, UInt8.lt_iff_toNat_lt, UInt8.reduceToNat,
      ← UInt8.toNat_inj] at *
    omega

/-- All other bytes begin no character. -/
theorem lead_none {byte : UInt8} (least : 0x80 ≤ byte.toNat)
    (other : byte.toNat < 0xC2 ∨ 0xF5 ≤ byte.toNat) : lead byte = ([none], .nothing) := by
  have noASCII : ¬ byte < 0x80 := UInt8.not_lt.mpr least
  rw [lead, if_neg noASCII]
  split
  · rfl
  · simp only [UInt8.lt_iff_toNat_lt, UInt8.reduceToNat, ← UInt8.toNat_inj] at *
    rw [if_neg (by omega), if_neg (by omega), if_neg (by omega), if_neg (by omega),
      if_neg (by omega), if_neg (by omega), if_neg (by omega)]

/-! ## Unfinished characters -/

/-- The bytes that an unfinished character has used up: its encoding begins with them, whatever
bytes complete it. -/
def Begun : Nat → UInt8 → UInt8 → Nat → Bytes → Prop
  | 0, low, high, value, begun => ∀ byte, low ≤ byte → byte ≤ high →
      String.utf8EncodeChar (Char.ofNat (value * 64 + (byte.toNat - 0x80))) = begun ++ [byte]
  | owed + 1, low, high, value, begun => ∀ byte, low ≤ byte → byte ≤ high →
      Begun owed 0x80 0xBF (value * 64 + (byte.toNat - 0x80)) (begun ++ [byte])

/-- The bytes that a state of the decoder stands for. -/
def Pending.StandsFor : Pending → Bytes → Prop
  | .nothing, begun => begun = []
  | .tail owed low high value, begun => Begun owed low high value begun

/-- A byte within the bounds of one that continues a character. -/
theorem tail_bounds {byte : UInt8} (above : 0x80 ≤ byte) (below : byte ≤ 0xBF) :
    0x80 ≤ byte.toNat ∧ byte.toNat ≤ 0xBF := ⟨above, below⟩

theorem begun_two {lead : UInt8} (low : 0xC2 ≤ lead.toNat) (high : lead.toNat < 0xE0) :
    Begun 0 0x80 0xBF (lead.toNat - 0xC0) [lead] := by
  intro second above below
  have bounds := tail_bounds above below
  exact encodeChar_two (by omega) (by omega) (by omega) (by omega)

theorem begun_three {lead low high : UInt8} (least : 0xE0 ≤ lead.toNat) (most : lead.toNat < 0xF0)
    (bounds : ∀ second, low ≤ second ∧ second ≤ high ↔
      IsSecondOfThree (lead.toNat - 0xE0) second) :
    Begun 1 low high (lead.toNat - 0xE0) [lead] := by
  intro second above below third tailAbove tailBelow
  obtain ⟨_, _, _, _⟩ := (bounds second).mp ⟨above, below⟩
  have bounds := tail_bounds tailAbove tailBelow
  exact encodeChar_three (by omega) (by omega) (by unfold Nat.isValidChar; omega) (by omega)
    (by omega) (by omega)

theorem begun_four {lead low high : UInt8} (least : 0xF0 ≤ lead.toNat)
    (bounds : ∀ second, low ≤ second ∧ second ≤ high ↔
      IsSecondOfFour (lead.toNat - 0xF0) second) :
    Begun 2 low high (lead.toNat - 0xF0) [lead] := by
  intro second above below third thirdAbove thirdBelow fourth tailAbove tailBelow
  obtain ⟨_, _, _, _⟩ := (bounds second).mp ⟨above, below⟩
  have thirdBounds := tail_bounds thirdAbove thirdBelow
  have bounds := tail_bounds tailAbove tailBelow
  exact encodeChar_four (by omega) (by omega) (by omega) (by omega) (by omega) (by omega)

/-- The bytes of what the decoder has put out. -/
def spelling (units : List (Option Char)) : Bytes :=
  encode (units.map fun unit => unit.getD '\uFFFD')

/-- What the decoder has put out and the character it has begun make up a byte string. -/
def Spells (step : List (Option Char) × Pending) (bytes : Bytes) : Prop :=
  ∃ begun, step.2.StandsFor begun ∧ spelling step.1 ++ begun = bytes

/-- A byte between characters is one, or begins one. -/
theorem spells_lead {byte : UInt8} (whole : (lead byte).1.all Option.isSome = true) :
    Spells (lead byte) [byte] := by
  by_cases one : byte.toNat < 0x80
  · rw [lead_ascii one]
    exact ⟨[], rfl, by simp [spelling, encode, encodeChar_one one]⟩
  by_cases early : byte.toNat < 0xC2
  · simp [lead_none (Nat.not_lt.mp one) (.inl early)] at whole
  by_cases two : byte.toNat < 0xE0
  · rw [lead_two (Nat.not_lt.mp early) two]
    exact ⟨_, begun_two (Nat.not_lt.mp early) two, rfl⟩
  by_cases three : byte.toNat < 0xF0
  · obtain ⟨least, most, leads, bounds⟩ := lead_three (Nat.not_lt.mp two) three
    rw [leads]
    exact ⟨_, begun_three (Nat.not_lt.mp two) three bounds, rfl⟩
  by_cases four : byte.toNat < 0xF5
  · obtain ⟨least, most, leads, bounds⟩ := lead_four (Nat.not_lt.mp three) four
    rw [leads]
    exact ⟨_, begun_four (Nat.not_lt.mp three) bounds, rfl⟩
  · simp [lead_none (Nat.not_lt.mp one) (.inr (Nat.not_lt.mp four))] at whole

/-- One byte more is put out or kept with the character that it belongs to. -/
theorem spells_feed {pending : Pending} {begun : Bytes} (stands : pending.StandsFor begun)
    {byte : UInt8} (whole : (feed pending byte).1.all Option.isSome = true) :
    Spells (feed pending byte) (begun ++ [byte]) := by
  cases pending with
  | nothing =>
    obtain rfl : begun = [] := stands
    exact spells_lead whole
  | tail owed low high value =>
    simp only [feed] at whole ⊢
    split at whole
    · next within =>
      rw [if_pos within]
      cases owed with
      | zero => exact ⟨[], rfl, by simp [spelling, encode, stands byte within.1 within.2]⟩
      | succ owed => exact ⟨_, stands byte within.1 within.2, rfl⟩
    · simp at whole

/-- Where all is characters, the text of what is put out is what was read. -/
theorem spelling_units {pending : Pending} {begun : Bytes} (stands : pending.StandsFor begun)
    {bytes : Bytes} (whole : (units pending bytes).all Option.isSome = true) :
    spelling (units pending bytes) = begun ++ bytes := by
  induction bytes generalizing pending begun with
  | nil =>
    cases pending with
    | nothing =>
      obtain rfl : begun = [] := stands
      rfl
    | tail => simp [units, finish] at whole
  | cons byte rest ih =>
    simp only [units, List.all_append, Bool.and_eq_true] at whole
    obtain ⟨later, stands, spelled⟩ := spells_feed stands whole.1
    have tail := ih stands whole.2
    have parts : spelling (units pending (byte :: rest)) =
        spelling (feed pending byte).1 ++ spelling (units (feed pending byte).2 rest) := by
      simp [spelling, encode, units]
    rw [parts, tail, ← List.append_assoc, spelled, List.append_assoc, List.singleton_append]

/-- A byte string that has a text is the encoding of it. -/
theorem encode_lossy {bytes : Bytes} (whole : valid bytes = true) : encode (lossy bytes) = bytes :=
  @spelling_units .nothing [] rfl bytes whole

/-! ## Reading an encoding -/

section Units

variable {low high byte : UInt8} {owed value : Nat} (rest : Bytes)

/-- A byte that begins a character puts nothing out. -/
theorem units_lead {pending : Pending} (leads : lead byte = ([], pending)) :
    units .nothing (byte :: rest) = units pending rest := by
  simp [units, feed, leads]

/-- A byte that continues a character puts nothing out either, -/
theorem units_more (above : low ≤ byte) (below : byte ≤ high) :
    units (.tail (owed + 1) low high value) (byte :: rest) =
      units (.tail owed 0x80 0xBF (value * 64 + (byte.toNat - 0x80))) rest := by
  simp [units, feed, above, below]

/-- and one that ends a character puts it out. -/
theorem units_last (above : low ≤ byte) (below : byte ≤ high) :
    units (.tail 0 low high value) (byte :: rest) =
      some (Char.ofNat (value * 64 + (byte.toNat - 0x80))) :: units .nothing rest := by
  simp [units, feed, above, below]

end Units

theorem exists_byte {number : Nat} (small : number < 256) :
    ∃ byte : UInt8, byte.toNat = number :=
  ⟨UInt8.ofNat number, UInt8.toNat_ofNat_of_lt' small⟩

/-- Six bits are carried by a byte within the bounds of one that continues a character. -/
theorem within_of_toNat {byte : UInt8} {number : Nat} (carries : byte.toNat = number % 64 + 0x80) :
    0x80 ≤ byte ∧ byte ≤ 0xBF := by
  simp only [UInt8.le_iff_toNat_le, UInt8.reduceToNat]
  omega

section Characters

variable {number : Nat} (rest : Bytes)

theorem units_one (high : number < 0x80) :
    units .nothing (String.utf8EncodeChar (Char.ofNat number) ++ rest) =
      some (Char.ofNat number) :: units .nothing rest := by
  obtain ⟨byte, rfl⟩ := @exists_byte number (by omega)
  rw [encodeChar_one high, List.singleton_append]
  simp [units, feed, lead_ascii high]

theorem units_two (low : 0x80 ≤ number) (high : number < 0x800) :
    units .nothing (String.utf8EncodeChar (Char.ofNat number) ++ rest) =
      some (Char.ofNat number) :: units .nothing rest := by
  obtain ⟨first, leads⟩ := @exists_byte (number / 64 + 0xC0) (by omega)
  obtain ⟨second, tail⟩ := @exists_byte (number % 64 + 0x80) (by omega)
  obtain ⟨above, below⟩ := within_of_toNat tail
  have value : (first.toNat - 0xC0) * 64 + (second.toNat - 0x80) = number := by omega
  rw [encodeChar_two low high leads tail]
  simp only [List.cons_append, List.nil_append]
  rw [units_lead _ (lead_two (by omega) (by omega)), units_last _ above below, value]

theorem units_three (low : 0x800 ≤ number) (high : number < 0x10000)
    (isChar : number.isValidChar) :
    units .nothing (String.utf8EncodeChar (Char.ofNat number) ++ rest) =
      some (Char.ofNat number) :: units .nothing rest := by
  obtain ⟨first, leads⟩ := @exists_byte (number / 4096 + 0xE0) (by omega)
  obtain ⟨second, middle⟩ := @exists_byte (number / 64 % 64 + 0x80) (by omega)
  obtain ⟨third, tail⟩ := @exists_byte (number % 64 + 0x80) (by omega)
  obtain ⟨least, most, begins, bounds⟩ := @lead_three first (by omega) (by omega)
  have clear : IsSecondOfThree (first.toNat - 0xE0) second := by
    unfold Nat.isValidChar at isChar
    unfold IsSecondOfThree
    omega
  obtain ⟨secondAbove, secondBelow⟩ := (bounds second).mpr clear
  obtain ⟨above, below⟩ := within_of_toNat tail
  have value : ((first.toNat - 0xE0) * 64 + (second.toNat - 0x80)) * 64 + (third.toNat - 0x80) =
      number := by omega
  rw [encodeChar_three low high isChar leads middle tail]
  simp only [List.cons_append, List.nil_append]
  rw [units_lead _ begins, units_more _ secondAbove secondBelow, units_last _ above below, value]

theorem units_four (low : 0x10000 ≤ number) (high : number < 0x110000) :
    units .nothing (String.utf8EncodeChar (Char.ofNat number) ++ rest) =
      some (Char.ofNat number) :: units .nothing rest := by
  obtain ⟨first, leads⟩ := @exists_byte (number / 262144 + 0xF0) (by omega)
  obtain ⟨second, left⟩ := @exists_byte (number / 4096 % 64 + 0x80) (by omega)
  obtain ⟨third, right⟩ := @exists_byte (number / 64 % 64 + 0x80) (by omega)
  obtain ⟨fourth, tail⟩ := @exists_byte (number % 64 + 0x80) (by omega)
  obtain ⟨least, most, begins, bounds⟩ := @lead_four first (by omega) (by omega)
  have within : IsSecondOfFour (first.toNat - 0xF0) second := by
    unfold IsSecondOfFour
    omega
  obtain ⟨secondAbove, secondBelow⟩ := (bounds second).mpr within
  obtain ⟨thirdAbove, thirdBelow⟩ := within_of_toNat right
  obtain ⟨above, below⟩ := within_of_toNat tail
  have value : (((first.toNat - 0xF0) * 64 + (second.toNat - 0x80)) * 64 +
      (third.toNat - 0x80)) * 64 + (fourth.toNat - 0x80) = number := by omega
  rw [encodeChar_four low high leads left right tail]
  simp only [List.cons_append, List.nil_append]
  rw [units_lead _ begins, units_more _ secondAbove secondBelow,
    units_more _ thirdAbove thirdBelow, units_last _ above below, value]

end Characters

/-- A character is read from its bytes, whatever follows them. -/
theorem units_encodeChar (char : Char) (rest : Bytes) :
    units .nothing (String.utf8EncodeChar char ++ rest) = some char :: units .nothing rest := by
  have isChar : char.toNat.isValidChar := char.valid
  rw [← Char.ofNat_toNat char]
  by_cases one : char.toNat < 0x80
  · exact units_one rest one
  by_cases two : char.toNat < 0x800
  · exact units_two rest (Nat.not_lt.mp one) two
  by_cases three : char.toNat < 0x10000
  · exact units_three rest (Nat.not_lt.mp two) three isChar
  · have most : char.toNat < 0x110000 := by
      unfold Nat.isValidChar at isChar
      omega
    exact units_four rest (Nat.not_lt.mp three) most

/-- So is a text from its encoding. -/
theorem units_encode (text : Text) : units .nothing (encode text) = text.map some := by
  induction text with
  | nil => rfl
  | cons char rest ih =>
    have parts : encode (char :: rest) = String.utf8EncodeChar char ++ encode rest := rfl
    rw [parts, units_encodeChar, ih, List.map_cons]

theorem lossy_encode (text : Text) : lossy (encode text) = text := by
  simp [lossy, units_encode, Function.comp_def]

/-- The byte strings that have a text are the encodings. -/
theorem valid_iff {bytes : Bytes} : valid bytes = true ↔ ∃ text, encode text = bytes := by
  constructor
  · exact fun whole => ⟨_, encode_lossy whole⟩
  · rintro ⟨text, rfl⟩
    simp [valid, units_encode]

/-- A byte string is decoded to the text that it encodes, -/
theorem decode?_eq_some_iff {bytes : Bytes} {text : Text} :
    decode? bytes = some text ↔ encode text = bytes := by
  unfold decode?
  constructor
  · intro decoded
    split at decoded
    · next whole =>
      cases decoded
      exact encode_lossy whole
    · cases decoded
  · rintro rfl
    rw [if_pos (valid_iff.mpr ⟨text, rfl⟩), lossy_encode]

/-- and one that encodes none is not. -/
theorem decode?_eq_none_iff {bytes : Bytes} :
    decode? bytes = none ↔ ∀ text, encode text ≠ bytes := by
  rw [Option.eq_none_iff_forall_ne_some]
  exact forall_congr' fun text => not_congr decode?_eq_some_iff

/-- Cut at an ASCII byte, a byte string that has a text is two that have one. -/
theorem valid_append_ascii {byte : UInt8} (small : byte < 0x80) (front back : Bytes) :
    valid (front ++ byte :: back) = (valid front && valid back) := by
  simp [valid, units_append_ascii small front back .nothing trivial]

/-- An ASCII byte of an encoding is a character by itself. -/
theorem mem_of_mem_encode {byte : UInt8} (small : byte < 0x80) {text : Text}
    (within : byte ∈ encode text) : Char.ofNat byte.toNat ∈ text := by
  obtain ⟨front, back, cut⟩ := List.append_of_mem within
  rw [← lossy_encode text, cut, lossy_append_ascii small]
  exact List.mem_append_right _ (List.mem_cons_self ..)

/-! ## Characters and the bytes they come from -/

/-- A byte between characters is one, or begins one, or is an empty place by itself. -/
theorem lead_cases (byte : UInt8) :
    (lead byte).1.all Option.isSome = true ∨ lead byte = ([none], .nothing) := by
  unfold lead
  repeat' split
  all_goals simp

theorem exists_standsFor_lead (byte : UInt8) : ∃ begun, (lead byte).2.StandsFor begun := by
  rcases lead_cases byte with whole | alone
  · obtain ⟨begun, stands, _⟩ := spells_lead whole
    exact ⟨begun, stands⟩
  · rw [alone]
    exact ⟨[], rfl⟩

/-- Whatever has been read, the decoder stands for the bytes of a character that it has begun. -/
theorem exists_standsFor_feed {pending : Pending} {begun : Bytes}
    (stands : pending.StandsFor begun) (byte : UInt8) :
    ∃ later, (feed pending byte).2.StandsFor later := by
  cases pending with
  | nothing => exact exists_standsFor_lead byte
  | tail owed low high value =>
    simp only [feed]
    split
    · next within =>
      cases owed with
      | zero => exact ⟨[], rfl⟩
      | succ owed => exact ⟨_, stands byte within.1 within.2⟩
    · exact exists_standsFor_lead byte

/-- A character that is put out right away is the byte that was read. -/
theorem encodeChar_of_mem_lead {byte : UInt8} {char : Char}
    (put : some char ∈ (lead byte).1) : String.utf8EncodeChar char = [byte] := by
  by_cases small : byte < 0x80
  · rw [lead_ascii small] at put
    obtain rfl : char = Char.ofNat byte.toNat := by simpa using put
    exact encodeChar_one small
  · rw [lead, if_neg small] at put
    repeat' split at put
    all_goals simp at put

/-- A character is put out when its last byte is read. -/
theorem encodeChar_of_mem_feed {pending : Pending} {begun : Bytes}
    (stands : pending.StandsFor begun) {byte : UInt8} {char : Char}
    (put : some char ∈ (feed pending byte).1) :
    ∃ front, String.utf8EncodeChar char = front ++ [byte] := by
  cases pending with
  | nothing => exact ⟨[], encodeChar_of_mem_lead put⟩
  | tail owed low high value =>
    simp only [feed] at put
    split at put
    · next within =>
      cases owed with
      | zero =>
        rw [List.mem_singleton, Option.some.injEq] at put
        rw [put]
        exact ⟨begun, stands byte within.1 within.2⟩
      | succ owed => cases put
    · rcases List.mem_cons.mp put with empty | put
      · cases empty
      · exact ⟨[], encodeChar_of_mem_lead put⟩

theorem mem_of_mem_units {byte : UInt8} (small : byte < 0x80) {pending : Pending} {begun : Bytes}
    (stands : pending.StandsFor begun) {bytes : Bytes}
    (within : some (Char.ofNat byte.toNat) ∈ units pending bytes) : byte ∈ bytes := by
  induction bytes generalizing pending begun with
  | nil => cases pending <;> simp [units, finish] at within
  | cons first rest ih =>
    rcases List.mem_append.mp within with put | later
    · obtain ⟨front, ends⟩ := encodeChar_of_mem_feed stands put
      rw [encodeChar_one small] at ends
      have same : byte = first := by simpa using congrArg List.getLast? ends
      exact same ▸ List.mem_cons_self ..
    · obtain ⟨_, stands⟩ := exists_standsFor_feed stands first
      exact List.mem_cons_of_mem _ (ih stands later)

/-- An ASCII character in the text of any bytes is one of these bytes: no others make it up. -/
theorem mem_of_mem_lossy {byte : UInt8} (small : byte < 0x80) {bytes : Bytes}
    (within : Char.ofNat byte.toNat ∈ lossy bytes) : byte ∈ bytes := by
  obtain ⟨unit, put, shown⟩ := List.mem_map.mp within
  cases unit with
  | some char =>
    obtain rfl : char = Char.ofNat byte.toNat := shown
    exact @mem_of_mem_units byte small .nothing [] rfl bytes put
  | none =>
    have bound : byte.toNat < 0x80 := small
    have value : (Char.ofNat byte.toNat).val.toNat = byte.toNat := val_ofNat (.inl (by omega))
    rw [← shown] at value
    -- The sign for an empty place is no ASCII character.
    have far : 0xFFFD = byte.toNat := value
    omega

/-! ## Text and the bytes it comes from -/

/-- No byte is read without a trace: it puts out something, or it belongs to a character that has
begun. -/
theorem feed_leaves (pending : Pending) (byte : UInt8) :
    (feed pending byte).1 ≠ [] ∨ (feed pending byte).2 ≠ .nothing := by
  cases pending with
  | nothing =>
    simp only [feed, lead]
    repeat' split
    all_goals simp
  | tail owed low high value =>
    simp only [feed]
    split
    · cases owed <;> simp
    · simp

theorem units_ne_nil {pending : Pending} (begun : pending ≠ .nothing) (bytes : Bytes) :
    units pending bytes ≠ [] := by
  induction bytes generalizing pending with
  | nil =>
    cases pending with
    | nothing => exact absurd rfl begun
    | tail => exact List.cons_ne_nil none []
  | cons byte rest ih =>
    rcases feed_leaves pending byte with put | begins
    · exact List.append_ne_nil_of_left_ne_nil put _
    · exact List.append_ne_nil_of_right_ne_nil _ (ih begins)

/-- Only no bytes have an empty text. -/
theorem lossy_eq_nil_iff {bytes : Bytes} : lossy bytes = [] ↔ bytes = [] := by
  refine ⟨fun empty => ?_, fun none => none ▸ rfl⟩
  cases bytes with
  | nil => rfl
  | cons byte rest =>
    have none : units .nothing (byte :: rest) = [] := List.map_eq_nil_iff.mp empty
    rw [units, List.append_eq_nil_iff] at none
    rcases feed_leaves .nothing byte with put | begins
    · exact absurd none.1 put
    · exact absurd none.2 (units_ne_nil begins rest)

/-- Where an ASCII character stands in the text of some bytes, the bytes may be cut. -/
theorem exists_cut_of_lossy {byte : UInt8} (small : byte < 0x80) {bytes : Bytes}
    {front back : Text} (text : lossy bytes = front ++ Char.ofNat byte.toNat :: back) :
    ∃ before after, bytes = before ++ byte :: after ∧ lossy before = front ∧
      lossy after = back := by
  have within : byte ∈ bytes := by
    refine mem_of_mem_lossy small ?_
    rw [text]
    exact List.mem_append_right _ (List.mem_cons_self ..)
  -- The first of these bytes is the character that is meant, or one before it.
  obtain ⟨before, after, whole, first⟩ := List.eq_append_cons_of_mem within
  have outside : Char.ofNat byte.toNat ∉ lossy before := fun there =>
    first (mem_of_mem_lossy small there)
  rw [whole, lossy_append_ascii small] at text
  rcases List.append_eq_append_iff.mp text with ⟨between, rfl, same⟩ | ⟨between, cut, same⟩
  · cases between with
    | nil => exact ⟨before, after, whole, by simp, (List.cons.inj same).2⟩
    | cons c between =>
      obtain ⟨rfl, later⟩ := List.cons.inj same
      obtain ⟨middle, last, rest, rfl, ends⟩ := exists_cut_of_lossy small later
      exact ⟨before ++ byte :: middle, last, by simp [whole, rest], lossy_append_ascii small ..,
        ends⟩
  · cases between with
    | nil => exact ⟨before, after, whole, by simpa using cut, (List.cons.inj same).2.symm⟩
    | cons c between =>
      obtain ⟨rfl, -⟩ := List.cons.inj same
      rw [cut] at outside
      exact absurd (List.mem_append_right _ (List.mem_cons_self ..)) outside
termination_by bytes.length
decreasing_by
  rw [whole, List.length_append, List.length_cons]
  omega

/-- A text that begins with ASCII characters comes from bytes that begin with them. -/
theorem prefix_of_lossy {marks : Bytes} (small : ∀ mark ∈ marks, mark < 0x80) {bytes : Bytes}
    {back : Text} (text : lossy bytes = marks.map (fun mark => Char.ofNat mark.toNat) ++ back) :
    marks <+: bytes := by
  induction marks generalizing bytes with
  | nil => exact List.nil_prefix
  | cons mark marks ih =>
    obtain ⟨first, others⟩ := List.forall_mem_cons.mp small
    obtain ⟨before, after, rfl, nothing, rest⟩ := @exists_cut_of_lossy mark first bytes [] _ text
    rw [lossy_eq_nil_iff.mp nothing]
    exact (List.cons_prefix_cons).mpr ⟨rfl, ih others rest⟩

end LineShell.Utf8
