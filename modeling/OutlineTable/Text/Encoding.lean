import OutlineTable.Text.Basic

/-! Written forms. Decimal numbers are read from the digits of any script and written in ASCII;
hexadecimal ones have a fixed number of digits, written in lower case and read in either. A text is
written in UTF-8, of which decoding refuses every sequence of bytes that encoding cannot write, or in
UTF-16 units: a character below 0x10000 is one unit, any other a pair of a high and a low half. A text
that is shown in a message stands between quotes, and what cannot be printed is shown by its number. -/
namespace OutlineTable.Text

/-- The number that a run of digits stands for. -/
def number (digits : Text) : Nat :=
  digits.foldl (fun total c => 10 * total + (Unicode.digitValue? c).getD 0) 0

def ofNat (number : Nat) : Text :=
  Nat.toDigits 10 number

def ofInt (number : Int) : Text :=
  if number < 0 then '-' :: ofNat number.natAbs else ofNat number.natAbs

theorem isDigit_of_toNat (low : 0x30 ≤ c.toNat) (high : c.toNat ≤ 0x39) :
    Unicode.isDigit c = true := by
  simp [Unicode.isDigit, Unicode.digitRanges, Unicode.Ranges.covers, low, high]

def hex : Nat → Nat → Text
  | 0, _ => []
  | digits + 1, number => hex digits (number / 16) ++ [Nat.digitChar (number % 16)]

def hexDigit? (c : Char) : Option Nat :=
  let point := c.toNat
  if 0x30 ≤ point ∧ point ≤ 0x39 then some (point - 0x30)
  else if 0x41 ≤ point ∧ point ≤ 0x46 then some (point - 0x41 + 10)
  else if 0x61 ≤ point ∧ point ≤ 0x66 then some (point - 0x61 + 10)
  else none

/-- The number that a run of hexadecimal digits stands for. -/
def hexNumber? (digits : Text) : Option Nat :=
  digits.foldlM (fun number c => (hexDigit? c).map (16 * number + ·)) 0

theorem hexDigit?_digitChar (h : digit < 16) : hexDigit? (Nat.digitChar digit) = some digit := by
  have all : ∀ digit : Fin 16, hexDigit? (Nat.digitChar digit) = some digit.val := by decide
  exact all ⟨digit, h⟩

theorem hexNumber?_hex {digits number : Nat} (h : number < Nat.pow 16 digits) :
    hexNumber? (hex digits number) = some number := by
  induction digits generalizing number with
  | zero =>
    have zero : number = 0 := Nat.lt_one_iff.mp h
    simp [hex, hexNumber?, zero]
  | succ digits ih =>
    have quotient : number / 16 < Nat.pow 16 digits := by
      have step : Nat.pow 16 (digits + 1) = 16 * Nat.pow 16 digits := Nat.mul_comm _ _
      rw [step] at h
      exact Nat.div_lt_of_lt_mul h
    have before := ih quotient
    simp only [hexNumber?] at before
    have last := hexDigit?_digitChar (Nat.mod_lt number (by decide : 0 < 16))
    simp only [hex, hexNumber?, List.foldlM_append, before, List.foldlM_cons, List.foldlM_nil, last]
    simp only [Option.map_some, Option.bind_eq_bind, Option.bind_some, Option.pure_def]
    exact congrArg some (Nat.div_add_mod number 16)

def utf8 (text : Text) : ByteArray :=
  (String.ofList text).toUTF8

def ofUtf8? (bytes : ByteArray) : Option Text :=
  (String.fromUTF8? bytes).map String.toList

/-- The number of bytes that a text takes. -/
def byteCount : Text → Nat
  | [] => 0
  | c :: text => c.utf8Size + byteCount text

theorem ofUtf8?_utf8 (text : Text) : ofUtf8? (utf8 text) = some text := by
  have valid : (String.ofList text).toUTF8.IsValidUTF8 := (String.ofList text).isValidUTF8
  have read : String.fromUTF8? (String.ofList text).toUTF8 = some (String.ofList text) :=
    dif_pos valid
  rw [ofUtf8?, utf8, read, Option.map_some, String.toList_ofList]

def unitsOf (c : Char) : List Nat :=
  let point := c.toNat
  if point < 0x10000 then [point]
  else [0xD800 + (point - 0x10000) / 0x400, 0xDC00 + (point - 0x10000) % 0x400]

def units (text : Text) : List Nat :=
  text.flatMap unitsOf

def isHigh (unit : Nat) : Bool :=
  0xD800 ≤ unit && unit < 0xDC00

def isLow (unit : Nat) : Bool :=
  0xDC00 ≤ unit && unit < 0xE000

/-- The character of a unit on its own; half a pair becomes the replacement character. -/
def ofUnit (unit : Nat) : Char :=
  if isHigh unit || isLow unit then Char.ofNat 0xFFFD else Char.ofNat unit

def ofPair (high low : Nat) : Char :=
  Char.ofNat (0x10000 + (high - 0xD800) * 0x400 + (low - 0xDC00))

def ofUnits : List Nat → Text
  | [] => []
  | [unit] => [ofUnit unit]
  | high :: low :: rest =>
    if isHigh high && isLow low then ofPair high low :: ofUnits rest
    else ofUnit high :: ofUnits (low :: rest)

theorem units_cons (c : Char) (text : Text) : units (c :: text) = unitsOf c ++ units text := by
  simp [units]

theorem toNat_not_half (c : Char) : isHigh c.toNat = false ∧ isLow c.toNat = false := by
  have valid := c.valid
  simp only [UInt32.isValidChar, Nat.isValidChar] at valid
  have value : c.val.toNat = c.toNat := rfl
  constructor <;> simp only [isHigh, isLow, Bool.and_eq_false_iff, decide_eq_false_iff_not] <;> omega

theorem ofUnit_toNat (c : Char) : ofUnit c.toNat = c := by
  simp [ofUnit, toNat_not_half c]

theorem ofUnits_toNat_cons (c : Char) (rest : List Nat) :
    ofUnits (c.toNat :: rest) = c :: ofUnits rest := by
  cases rest with
  | nil => simp [ofUnits, ofUnit_toNat]
  | cons unit rest => simp [ofUnits, toNat_not_half c, ofUnit_toNat]

theorem ofUnits_unitsOf_append (c : Char) (rest : List Nat) :
    ofUnits (unitsOf c ++ rest) = c :: ofUnits rest := by
  by_cases single : c.toNat < 0x10000
  · simp [unitsOf, single, ofUnits_toNat_cons]
  · have valid := c.valid
    simp only [UInt32.isValidChar, Nat.isValidChar] at valid
    have value : c.val.toNat = c.toNat := rfl
    have high : isHigh (0xD800 + (c.toNat - 0x10000) / 0x400) = true := by
      simp only [isHigh, Bool.and_eq_true, decide_eq_true_eq]; omega
    have low : isLow (0xDC00 + (c.toNat - 0x10000) % 0x400) = true := by
      simp only [isLow, Bool.and_eq_true, decide_eq_true_eq]; omega
    have pair : ofPair (0xD800 + (c.toNat - 0x10000) / 0x400)
        (0xDC00 + (c.toNat - 0x10000) % 0x400) = c := by
      have sum : 0x10000 + (0xD800 + (c.toNat - 0x10000) / 0x400 - 0xD800) * 0x400 +
          (0xDC00 + (c.toNat - 0x10000) % 0x400 - 0xDC00) = c.toNat := by omega
      rw [ofPair, sum, Char.ofNat_toNat]
    simp [unitsOf, single, ofUnits, high, low, pair]

/-- Reading inverts writing. -/
theorem ofUnits_units (text : Text) : ofUnits (units text) = text := by
  induction text with
  | nil => rfl
  | cons c text ih => rw [units_cons, ofUnits_unitsOf_append, ih]

/-- An apostrophe, or a double quote where that saves escaping. -/
def quoteFor (text : Text) : Char :=
  if text.contains '\x27' && !text.contains '\x22' then '\x22' else '\x27'

def escaped (quote c : Char) : Text :=
  if c = '\\' ∨ c = quote then ['\\', c]
  else if c = '\n' then ['\\', 'n']
  else if c = '\r' then ['\\', 'r']
  else if c = '\t' then ['\\', 't']
  else if Unicode.isPrintable c then [c]
  else if c.toNat < 0x100 then '\\' :: 'x' :: hex 2 c.toNat
  else if c.toNat < 0x10000 then '\\' :: 'u' :: hex 4 c.toNat
  else '\\' :: 'U' :: hex 8 c.toNat

def quoted (text : Text) : Text :=
  quoteFor text :: text.flatMap (escaped (quoteFor text)) ++ [quoteFor text]

end OutlineTable.Text
