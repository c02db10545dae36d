import OutlineTable.Unicode.Property

/-! A text is a list of characters. Strings appear only where the program meets its surroundings.
Texts are split at a mark or into lines, freed of the white space around them and ordered by code
point. Ten characters end a line, a carriage return and the line feed after it end it together, and a
final line end does not begin another line. -/
namespace OutlineTable

abbrev Text := List Char

namespace Text

/-- The parts between the occurrences of a mark; a text without it is one part. -/
def split (mark : Char) (text : Text) : List Text :=
  List.splitOn mark text

def join (mark : Char) (parts : List Text) : Text :=
  List.intercalate [mark] parts

def dropEndWhile (p : Char → Bool) (text : Text) : Text :=
  (text.reverse.dropWhile p).reverse

def takeEndWhile (p : Char → Bool) (text : Text) : Text :=
  (text.reverse.takeWhile p).reverse

theorem dropEndWhile_append_takeEndWhile (p : Char → Bool) (text : Text) :
    dropEndWhile p text ++ takeEndWhile p text = text := by
  simp [dropEndWhile, takeEndWhile, ← List.reverse_append]

theorem join_two (mark : Char) (first second : Text) (rest : List Text) :
    join mark (first :: second :: rest) = first ++ mark :: join mark (second :: rest) := by
  simp [join, List.intercalate]

def isLineEnd (c : Char) : Bool :=
  let point := c.toNat
  (0x0A ≤ point && point ≤ 0x0D) ||
  (0x1C ≤ point && point ≤ 0x1E) ||
  point == 0x85 || point == 0x2028 || point == 0x2029

/-- Puts a character before the first line. -/
def consLine (c : Char) : List Text → List Text
  | [] => [[c]]
  | line :: rest => (c :: line) :: rest

def lines : Text → List Text
  | [] => []
  | '\r' :: '\n' :: text => [] :: lines text
  | c :: text => if isLineEnd c then [] :: lines text else consLine c (lines text)

/-- Writes every carriage return, with or without a line feed after it, as a line feed. -/
def unifyLineEnds : Text → Text
  | [] => []
  | '\r' :: '\n' :: text => '\n' :: unifyLineEnds text
  | c :: text => (if c = '\r' then '\n' else c) :: unifyLineEnds text

/-- White space of every script. -/
def blankRanges : Unicode.Ranges := [
  (0x09, 0x0D), (0x1C, 0x20), (0x85, 0x85), (0xA0, 0xA0), (0x1680, 0x1680), (0x2000, 0x200A),
  (0x2028, 0x2029), (0x202F, 0x202F), (0x205F, 0x205F), (0x3000, 0x3000)]

def isBlank (c : Char) : Bool :=
  blankRanges.covers c.toNat

def trimEnd (text : Text) : Text :=
  text.dropEndWhile isBlank

def trim (text : Text) : Text :=
  trimEnd (text.dropWhile isBlank)

/-- The blanks that may stand between the parts of a line. -/
def isIndent (c : Char) : Bool :=
  c == ' ' || c == '\t'

theorem isBlank_of_isIndent (h : isIndent c = true) : isBlank c = true := by
  simp only [isIndent, Bool.or_eq_true, beq_iff_eq] at h
  rcases h with rfl | rfl <;> rfl

/-- The first character that differs decides, and a text comes before its extensions. -/
def precedes : Text → Text → Bool
  | _, [] => false
  | [], _ :: _ => true
  | c :: first, d :: second => c.toNat < d.toNat || (c.toNat == d.toNat && precedes first second)

@[simp] theorem precedes_nil (text : Text) : precedes text [] = false := by
  cases text <;> rfl

theorem precedes_irrefl (text : Text) : precedes text text = false := by
  induction text with
  | nil => rfl
  | cons c text ih => simp [precedes, ih]

theorem precedes_trans (ab : precedes a b = true) (bc : precedes b c = true) :
    precedes a c = true := by
  induction a generalizing b c with
  | nil =>
    cases c with
    | nil => simp at bc
    | cons => rfl
  | cons x a ih =>
    cases b with
    | nil => simp at ab
    | cons y b =>
      cases c with
      | nil => simp at bc
      | cons z c =>
        simp only [precedes, Bool.or_eq_true, Bool.and_eq_true, decide_eq_true_eq,
          beq_iff_eq] at ab bc ⊢
        rcases ab with less | ⟨same, ab⟩
        · left; rcases bc with more | ⟨again, _⟩ <;> omega
        · rcases bc with more | ⟨again, bc⟩
          · left; omega
          · exact Or.inr ⟨same.trans again, ih ab bc⟩

/-- Of two different texts one precedes the other. -/
theorem precedes_total (different : a ≠ b) (not : precedes a b = false) :
    precedes b a = true := by
  induction a generalizing b with
  | nil =>
    cases b with
    | nil => exact absurd rfl different
    | cons => simp [precedes] at not
  | cons x a ih =>
    cases b with
    | nil => rfl
    | cons y b =>
      simp only [precedes, Bool.or_eq_false_iff, Bool.and_eq_false_iff, decide_eq_false_iff_not,
        beq_eq_false_iff_ne] at not
      simp only [precedes, Bool.or_eq_true, Bool.and_eq_true, decide_eq_true_eq, beq_iff_eq]
      by_cases same : x.toNat = y.toNat
      · have rest : a ≠ b := fun eq => different (by rw [Char.toNat_inj.mp same, eq])
        have apart : precedes a b = false := by
          rcases not.2 with other | apart
          · exact absurd same other
          · exact apart
        exact Or.inr ⟨same.symm, ih rest apart⟩
      · left; omega

end Text

end OutlineTable
