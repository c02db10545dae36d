import OutlineTable.Text.Encoding

/-! Columns. A column shows the headings that carry its tag, under its title, in at most `limit` cells.
Its descriptor is `%LENGTH` if it has one, a tag, and a title in parentheses if it has one. Every text
but the empty one is a descriptor: the length is the longest run of digits that leaves something for the
tag, and the tag is then the shortest that leaves nothing or a title. A spec is a row of descriptors with
bars between them. Empty descriptors are skipped and counted; the first length that is too long refuses
the whole spec. -/
namespace OutlineTable

structure Descriptor where
  digits : Text
  tag : Text
  title : Option Text
  deriving DecidableEq, Repr

namespace Descriptor

/-- The digits that begin a text, and the rest of it. Where the digits reach the end,
the last of them is left over. -/
def splitDigits (text : Text) : Text × Text :=
  let digits := text.takeWhile Unicode.isDigit
  let rest := text.dropWhile Unicode.isDigit
  if rest.isEmpty then (digits.dropLast, digits.drop (digits.length - 1))
  else (digits, rest)

/-- The digits of the length, none if there is no length, and the rest. -/
def splitLength : Text → Text × Text
  | '%' :: text =>
    let (digits, rest) := splitDigits text
    if digits.isEmpty then ([], '%' :: text) else (digits, rest)
  | text => ([], text)

/-- The tag and the title. The first parenthesis after the first character opens the
title, which ends with the text and is not empty. -/
def splitTitle : Text → Text × Option Text
  | [] => ([], none)
  | c :: text =>
    match text.dropWhile (· != '(') with
    | [] => (c :: text, none)
    | _ :: inner =>
      if inner.getLast? = some ')' ∧ 2 ≤ inner.length then
        (c :: text.takeWhile (· != '('), some inner.dropLast)
      else (c :: text, none)

def cut (text : Text) : Descriptor :=
  let (digits, rest) := splitLength text
  let (tag, title) := splitTitle rest
  ⟨digits, tag, title⟩

def ofText? (text : Text) : Option Descriptor :=
  if text.isEmpty then none else some (cut text)

theorem splitDigits_append (text : Text) :
    (splitDigits text).1 ++ (splitDigits text).2 = text := by
  have parts := List.takeWhile_append_dropWhile (p := Unicode.isDigit) (l := text)
  by_cases reached : (text.dropWhile Unicode.isDigit).isEmpty
  · have whole : text.takeWhile Unicode.isDigit = text := by
      simpa [List.isEmpty_iff.mp reached] using parts
    simp only [splitDigits, reached, if_true, List.dropLast_eq_take, List.take_append_drop, whole]
  · simp [splitDigits, reached]

def writtenTitle : Option Text → Text
  | none => []
  | some title => '(' :: title ++ [')']

theorem dropLast_append_of_getLast? {inner : Text} {last : Char} (h : inner.getLast? = some last) :
    inner.dropLast ++ [last] = inner := by
  obtain ⟨front, rfl⟩ := List.getLast?_eq_some_iff.mp h
  simp

theorem splitTitle_written (text : Text) :
    (splitTitle text).1 ++ writtenTitle (splitTitle text).2 = text := by
  match text with
  | [] => rfl
  | c :: text =>
    have parts := List.takeWhile_append_dropWhile (p := (· != '(')) (l := text)
    cases rest : text.dropWhile (· != '(') with
    | nil => simp [splitTitle, rest, writtenTitle]
    | cons bracket inner =>
      have opening : bracket = '(' := by
        have first := List.head?_dropWhile_not (· != '(') text
        simpa [rest] using first
      by_cases closed : inner.getLast? = some ')' ∧ 2 ≤ inner.length
      · have inside := dropLast_append_of_getLast? closed.1
        rw [rest, opening] at parts
        simp only [splitTitle, rest, closed, and_self, if_true, writtenTitle, List.cons_append, inside]
        exact congrArg (c :: ·) parts
      · simp [splitTitle, rest, closed, writtenTitle]

def writtenLength (digits : Text) : Text :=
  if digits.isEmpty then [] else '%' :: digits

theorem splitLength_written (text : Text) :
    writtenLength (splitLength text).1 ++ (splitLength text).2 = text := by
  unfold splitLength
  split
  next text =>
    have digits := splitDigits_append text
    by_cases absent : (splitDigits text).1.isEmpty
    · simp [absent, writtenLength]
    · simp [absent, writtenLength, digits]
  next => simp [writtenLength]

/-- The text of a descriptor. -/
def written (d : Descriptor) : Text :=
  writtenLength d.digits ++ d.tag ++ writtenTitle d.title

/-- A descriptor is a way to cut its text: put together again it gives the text back. -/
theorem written_cut (text : Text) : (cut text).written = text := by
  show writtenLength (splitLength text).1 ++ (splitTitle (splitLength text).2).1 ++
    writtenTitle (splitTitle (splitLength text).2).2 = text
  rw [List.append_assoc, splitTitle_written, splitLength_written]

end Descriptor

def Column.defaultLimit : Int := 1000

structure Column where
  tag : Text
  title : Text
  limit : Int := Column.defaultLimit
  deriving DecidableEq, Repr

inductive SpecError
  | lengthTooLong (digits : Nat)
  deriving DecidableEq, Repr

/-- The most digits that a length may have, leading zeros included. -/
def maxDigits : Nat := 4300

def SpecError.message : SpecError → Text
  | .lengthTooLong digits =>
    "Exceeds the limit (".toList ++ Text.ofNat maxDigits ++
    " digits) for integer string conversion: value has ".toList ++ Text.ofNat digits ++
    " digits; use sys.set_int_max_str_digits() to increase the limit".toList

namespace Column

/-- Without a title the tag is the title; without a length the limit is the default. -/
def ofDescriptor (d : Descriptor) : Except SpecError Column :=
  if maxDigits < d.digits.length then .error (.lengthTooLong d.digits.length)
  else .ok {
    tag := d.tag
    title := d.title.getD d.tag
    limit := if d.digits.isEmpty then defaultLimit else Text.number d.digits }

/-- The column of a descriptor, none for the empty text. -/
def parse? (text : Text) : Except SpecError (Option Column) :=
  match Descriptor.ofText? text with
  | none => .ok none
  | some d => (ofDescriptor d).map some

/-- The shortest descriptor: a default limit and a title equal to the tag are left out. -/
def print (column : Column) : Text :=
  (if column.limit = defaultLimit then [] else '%' :: Text.ofInt column.limit) ++ column.tag ++
    (if column.title = column.tag then [] else '(' :: column.title ++ [')'])

end Column

structure Spec where
  columns : List Column
  skipped : Nat
  deriving DecidableEq, Repr

namespace Spec

def bar : Char := '|'

def parse (text : Text) : Except SpecError Spec := do
  let read ← (text.split bar).mapM Column.parse?
  return { columns := read.filterMap id, skipped := read.countP Option.isNone }

def print (columns : List Column) : Text :=
  Text.join bar (columns.map Column.print)

/-- The shortest spec of the same columns. -/
def normalize (text : Text) : Except SpecError Text := do
  let spec ← parse text
  return print spec.columns

/-- Every result of normalizing again and again. -/
def normalizeTimes : Nat → Text → Except SpecError (List Text)
  | 0, _ => .ok []
  | times + 1, text => do
    let next ← normalize text
    return next :: (← normalizeTimes times next)

end Spec

end OutlineTable
