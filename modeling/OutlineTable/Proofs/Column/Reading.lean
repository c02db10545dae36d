import Mathlib.Data.List.TakeWhile
import OutlineTable.Column

/-! What the cut of a descriptor is, without the way it is found. A text is put together
from a length, a tag and a title in many ways; the conditions here single out one of
them, and the cut is that one. -/
namespace OutlineTable

/-- A text that begins with a digit. -/
def beginsDigit (text : Text) : Bool :=
  text.head?.any Unicode.isDigit

/-- A text that begins as a length does. -/
def beginsLength : Text → Bool
  | '%' :: text => beginsDigit text
  | _ => false

theorem exists_percent_of_beginsLength (begins : beginsLength text = true) :
    ∃ after, text = '%' :: after := by
  unfold beginsLength at begins
  split at begins
  next after => exact ⟨after, rfl⟩
  next => contradiction

/-- A tag that would be read as a tag and its title. -/
def Titled (text : Text) : Prop :=
  ∃ tag title : Text, tag ≠ [] ∧ title ≠ [] ∧ text = tag ++ '(' :: title ++ [')']

namespace Descriptor

open Unicode

/-- The digits of a length end where no digit follows, or where only one character is
left. Without digits what follows is no length, or too short to be one. -/
structure LengthCut (digits rest : Text) : Prop where
  digit : ∀ c ∈ digits, isDigit c = true
  nonempty : rest ≠ []
  absent : digits = [] → beginsLength rest = true → rest.length = 2
  full : digits ≠ [] → beginsDigit rest = true → rest.length = 1

/-- A title is not empty and opens at the first parenthesis after the tag's first character. -/
structure TitleCut (tag : Text) (title : Option Text) : Prop where
  nonempty : tag ≠ []
  absent : title = none → ¬Titled tag
  full : ∀ inner ∈ title, inner ≠ [] ∧ '(' ∉ tag.tail

structure Preferred (d : Descriptor) : Prop where
  length : LengthCut d.digits (d.tag ++ writtenTitle d.title)
  title : TitleCut d.tag d.title

theorem takeWhile_of_not_beginsDigit (other : beginsDigit text = false) : text.takeWhile isDigit = [] := by
  cases text with
  | nil => rfl
  | cons c text => exact List.takeWhile_cons_of_neg (by simpa [beginsDigit] using other)

theorem dropWhile_of_not_beginsDigit (other : beginsDigit text = false) :
    text.dropWhile isDigit = text := by
  cases text with
  | nil => rfl
  | cons c text => exact List.dropWhile_cons_of_neg (by simpa [beginsDigit] using other)

theorem not_beginsDigit_dropWhile (text : Text) : beginsDigit (text.dropWhile isDigit) = false := by
  have stop := List.head?_dropWhile_not isDigit text
  cases rest : text.dropWhile isDigit with
  | nil => rfl
  | cons c rest => simpa [rest, beginsDigit] using stop

theorem splitDigits_append_of_digits {digits rest : Text} (all : ∀ c ∈ digits, isDigit c = true)
    (nonempty : rest ≠ []) (full : beginsDigit rest = true → rest.length = 1) :
    splitDigits (digits ++ rest) = (digits, rest) := by
  by_cases more : beginsDigit rest = true
  · -- The run reaches the end, and its last digit is left over.
    obtain ⟨d, rfl⟩ := List.length_eq_one_iff.mp (full more)
    have last : isDigit d = true := by simpa [beginsDigit] using more
    have every : ∀ c ∈ digits ++ [d], isDigit c = true := by
      intro c member
      rcases List.mem_append.mp member with member | member
      · exact all c member
      · rw [List.mem_singleton.mp member, last]
    have run := List.takeWhile_eq_self_iff.mpr every
    have stop := List.dropWhile_eq_nil_iff.mpr every
    simp [splitDigits, run, stop]
  · have stop : beginsDigit rest = false := by simpa using more
    have run : (digits ++ rest).takeWhile isDigit = digits := by
      rw [List.takeWhile_append_of_pos all, takeWhile_of_not_beginsDigit stop, List.append_nil]
    have left : (digits ++ rest).dropWhile isDigit = rest := by
      rw [List.dropWhile_append_of_pos all, dropWhile_of_not_beginsDigit stop]
    simp [splitDigits, run, left, nonempty]

theorem splitDigits_cut (text : Text) :
    (∀ c ∈ (splitDigits text).1, isDigit c = true) ∧
    (text ≠ [] → (splitDigits text).2 ≠ []) ∧
    (beginsDigit (splitDigits text).2 = true → (splitDigits text).2.length = 1) := by
  have run : ∀ c ∈ text.takeWhile isDigit, isDigit c = true := fun c => List.mem_takeWhile_imp
  by_cases reached : (text.dropWhile isDigit).isEmpty
  · simp only [splitDigits, reached, if_true]
    have whole : text.takeWhile isDigit = text := by
      simpa [List.isEmpty_iff.mp reached] using
        List.takeWhile_append_dropWhile (p := isDigit) (l := text)
    rw [whole] at run ⊢
    refine ⟨fun c member => run c ((List.dropLast_subset text) member), ?_, ?_⟩
    · intro nonempty left
      have some := List.length_pos_iff.mpr nonempty
      have short := List.drop_eq_nil_iff.mp left
      omega
    · intro more
      have nonempty : text ≠ [] := by
        rintro rfl
        simp [beginsDigit] at more
      have some := List.length_pos_iff.mpr nonempty
      rw [List.length_drop]
      omega
  · rw [splitDigits, if_neg reached]
    refine ⟨run, fun _ => by simpa using reached, ?_⟩
    intro more
    simp [not_beginsDigit_dropWhile] at more

theorem splitLength_of_not_percent (other : ∀ rest, text ≠ '%' :: rest) :
    splitLength text = ([], text) := by
  unfold splitLength
  split
  next rest => exact absurd rfl (other rest)
  next => rfl

theorem splitLength_cut (nonempty : text ≠ []) :
    LengthCut (splitLength text).1 (splitLength text).2 := by
  by_cases percent : ∃ after, text = '%' :: after
  · obtain ⟨after, rfl⟩ := percent
    obtain ⟨digit, left, full⟩ := splitDigits_cut after
    by_cases none : (splitDigits after).1 = []
    · have whole : (splitDigits after).2 = after := by simpa [none] using splitDigits_append after
      rw [whole] at full
      simp only [splitLength, none, List.isEmpty_nil, if_true]
      refine ⟨by simp, by simp, fun _ begins => ?_, fun some => absurd rfl some⟩
      -- No digit was taken although one is there, so nothing else is there.
      simp [full begins]
    · have nonempty : after ≠ [] := by
        rintro rfl
        exact none rfl
      simp only [splitLength, List.isEmpty_iff, none, if_false]
      exact ⟨digit, left nonempty, fun taken => absurd taken none, fun _ => full⟩
  · have other : ∀ after, text ≠ '%' :: after := fun after same => percent ⟨after, same⟩
    rw [splitLength_of_not_percent other]
    refine ⟨by simp, nonempty, fun _ begins => ?_, fun some => absurd rfl some⟩
    exact absurd (exists_percent_of_beginsLength begins) percent

theorem splitLength_append {digits rest : Text} (cut : LengthCut digits rest) :
    splitLength (writtenLength digits ++ rest) = (digits, rest) := by
  by_cases none : digits = []
  · subst none
    by_cases percent : ∃ after, rest = '%' :: after
    · obtain ⟨after, rfl⟩ := percent
      have short : (splitDigits after).1 = [] := by
        by_cases more : beginsDigit after = true
        · obtain ⟨d, rfl⟩ := List.length_eq_one_iff.mp (by simpa using cut.absent rfl more)
          rw [← List.nil_append [d], splitDigits_append_of_digits (by simp) (by simp) (by simp)]
        · have stop : beginsDigit after = false := by simpa using more
          have run := takeWhile_of_not_beginsDigit stop
          by_cases reached : (after.dropWhile isDigit).isEmpty <;> simp [splitDigits, run, reached]
      simp [splitLength, writtenLength, short]
    · have other : ∀ after, rest ≠ '%' :: after := fun after same => percent ⟨after, same⟩
      exact splitLength_of_not_percent other
  · have taken := splitDigits_append_of_digits cut.digit cut.nonempty (cut.full none)
    simp [splitLength, writtenLength, none, taken]

/-- A parenthesis after the first character begins a title exactly where the text ends as
a title does. -/
theorem closed_iff_titled {c : Char} {text inner : Text}
    (parts : text.dropWhile (· != '(') = '(' :: inner) :
    inner.getLast? = some ')' ∧ 2 ≤ inner.length ↔ Titled (c :: text) := by
  constructor
  · rintro ⟨last, long⟩
    have inside := dropLast_append_of_getLast? last
    have count := congrArg List.length inside
    refine ⟨c :: text.takeWhile (· != '('), inner.dropLast, by simp, ?_, ?_⟩
    · intro none
      simp [none] at count
      omega
    · calc
        c :: text = c :: (text.takeWhile (· != '(') ++ text.dropWhile (· != '(')) := by
          rw [List.takeWhile_append_dropWhile]
        _ = c :: text.takeWhile (· != '(') ++ '(' :: inner.dropLast ++ [')'] := by
          rw [parts, List.append_assoc, List.cons_append, List.cons_append, inside]
  · rintro ⟨tag, title, some, filled, same⟩
    obtain ⟨d, tag, rfl⟩ := List.exists_cons_of_ne_nil some
    simp only [List.cons_append, List.append_assoc, List.cons.injEq] at same
    obtain ⟨-, rfl⟩ := same
    -- The tag may hold an earlier parenthesis; the title then begins there.
    obtain ⟨front, rfl⟩ : ∃ front, inner = front ++ title ++ [')'] := by
      rw [List.dropWhile_append] at parts
      split at parts
      next => exact ⟨[], by simpa using parts.symm⟩
      next earlier =>
        have some : tag.dropWhile (· != '(') ≠ [] := fun none => earlier (by simp [none])
        obtain ⟨bracket, rest, left⟩ := List.exists_cons_of_ne_nil some
        rw [left] at parts
        exact ⟨rest ++ ['('], by simpa using (List.cons.inj parts).2.symm⟩
    have count := List.length_pos_iff.mpr filled
    refine ⟨by simp, ?_⟩
    simp only [List.length_append, List.length_singleton]
    omega

theorem splitTitle_cut (nonempty : text ≠ []) : TitleCut (splitTitle text).1 (splitTitle text).2 := by
  cases text with
  | nil => contradiction
  | cons c text =>
    cases parts : text.dropWhile (· != '(') with
    | nil =>
      simp only [splitTitle, parts]
      refine ⟨by simp, fun _ => ?_, by simp⟩
      rintro ⟨tag, title, some, _, same⟩
      have bare : ∀ d ∈ text, d ≠ '(' := by simpa using List.dropWhile_eq_nil_iff.mp parts
      obtain ⟨d, tag, rfl⟩ := List.exists_cons_of_ne_nil some
      have opening : '(' ∈ text := by simp [(List.cons.inj same).2]
      exact bare '(' opening rfl
    | cons bracket inner =>
      have opening : bracket = '(' := by
        have first := List.head?_dropWhile_not (· != '(') text
        simpa [parts] using first
      subst opening
      by_cases closed : inner.getLast? = some ')' ∧ 2 ≤ inner.length
      · simp only [splitTitle, parts, closed, and_self, if_true]
        refine ⟨by simp, by simp, ?_⟩
        intro title same
        obtain rfl := Option.mem_some.mp same
        constructor
        · intro none
          have count : inner.dropLast.length = inner.length - 1 := List.length_dropLast
          rw [none, List.length_nil] at count
          omega
        · intro inside
          simpa using List.mem_takeWhile_imp inside
      · simp only [splitTitle, parts, closed, if_false]
        exact ⟨by simp, fun _ titled => closed ((closed_iff_titled parts).mpr titled), by simp⟩

theorem splitTitle_append {tag : Text} {title : Option Text} (cut : TitleCut tag title) :
    splitTitle (tag ++ writtenTitle title) = (tag, title) := by
  obtain ⟨c, rest, rfl⟩ := List.exists_cons_of_ne_nil cut.nonempty
  cases title with
  | none =>
    rw [writtenTitle, List.append_nil]
    cases parts : rest.dropWhile (· != '(') with
    | nil => simp [splitTitle, parts]
    | cons bracket inner =>
      have opening : bracket = '(' := by
        have first := List.head?_dropWhile_not (· != '(') rest
        simpa [parts] using first
      subst opening
      have open' : ¬(inner.getLast? = some ')' ∧ 2 ≤ inner.length) :=
        fun closed => cut.absent rfl ((closed_iff_titled parts).mp closed)
      simp [splitTitle, parts, open']
  | some title =>
    obtain ⟨filled, bare⟩ := cut.full title rfl
    have count := List.length_pos_iff.mpr filled
    have free : ∀ d ∈ rest, (d != '(') = true := by
      intro d member
      have different : d ≠ '(' := by
        rintro rfl
        exact bare member
      simpa using different
    have front : (rest ++ '(' :: (title ++ [')'])).takeWhile (· != '(') = rest := by
      rw [List.takeWhile_append_of_pos free]
      simp
    have back : (rest ++ '(' :: (title ++ [')'])).dropWhile (· != '(') = '(' :: (title ++ [')']) := by
      rw [List.dropWhile_append_of_pos free]
      simp
    simp [splitTitle, writtenTitle, front, back]
    omega

/-- The cut of a text is its one preferred division. -/
theorem cut_eq_iff {d : Descriptor} (nonempty : text ≠ []) :
    cut text = d ↔ d.written = text ∧ d.Preferred := by
  constructor
  · rintro rfl
    have length := splitLength_cut nonempty
    have title := splitTitle_cut length.nonempty
    have whole := splitTitle_written (splitLength text).2
    refine ⟨written_cut text, ?_, title⟩
    simpa only [cut, whole] using length
  · rintro ⟨rfl, preferred⟩
    have length := splitLength_append preferred.length
    have title := splitTitle_append preferred.title
    rw [← List.append_assoc] at length
    simp only [cut, written, length, title]

theorem preferred_cut (nonempty : text ≠ []) : (cut text).Preferred :=
  ((cut_eq_iff nonempty).mp rfl).2

end Descriptor

end OutlineTable
