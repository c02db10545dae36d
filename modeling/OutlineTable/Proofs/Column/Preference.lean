import OutlineTable.Proofs.Column.Printing

/-! Which of the many ways to divide a text into a length, a tag and a title its descriptor is:
the one with the most digits and, among those, the shortest tag. Every text but the empty one
has exactly one such way, and its column is read from that. -/
namespace OutlineTable

namespace Descriptor

open Column Unicode

variable {d e first second : Descriptor} {text : Text}

/-- A way to divide a text: digits behind a percent sign if there are any, a tag, and a title
in parentheses if there is one. -/
structure Divides (d : Descriptor) (text : Text) : Prop where
  whole : d.written = text
  digit : ∀ c ∈ d.digits, isDigit c = true
  tag : d.tag ≠ []
  title : ∀ inner ∈ d.title, inner ≠ []

/-- The way that comes before all others. A length of any digits is longer than none. -/
structure Foremost (d : Descriptor) (text : Text) : Prop where
  divides : d.Divides text
  longest : ∀ e : Descriptor, e.Divides text → e.digits.length ≤ d.digits.length
  shortest : ∀ e : Descriptor, e.Divides text → e.digits.length = d.digits.length →
    d.tag.length ≤ e.tag.length

theorem written_eq (d : Descriptor) : d.written = writtenLength d.digits ++ (d.tag ++ writtenTitle d.title) :=
  List.append_assoc _ _ _

theorem Divides.ne_nil (divides : d.Divides text) : text ≠ [] := by
  rw [← divides.whole, written_eq]
  exact List.append_ne_nil_of_right_ne_nil _ (List.append_ne_nil_of_left_ne_nil divides.tag _)

theorem writtenLength_of_ne_nil {digits : Text} (given : digits ≠ []) : writtenLength digits = '%' :: digits :=
  if_neg (by simpa using given)

theorem divides_cut (nonempty : text ≠ []) : (cut text).Divides text where
  whole := written_cut text
  digit := (preferred_cut nonempty).length.digit
  tag := (preferred_cut nonempty).title.nonempty
  title inner given := ((preferred_cut nonempty).title.full inner given).1

/-- A text whose digits are taken up to a point begins with a digit where more could be taken. -/
theorem beginsDigit_of_longer {digits more rest after : Text} (same : digits ++ rest = more ++ after)
    (all : ∀ c ∈ more, isDigit c = true) (longer : digits.length < more.length) :
    beginsDigit rest = true := by
  obtain ⟨extra, rfl⟩ : digits <+: more := List.prefix_of_prefix_length_le ⟨rest, same⟩ ⟨after, rfl⟩ longer.le
  rw [List.append_assoc, List.append_cancel_left_eq] at same
  cases extra with
  | nil => simp at longer
  | cons c extra =>
    rw [same]
    exact all c (by simp)

theorem Divides.length_rest_pos (divides : d.Divides text) : 0 < (d.tag ++ writtenTitle d.title).length :=
  List.length_pos_iff.mpr (List.append_ne_nil_of_left_ne_nil divides.tag _)

/-- Where the preferred way has no length, no way has one: the text is too short for it. -/
theorem digits_eq_nil (preferred : d.Preferred) (whole : d.written = text) (other : e.Divides text)
    (absent : d.digits = []) : e.digits = [] := by
  by_contra given
  have none : writtenLength [] = [] := rfl
  have same : d.written = e.written := whole.trans other.whole.symm
  rw [written_eq, written_eq, writtenLength_of_ne_nil given, absent, none, List.nil_append] at same
  have begins : beginsLength (d.tag ++ writtenTitle d.title) = true := by
    obtain ⟨c, digits, parts⟩ := List.exists_cons_of_ne_nil given
    rw [same, parts]
    exact other.digit c (by simp [parts])
  have two := preferred.length.absent absent begins
  have count := congrArg List.length same
  have digits := List.length_pos_iff.mpr given
  have some := other.length_rest_pos
  simp only [List.length_append, List.length_cons] at count two some
  omega

/-- No way to divide a text has more digits than the preferred one. -/
theorem length_digits_le (preferred : d.Preferred) (whole : d.written = text) (other : e.Divides text) :
    e.digits.length ≤ d.digits.length := by
  by_cases given : d.digits = []
  · rw [digits_eq_nil preferred whole other given]
    exact Nat.zero_le _
  · by_contra longer
    have more : e.digits ≠ [] := by
      intro none
      simp [none] at longer
    have same : d.written = e.written := whole.trans other.whole.symm
    rw [written_eq, written_eq, writtenLength_of_ne_nil given, writtenLength_of_ne_nil more, List.cons_append,
      List.cons_append, List.cons_inj_right] at same
    -- More digits could be taken only where a single character is left, and that is the tag.
    have one := preferred.length.full given (beginsDigit_of_longer same other.digit (Nat.not_le.mp longer))
    have count := congrArg List.length same
    have some := other.length_rest_pos
    simp only [List.length_append] at count one some
    omega

/-- Of the ways with the same digits none has a shorter tag than the preferred one. -/
theorem length_tag_le (preferred : d.Preferred)
    (whole : d.tag ++ writtenTitle d.title = e.tag ++ writtenTitle e.title) (tag : e.tag ≠ [])
    (filled : ∀ inner ∈ e.title, inner ≠ []) : d.tag.length ≤ e.tag.length := by
  by_contra shorter
  obtain ⟨extra, parts⟩ : e.tag <+: d.tag :=
    List.prefix_of_prefix_length_le ⟨_, whole.symm⟩ ⟨_, rfl⟩ (Nat.not_le.mp shorter).le
  rw [← parts, List.append_assoc, List.append_cancel_left_eq] at whole
  obtain ⟨c, extra, rfl⟩ : ∃ c rest, extra = c :: rest := by
    apply List.exists_cons_of_ne_nil
    rintro rfl
    simp [← parts] at shorter
  cases behind : e.title with
  | none => simp [behind, writtenTitle] at whole
  | some inner =>
    rw [behind, writtenTitle, List.cons_append, List.cons_append] at whole
    obtain ⟨rfl, rest⟩ := List.cons.inj whole
    cases given : d.title with
    | none =>
      -- The longer tag would itself be a tag and its title.
      refine preferred.title.absent given ⟨e.tag, inner, tag, filled inner behind, ?_⟩
      rw [given, writtenTitle, List.append_nil] at rest
      rw [← parts, rest, List.append_assoc, List.cons_append]
    | some title =>
      -- The longer tag would hold the parenthesis that opens the other title.
      obtain ⟨c, front, opening⟩ := List.exists_cons_of_ne_nil tag
      obtain ⟨-, bare⟩ := preferred.title.full title given
      exact bare (by simp [← parts, opening])

theorem writtenTitle_injective {first second : Option Text} (same : writtenTitle first = writtenTitle second) :
    first = second := by
  cases first <;> cases second <;> simp_all [writtenTitle]

theorem written_rest_eq (one : first.Divides text) (two : second.Divides text)
    (count : first.digits.length = second.digits.length) :
    first.digits = second.digits ∧
      first.tag ++ writtenTitle first.title = second.tag ++ writtenTitle second.title := by
  have same : first.written = second.written := one.whole.trans two.whole.symm
  have lengths : (writtenLength first.digits).length = (writtenLength second.digits).length :=
    Nat.le_antisymm (length_writtenLength_le count.le) (length_writtenLength_le count.ge)
  rw [written_eq, written_eq] at same
  obtain ⟨digits, rest⟩ := List.append_inj same lengths
  exact ⟨writtenLength_injective digits, rest⟩

/-- The cut of a text comes before all other ways to divide it. -/
theorem foremost_cut (nonempty : text ≠ []) : (cut text).Foremost text where
  divides := divides_cut nonempty
  longest _ other := length_digits_le (preferred_cut nonempty) (written_cut text) other
  shortest _ other count :=
    length_tag_le (preferred_cut nonempty) (written_rest_eq (divides_cut nonempty) other count.symm).2
      other.tag other.title

theorem Foremost.unique (one : first.Foremost text) (two : second.Foremost text) : first = second := by
  have count : first.digits.length = second.digits.length :=
    Nat.le_antisymm (two.longest first one.divides) (one.longest second two.divides)
  obtain ⟨digits, rest⟩ := written_rest_eq one.divides two.divides count
  have lengths : first.tag.length = second.tag.length :=
    Nat.le_antisymm (one.shortest second two.divides count.symm) (two.shortest first one.divides count)
  obtain ⟨tag, title⟩ := List.append_inj rest lengths
  calc
    first = ⟨first.digits, first.tag, first.title⟩ := rfl
    _ = second := by rw [digits, tag, writtenTitle_injective title]

end Descriptor

namespace Column

open Descriptor Text

variable {text : Text}

theorem ofDescriptor_eq (d : Descriptor) :
    ofDescriptor d =
      if d.digits.length ≤ maxDigits then
        .ok ⟨d.tag, d.title.getD d.tag, if d.digits = [] then defaultLimit else number d.digits⟩
      else .error (.lengthTooLong d.digits.length) := by
  by_cases short : d.digits.length ≤ maxDigits
  · rw [if_pos short]
    exact ofDescriptor_eq_ok_iff.mpr ⟨short, rfl, rfl, rfl⟩
  · rw [if_neg short, ofDescriptor, if_pos (Nat.not_le.mp short)]

/-- Only the empty text has no column. Every other one has one foremost division, and its column
is read from that: the title is the tag where none is given, the limit the default. -/
theorem parse?_of_foremost (text : Text) :
    (parse? text = .ok none ↔ text = []) ∧
    (text ≠ [] → ∃! d : Descriptor, d.Foremost text) ∧
    ∀ d : Descriptor, d.Foremost text →
      parse? text =
        if d.digits.length ≤ maxDigits then
          .ok (some ⟨d.tag, d.title.getD d.tag, if d.digits = [] then defaultLimit else number d.digits⟩)
        else .error (.lengthTooLong d.digits.length) := by
  refine ⟨⟨fun read => ?_, fun none => by rw [none]; rfl⟩, fun nonempty => ?_, fun d foremost => ?_⟩
  · by_contra nonempty
    have some := isSome_of_parse? nonempty read
    contradiction
  · exact ⟨cut text, foremost_cut nonempty, fun _ other => other.unique (foremost_cut nonempty)⟩
  · have nonempty := foremost.divides.ne_nil
    obtain rfl : d = cut text := foremost.unique (foremost_cut nonempty)
    rw [parse?_of_ne_nil nonempty, ofDescriptor_eq]
    split <;> rfl

/-- Digits of two scripts go to the length, though one of them could be the tag of a title. -/
theorem parse?_of_foremost_digits :
    let text : Text := ['%', '\u0661', '2', '(', 'x', ')']
    let d : Descriptor := ⟨['\u0661', '2'], ['(', 'x', ')'], none⟩
    text ≠ [] ∧ d.Foremost text ∧ parse? text = .ok (some ⟨['(', 'x', ')'], ['(', 'x', ')'], 12⟩) := by
  intro text d
  have nonempty : text ≠ [] := List.cons_ne_nil _ _
  have foremost : d.Foremost text := foremost_cut nonempty
  exact ⟨nonempty, foremost, (parse?_of_foremost text).2.2 d foremost⟩

end Column

end OutlineTable
