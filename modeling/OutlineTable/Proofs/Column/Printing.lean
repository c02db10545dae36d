import OutlineTable.Column
import OutlineTable.Proofs.Column.Reading
import OutlineTable.Proofs.Text.Decimal

/-! The columns that their own descriptor describes. Printing leaves a default length and
a title equal to the tag out, and reading cuts what is left anew; the conditions here say
when it finds the same length, tag and title again. -/
namespace OutlineTable.Column

open Descriptor Text

/-- The descriptor that a column is printed as. -/
def descriptor (column : Column) : Descriptor where
  digits := if column.limit = defaultLimit then [] else ofInt column.limit
  tag := column.tag
  title := if column.title = column.tag then none else some column.title

/-- Whether leaving out the length of a column lets its tag be read as one. -/
def Unmasks (column : Column) : Prop :=
  column.limit = defaultLimit ∧ beginsLength column.tag = true ∧
    ¬(column.tag.length = 2 ∧ column.title = column.tag)

instance (column : Column) : Decidable column.Unmasks :=
  inferInstanceAs (Decidable (_ ∧ _ ∧ _))

/-- A column that is read back from its own descriptor. -/
structure Readable (column : Column) : Prop where
  limit : 0 ≤ column.limit
  tag : column.tag ≠ []
  titled : column.title ≠ column.tag → column.title ≠ [] ∧ '(' ∉ column.tag.tail
  untitled : column.title = column.tag → ¬Titled column.tag
  length : column.limit ≠ defaultLimit → beginsDigit column.tag = true →
    column.tag.length = 1 ∧ column.title = column.tag
  noLength : ¬column.Unmasks

theorem ofInt_ne_nil (number : Int) : ofInt number ≠ [] := by
  unfold ofInt
  split
  · simp
  · exact ofNat_ne_nil _

theorem ofInt_natCast (number : Nat) : ofInt number = ofNat number := by
  have positive : ¬(number : Int) < 0 := by omega
  rw [ofInt, if_neg positive, Int.natAbs_natCast]

theorem written_descriptor (column : Column) : column.descriptor.written = column.print := by
  by_cases default : column.limit = defaultLimit <;> by_cases plain : column.title = column.tag <;>
    simp [print, descriptor, written, writtenLength, writtenTitle, default, plain, ofInt_ne_nil]

theorem ofDescriptor_eq_ok_iff {d : Descriptor} {column : Column} :
    ofDescriptor d = .ok column ↔
      d.digits.length ≤ maxDigits ∧ column.tag = d.tag ∧ column.title = d.title.getD d.tag ∧
        column.limit = if d.digits = [] then defaultLimit else (number d.digits : Int) := by
  unfold ofDescriptor
  split
  next long => simp; omega
  next short =>
    have fits : d.digits.length ≤ maxDigits := by omega
    obtain ⟨tag, title, limit⟩ := column
    simp only [Except.ok.injEq, Column.mk.injEq, fits, true_and, List.isEmpty_iff]
    constructor
    · rintro ⟨rfl, rfl, rfl⟩
      simp
    · rintro ⟨rfl, rfl, rfl⟩
      simp

/-- A title other than the tag was written. -/
theorem title_of_ofDescriptor {d : Descriptor} {column : Column} (made : ofDescriptor d = .ok column)
    (different : column.title ≠ column.tag) : d.title = some column.title := by
  obtain ⟨-, tag, title, -⟩ := ofDescriptor_eq_ok_iff.mp made
  cases given : d.title with
  | none => exact absurd (by rw [title, given, tag, Option.getD_none]) different
  | some inner => rw [title, given, Option.getD_some]

theorem parse?_of_ne_nil (nonempty : text ≠ []) : parse? text = (ofDescriptor (cut text)).map some := by
  simp only [parse?, ofText?, List.isEmpty_iff, nonempty, if_false]

theorem parse?_eq_ok_some_iff {column : Column} (nonempty : text ≠ []) :
    parse? text = .ok (some column) ↔ ofDescriptor (cut text) = .ok column := by
  rw [parse?_of_ne_nil nonempty]
  cases ofDescriptor (cut text) <;> simp [Except.map]

theorem isSome_of_parse? {column : Option Column} (nonempty : text ≠ [])
    (read : parse? text = .ok column) : column.isSome = true := by
  rw [parse?_of_ne_nil nonempty] at read
  cases made : ofDescriptor (cut text) with
  | error problem => simp [made, Except.map] at read
  | ok column' =>
    simp only [made, Except.map, Except.ok.injEq] at read
    simp [← read]

theorem tag_ne_nil_of_parse? {column : Column} (nonempty : text ≠ [])
    (read : parse? text = .ok (some column)) : column.tag ≠ [] := by
  obtain ⟨-, tag, -⟩ := ofDescriptor_eq_ok_iff.mp ((parse?_eq_ok_some_iff nonempty).mp read)
  exact tag ▸ (preferred_cut nonempty).title.nonempty

theorem beginsDigit_append {text : Text} (nonempty : text ≠ []) (rest : Text) :
    beginsDigit (text ++ rest) = beginsDigit text := by
  obtain ⟨c, text, rfl⟩ := List.exists_cons_of_ne_nil nonempty
  rfl

/-- A title makes no length of the tag before it. -/
theorem beginsLength_append_title {tag : Text} (nonempty : tag ≠ []) (title : Option Text) :
    beginsLength (tag ++ writtenTitle title) = beginsLength tag := by
  obtain ⟨c, tag, rfl⟩ := List.exists_cons_of_ne_nil nonempty
  by_cases percent : c = '%'
  · subst percent
    cases tag with
    | nil => cases title <;> rfl
    | cons d tag => rfl
  · have other (text : Text) : beginsLength (c :: text) = false := by
      unfold beginsLength
      split
      next same => exact absurd (List.cons.inj same).1 percent
      next => rfl
    rw [List.cons_append, other, other]

/-- A text of one or two characters has no room for a title. -/
theorem title_eq_none_of_short {tag : Text} {title : Option Text} (nonempty : tag ≠ [])
    (short : (tag ++ writtenTitle title).length ≤ 2) : title = none := by
  have some := List.length_pos_iff.mpr nonempty
  cases title with
  | none => rfl
  | some title =>
    simp only [writtenTitle, List.length_append, List.length_cons] at short
    omega

/-- Where no length was cut off, a tag that begins as one is too short for it. -/
theorem short_of_beginsLength {digits tag : Text} {title : Option Text}
    (cut : LengthCut digits (tag ++ writtenTitle title)) (absent : digits = []) (nonempty : tag ≠ [])
    (begins : beginsLength tag = true) : tag.length = 2 ∧ title = none := by
  rw [← beginsLength_append_title nonempty title] at begins
  have two := cut.absent absent begins
  obtain rfl := title_eq_none_of_short nonempty (Nat.le_of_eq two)
  exact ⟨by simpa [writtenTitle] using two, rfl⟩

/-- Behind a length a tag begins with a digit only where the digits reach the end. -/
theorem single_of_beginsDigit {digits tag : Text} {title : Option Text}
    (cut : LengthCut digits (tag ++ writtenTitle title)) (given : digits ≠ []) (nonempty : tag ≠ [])
    (begins : beginsDigit tag = true) : tag.length = 1 ∧ title = none := by
  rw [← beginsDigit_append nonempty (writtenTitle title)] at begins
  have one := cut.full given begins
  obtain rfl := title_eq_none_of_short nonempty (Nat.le_trans (Nat.le_of_eq one) (by decide))
  exact ⟨by simpa [writtenTitle] using one, rfl⟩

@[simp] theorem descriptor_tag (column : Column) : column.descriptor.tag = column.tag := rfl

theorem descriptor_digits_eq_nil_iff (column : Column) :
    column.descriptor.digits = [] ↔ column.limit = defaultLimit := by
  by_cases default : column.limit = defaultLimit <;> simp [descriptor, default, ofInt_ne_nil]

theorem descriptor_title_eq_none_iff (column : Column) :
    column.descriptor.title = none ↔ column.title = column.tag := by
  by_cases plain : column.title = column.tag <;> simp [descriptor, plain]

theorem preferred_descriptor {column : Column} (readable : column.Readable) :
    column.descriptor.Preferred where
  length := {
    digit := by
      intro c member
      by_cases default : column.limit = defaultLimit
      · simp [descriptor, default] at member
      · obtain ⟨number, same⟩ := Int.eq_ofNat_of_zero_le readable.limit
        rw [descriptor, if_neg default, same, ofInt_natCast] at member
        exact isDigit_of_mem_ofNat member
    nonempty := List.append_ne_nil_of_left_ne_nil readable.tag _
    absent := by
      intro default begins
      rw [descriptor_tag, beginsLength_append_title readable.tag] at begins
      have default := (descriptor_digits_eq_nil_iff column).mp default
      obtain ⟨two, plain⟩ : column.tag.length = 2 ∧ column.title = column.tag := by
        by_contra long
        exact readable.noLength ⟨default, begins, long⟩
      rw [(descriptor_title_eq_none_iff column).mpr plain]
      simpa [writtenTitle] using two
    full := by
      intro given begins
      rw [descriptor_tag, beginsDigit_append readable.tag] at begins
      have given := mt (descriptor_digits_eq_nil_iff column).mpr given
      obtain ⟨one, plain⟩ := readable.length given begins
      rw [(descriptor_title_eq_none_iff column).mpr plain]
      simpa [writtenTitle] using one }
  title := {
    nonempty := readable.tag
    absent := fun none => readable.untitled ((descriptor_title_eq_none_iff column).mp none)
    full := by
      intro inner given
      by_cases plain : column.title = column.tag
      · simp [descriptor, plain] at given
      · have same : column.title = inner := by simpa [descriptor, plain] using given
        exact same ▸ readable.titled plain }

theorem readable_of_preferred {column : Column} (positive : 0 ≤ column.limit)
    (preferred : column.descriptor.Preferred) : column.Readable where
  limit := positive
  tag := preferred.title.nonempty
  titled := by
    intro different
    exact preferred.title.full column.title (by simp [descriptor, different])
  untitled plain := preferred.title.absent ((descriptor_title_eq_none_iff column).mpr plain)
  length := by
    intro given begins
    have digits := mt (descriptor_digits_eq_nil_iff column).mp given
    obtain ⟨one, none⟩ := single_of_beginsDigit preferred.length digits preferred.title.nonempty begins
    exact ⟨one, (descriptor_title_eq_none_iff column).mp none⟩
  noLength := by
    rintro ⟨default, begins, long⟩
    have digits := (descriptor_digits_eq_nil_iff column).mpr default
    obtain ⟨two, none⟩ := short_of_beginsLength preferred.length digits preferred.title.nonempty begins
    exact long ⟨two, (descriptor_title_eq_none_iff column).mp none⟩

theorem writtenLength_injective {first second : Text}
    (same : writtenLength first = writtenLength second) : first = second := by
  cases first <;> cases second <;> simp_all [writtenLength]

theorem length_writtenLength_le {first second : Text} (shorter : first.length ≤ second.length) :
    (writtenLength first).length ≤ (writtenLength second).length := by
  cases first with
  | nil => exact Nat.zero_le _
  | cons c first =>
    cases second with
    | nil => simp at shorter
    | cons d second => simpa [writtenLength] using shorter

/-- Only a length that was written can differ from the default. -/
theorem digits_ne_nil_of_limit {d : Descriptor} {column : Column} (made : ofDescriptor d = .ok column)
    (given : column.limit ≠ defaultLimit) : d.digits ≠ [] := by
  obtain ⟨-, -, -, limit⟩ := ofDescriptor_eq_ok_iff.mp made
  intro none
  rw [if_pos none] at limit
  exact given limit

theorem length_descriptor_digits_le {d : Descriptor} {column : Column} (made : ofDescriptor d = .ok column) :
    column.descriptor.digits.length ≤ d.digits.length := by
  obtain ⟨-, -, -, limit⟩ := ofDescriptor_eq_ok_iff.mp made
  by_cases default : column.limit = defaultLimit
  · simp [(descriptor_digits_eq_nil_iff column).mpr default]
  · have given := digits_ne_nil_of_limit made default
    rw [if_neg given] at limit
    rw [descriptor, if_neg default, limit, ofInt_natCast]
    exact length_ofNat_number_le given

/-- Only the descriptor that a column is printed as has the column's text and makes it. -/
theorem eq_descriptor {d : Descriptor} {column : Column} (made : ofDescriptor d = .ok column)
    (written : d.written = column.descriptor.written) : d = column.descriptor := by
  obtain ⟨-, tag, -⟩ := ofDescriptor_eq_ok_iff.mp made
  have shorter := length_descriptor_digits_le made
  have same : d.title = column.descriptor.title := by
    by_cases plain : column.title = column.tag
    · have none := (descriptor_title_eq_none_iff column).mpr plain
      cases given : d.title with
      | none => exact none.symm
      | some inner =>
        -- A title equal to the tag is not printed, and no longer length makes up for it.
        have count := congrArg List.length written
        simp only [Descriptor.written, given, none, tag, descriptor_tag, writtenTitle,
          List.length_append, List.length_cons, List.length_nil] at count
        have lengths := length_writtenLength_le shorter
        omega
    · rw [title_of_ofDescriptor made plain, descriptor, if_neg plain]
  rw [Descriptor.written, Descriptor.written, same, descriptor_tag, tag] at written
  have digits := writtenLength_injective (List.append_cancel_right (List.append_cancel_right written))
  calc
    d = ⟨d.digits, d.tag, d.title⟩ := rfl
    _ = column.descriptor := by rw [digits, same, ← tag]; rfl

theorem natCast_lt_pow_iff (number digits : Nat) :
    (number : Int) < 10 ^ digits ↔ number < 10 ^ digits := by
  exact_mod_cast Iff.rfl

theorem defaultLimit_lt : defaultLimit < 10 ^ maxDigits := by
  have thousand : defaultLimit = ((10 ^ 3 : Nat) : Int) := rfl
  rw [thousand, natCast_lt_pow_iff]
  exact Nat.pow_lt_pow_right (by omega) (by decide)

theorem ofDescriptor_descriptor {column : Column} (readable : column.Readable)
    (small : column.limit < 10 ^ maxDigits) : ofDescriptor column.descriptor = .ok column := by
  refine ofDescriptor_eq_ok_iff.mpr ⟨?_, rfl, ?_, ?_⟩
  · by_cases default : column.limit = defaultLimit
    · simp [(descriptor_digits_eq_nil_iff column).mpr default]
    · obtain ⟨number, same⟩ := Int.eq_ofNat_of_zero_le readable.limit
      rw [descriptor, if_neg default, same, ofInt_natCast]
      rw [same] at small
      exact (length_ofNat_le_iff (by decide)).mpr ((natCast_lt_pow_iff number maxDigits).mp small)
  · by_cases plain : column.title = column.tag <;> simp [descriptor, plain]
  · by_cases default : column.limit = defaultLimit
    · rw [if_pos ((descriptor_digits_eq_nil_iff column).mpr default), default]
    · obtain ⟨number, same⟩ := Int.eq_ofNat_of_zero_le readable.limit
      rw [if_neg (mt (descriptor_digits_eq_nil_iff column).mp default), descriptor, if_neg default,
        same, ofInt_natCast, number_ofNat]

theorem print_ne_nil {column : Column} (tag : column.tag ≠ []) : column.print ≠ [] := by
  rw [print, List.append_assoc]
  exact List.append_ne_nil_of_right_ne_nil _ (List.append_ne_nil_of_left_ne_nil tag _)

/-- Exactly the readable columns are read back from the text they are printed as. -/
theorem parse?_print_iff {column : Column} (small : column.limit < 10 ^ maxDigits) :
    parse? column.print = .ok (some column) ↔ column.Readable := by
  constructor
  · intro read
    have nonempty : column.print ≠ [] := by
      intro none
      simp [parse?, none, ofText?] at read
    have made := (parse?_eq_ok_some_iff nonempty).mp read
    have same : cut column.print = column.descriptor := by
      apply eq_descriptor made
      rw [written_cut, written_descriptor]
    obtain ⟨-, -, -, limit⟩ := ofDescriptor_eq_ok_iff.mp made
    have positive : 0 ≤ column.limit := by
      rw [limit]
      split
      · decide
      · exact Int.natCast_nonneg _
    exact readable_of_preferred positive (same ▸ preferred_cut nonempty)
  · intro readable
    have nonempty := print_ne_nil readable.tag
    have whole : cut column.print = column.descriptor :=
      (cut_eq_iff nonempty).mpr ⟨written_descriptor column, preferred_descriptor readable⟩
    rw [parse?_eq_ok_some_iff nonempty, whole]
    exact ofDescriptor_descriptor readable small

theorem limit_lt_of_ofDescriptor {d : Descriptor} {column : Column}
    (made : ofDescriptor d = .ok column) : 0 ≤ column.limit ∧ column.limit < 10 ^ maxDigits := by
  obtain ⟨short, -, -, limit⟩ := ofDescriptor_eq_ok_iff.mp made
  rw [limit]
  split
  · exact ⟨by decide, defaultLimit_lt⟩
  · have below : number d.digits < 10 ^ maxDigits :=
      Nat.lt_of_lt_of_le (number_lt d.digits) (Nat.pow_le_pow_right (by omega) short)
    exact ⟨Int.natCast_nonneg _, (natCast_lt_pow_iff _ _).mpr below⟩

/-- A column that was read is read back, unless the length it leaves out unmasks another. -/
theorem readable_iff_of_parse? {column : Column} (nonempty : text ≠ [])
    (read : parse? text = .ok (some column)) : column.Readable ↔ ¬column.Unmasks := by
  have made := (parse?_eq_ok_some_iff nonempty).mp read
  obtain ⟨-, tag, title, -⟩ := ofDescriptor_eq_ok_iff.mp made
  have preferred := preferred_cut nonempty
  refine ⟨Readable.noLength, fun masked => ?_⟩
  exact {
    limit := (limit_lt_of_ofDescriptor made).1
    tag := tag_ne_nil_of_parse? nonempty read
    titled := by
      intro different
      rw [tag]
      exact preferred.title.full column.title (title_of_ofDescriptor made different)
    untitled := by
      intro plain
      rw [tag]
      cases inner : (cut text).title with
      | none => exact preferred.title.absent inner
      | some inner' =>
        -- The tag stands before a title of its own, so it holds no parenthesis after its start.
        obtain ⟨-, bare⟩ := preferred.title.full inner' inner
        rintro ⟨front, back, some, -, same⟩
        obtain ⟨c, front, rfl⟩ := List.exists_cons_of_ne_nil some
        exact bare (by simp [same])
    length := by
      intro given begins
      have digits := digits_ne_nil_of_limit made given
      rw [tag] at begins ⊢
      obtain ⟨one, none⟩ := single_of_beginsDigit preferred.length digits preferred.title.nonempty begins
      rw [title, none, Option.getD_none]
      exact ⟨one, rfl⟩
    noLength := masked }

end OutlineTable.Column
