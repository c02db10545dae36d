import OutlineTable.Command.Run
import OutlineTable.Proofs.Column.Normalize
import OutlineTable.Proofs.Column.Preference

/-! Specs that are refused. A descriptor without a column is one whose length has more digits than a
number may have, and the first such descriptor refuses its spec; every other spec has a column for each
part that is not empty and reports the empty ones. -/
namespace OutlineTable

open Column Descriptor Text Unicode

/-- A percent sign and a run of digits of which too many are taken for a length: all of them, or all
but the last where nothing stands behind the run. -/
inductive Overlong : Text → Nat → Prop
  | followed (digits : ∀ c ∈ run, isDigit c = true) (some : rest ≠ []) (stop : beginsDigit rest = false)
      (long : maxDigits < run.length) : Overlong ('%' :: run ++ rest) run.length
  | final (digits : ∀ c ∈ run, isDigit c = true) (long : maxDigits + 1 < run.length) :
      Overlong ('%' :: run) (run.length - 1)

/-- An overlong descriptor has a percent sign, too many digits and a character for the tag. -/
theorem Overlong.length_lt (overlong : Overlong part count) : maxDigits + 2 < part.length := by
  cases overlong with
  | @followed run rest digits some stop long =>
    have left := List.length_pos_iff.mpr some
    simp only [List.length_append, List.length_cons]
    omega
  | final digits long =>
    rw [List.length_cons]
    omega

theorem digits_cut_of_lengthCut {digits rest : Text} (given : digits ≠ []) (cut : LengthCut digits rest) :
    (Descriptor.cut ('%' :: digits ++ rest)).digits = digits := by
  have read := splitLength_append cut
  rw [writtenLength_of_ne_nil given] at read
  exact congrArg Prod.fst read

/-- The digits that are counted are the ones that the descriptor is cut with. -/
theorem Overlong.digits_cut (overlong : Overlong part count) :
    (cut part).digits.length = count ∧ maxDigits < count := by
  cases overlong with
  | @followed run rest digits some stop long =>
    have given : run ≠ [] := List.ne_nil_of_length_pos (by omega)
    have length : LengthCut run rest :=
      ⟨digits, some, fun none => absurd none given, fun _ begins => by simp [stop] at begins⟩
    exact ⟨congrArg List.length (digits_cut_of_lengthCut given length), long⟩
  | @final run digits long =>
    have nonempty : run ≠ [] := List.ne_nil_of_length_pos (by omega)
    have parts : run.dropLast ++ [run.getLast nonempty] = run := List.dropLast_append_getLast nonempty
    have count : run.dropLast.length = run.length - 1 := List.length_dropLast
    have given : run.dropLast ≠ [] := List.ne_nil_of_length_pos (by omega)
    have length : LengthCut run.dropLast [run.getLast nonempty] :=
      ⟨fun c member => digits c (List.dropLast_subset run member), List.cons_ne_nil _ _,
        fun none => absurd none given, fun _ _ => rfl⟩
    have taken := digits_cut_of_lengthCut given length
    rw [List.cons_append, parts] at taken
    exact ⟨by rw [taken, count], by omega⟩

theorem overlong_cut (long : maxDigits < (cut part).digits.length) : Overlong part (cut part).digits.length := by
  have given : (cut part).digits ≠ [] := List.ne_nil_of_length_pos (by omega)
  have nonempty : part ≠ [] := by
    rintro rfl
    exact given rfl
  have length : LengthCut (cut part).digits (splitLength part).2 := splitLength_cut nonempty
  have whole : writtenLength (cut part).digits ++ (splitLength part).2 = part := splitLength_written part
  rw [writtenLength_of_ne_nil given] at whole
  by_cases more : beginsDigit (splitLength part).2 = true
  · -- The run goes on to the end, and its last digit was left over.
    obtain ⟨last, rest⟩ := List.length_eq_one_iff.mp (length.full given more)
    rw [rest] at more
    rw [rest, List.cons_append] at whole
    have run : ∀ c ∈ (cut part).digits ++ [last], isDigit c = true := by
      intro c member
      rcases List.mem_append.mp member with taken | left
      · exact length.digit c taken
      · rw [List.mem_singleton.mp left]
        simpa [beginsDigit] using more
    have overlong := Overlong.final run (by simpa using long)
    rwa [whole, List.length_append, List.length_singleton, Nat.add_sub_cancel] at overlong
  · have overlong := Overlong.followed length.digit length.nonempty (eq_false_of_ne_true more) long
    rwa [whole] at overlong

theorem parse?_eq_error_iff {problem : SpecError} :
    parse? part = .error problem ↔ ∃ count, Overlong part count ∧ problem = .lengthTooLong count := by
  by_cases none : part = []
  · subst none
    exact iff_of_false nofun fun ⟨_, overlong, _⟩ => nomatch overlong
  · rw [parse?_of_ne_nil none, ofDescriptor_eq]
    constructor
    · intro refused
      split at refused
      next => contradiction
      next long => exact ⟨_, overlong_cut (Nat.not_le.mp long), (Except.error.inj refused).symm⟩
    · rintro ⟨count, overlong, rfl⟩
      obtain ⟨rfl, long⟩ := overlong.digits_cut
      rw [if_neg (Nat.not_le.mpr long)]
      rfl

theorem exists_parse?_iff : (∃ column, parse? part = .ok column) ↔ ∀ count, ¬Overlong part count := by
  cases read : parse? part with
  | ok column =>
    refine iff_of_true ⟨column, rfl⟩ fun count overlong => ?_
    have refused := parse?_eq_error_iff.mpr ⟨count, overlong, rfl⟩
    rw [read] at refused
    contradiction
  | error problem =>
    obtain ⟨count, overlong, -⟩ := parse?_eq_error_iff.mp read
    exact iff_of_false nofun fun all => all count overlong

namespace Spec

theorem parse_eq_error_iff {problem : SpecError} : parse text = .error problem ↔
    ∃ before part after count, text.split bar = before ++ part :: after ∧
      (∀ other ∈ before, ∀ count, ¬Overlong other count) ∧ Overlong part count ∧
        problem = .lengthTooLong count := by
  have refused : parse text = .error problem ↔ (text.split bar).mapM parse? = .error problem :=
    bind_pure_eq_error_iff
  rw [refused, mapM_eq_error_iff]
  simp only [exists_parse?_iff, parse?_eq_error_iff, exists_and_left]

theorem parse_ok_of_not_overlong (none : ∀ part ∈ text.split bar, ∀ count, ¬Overlong part count) :
    ∃ spec, parse text = .ok spec := by
  cases parsed : parse text with
  | ok spec => exact ⟨spec, rfl⟩
  | error problem =>
    obtain ⟨before, part, after, count, parts, -, overlong, -⟩ := parse_eq_error_iff.mp parsed
    exact absurd overlong (none part (by simp [parts]) count)

theorem message_lengthTooLong (count : Nat) : (SpecError.lengthTooLong count).message =
    "Exceeds the limit (4300 digits) for integer string conversion: value has ".toList ++ ofNat count ++
      " digits; use sys.set_int_max_str_digits() to increase the limit".toList := by
  have limit : "Exceeds the limit (".toList ++ ofNat maxDigits ++
      " digits) for integer string conversion: value has ".toList =
        "Exceeds the limit (4300 digits) for integer string conversion: value has ".toList := by decide +kernel
  exact congrArg (· ++ ofNat count ++ _) limit

/-- A spec is refused exactly if a length in it has too many digits, and the number of digits taken for
the first such length is told. Otherwise it has one column for each part that is not empty, the column
of that part alone, and one event for each part that is. -/
theorem parse_overlong (text : Text) :
    ((∃ problem, parse text = .error problem) ↔ ∃ part ∈ text.split bar, ∃ count, Overlong part count) ∧
    (∀ before part after count, text.split bar = before ++ part :: after →
      (∀ other ∈ before, ∀ count, ¬Overlong other count) → Overlong part count →
        parse text = .error (.lengthTooLong count) ∧
          (SpecError.lengthTooLong count).message =
            "Exceeds the limit (4300 digits) for integer string conversion: value has ".toList ++ ofNat count ++
              " digits; use sys.set_int_max_str_digits() to increase the limit".toList) ∧
    ((∀ part ∈ text.split bar, ∀ count, ¬Overlong part count) → ∃ spec, parse text = .ok spec ∧
      List.Forall₂ (fun part column => parse? part = .ok (some column))
        ((text.split bar).filter (· ≠ [])) spec.columns ∧
      Command.skippedEvents text spec =
        List.replicate ((text.split bar).count []) (.descriptorSkipped text)) := by
  refine ⟨⟨fun ⟨problem, refused⟩ => ?_, fun ⟨part, member, count, overlong⟩ => ?_⟩, ?_, fun none => ?_⟩
  · obtain ⟨before, part, after, count, parts, -, overlong, -⟩ := parse_eq_error_iff.mp refused
    exact ⟨part, by simp [parts], count, overlong⟩
  · cases parsed : parse text with
    | error problem => exact ⟨problem, rfl⟩
    | ok spec =>
      obtain ⟨read, all, -⟩ := parse_eq_ok_iff.mp parsed
      obtain ⟨column, -, first⟩ := exists_of_mem_right all.flip member
      exact absurd overlong (exists_parse?_iff.mp ⟨column, first⟩ count)
  · intro before part after count parts first overlong
    exact ⟨parse_eq_error_iff.mpr ⟨before, part, after, count, parts, first, overlong, rfl⟩, message_lengthTooLong count⟩
  · obtain ⟨spec, parsed⟩ := parse_ok_of_not_overlong none
    obtain ⟨read, all, rfl⟩ := parse_eq_ok_iff.mp parsed
    obtain ⟨columns, skipped⟩ := columns_of_read all
    exact ⟨_, parsed, columns, congrArg (List.replicate · _) skipped⟩

/-- Zeros count as digits. Of two lengths that are too long the first is told; a run of one digit more
than a length may have still leaves the last to the tag. -/
theorem parse_overlong_zeros :
    let zeros : Text := List.replicate 4301 '0'
    let text : Text := Text.join bar [['a'], '%' :: zeros ++ ['x'], '%' :: '0' :: '0' :: zeros]
    let other : Text := Text.join bar [[], '%' :: zeros]
    parse text = .error (.lengthTooLong 4301) ∧
      ∃ spec, parse other = .ok spec ∧
        List.Forall₂ (fun part column => parse? part = .ok (some column)) ['%' :: zeros] spec.columns ∧
        Command.skippedEvents other spec = [.descriptorSkipped other] := by
  intro zeros text other
  have count : zeros.length = 4301 := List.length_replicate
  have bare : bar ∉ zeros := fun member => absurd (List.eq_of_mem_replicate member) (by decide)
  have digits : ∀ c ∈ zeros, isDigit c = true := fun c member => by
    rw [List.eq_of_mem_replicate member]
    rfl
  constructor
  · have parts : text.split bar = [['a']] ++ ('%' :: zeros ++ ['x']) :: ['%' :: '0' :: '0' :: zeros] := by
      apply split_join (List.cons_ne_nil _ _)
      simpa [bar] using bare
    have overlong : Overlong ('%' :: zeros ++ ['x']) zeros.length :=
      .followed digits (by simp) rfl (by rw [count]; decide)
    have first : ∀ other ∈ [['a']], ∀ count, ¬Overlong other count := by
      intro other member count found
      rw [List.mem_singleton.mp member] at found
      exact absurd found.length_lt (by decide)
    exact count ▸ ((parse_overlong text).2.1 _ _ _ _ parts first overlong).1
  · have parts : other.split bar = [[], '%' :: zeros] := by
      apply split_join (List.cons_ne_nil _ _)
      simpa [bar] using bare
    have none : ∀ part ∈ other.split bar, ∀ count, ¬Overlong part count := by
      intro part member taken found
      have long := found.length_lt
      rw [parts] at member
      rcases List.mem_pair.mp member with rfl | rfl
      · simp at long
      · rw [List.length_cons, count, maxDigits] at long
        omega
    obtain ⟨spec, parsed, columns, skipped⟩ := (parse_overlong other).2.2 none
    rw [parts] at columns skipped
    exact ⟨spec, parsed, columns, skipped⟩

end Spec

end OutlineTable
