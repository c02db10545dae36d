import OutlineTable.Proofs.Column.Normalize

/-! Specs normalized again and again. A normalized spec is never longer, and where leaving out a
default length unmasks another one it is shorter; a spec that unmasks none is normal after one
step. So there are no more steps than characters before nothing changes. -/
namespace OutlineTable

namespace Column

open Descriptor Text

/-- Only a length that was written can hide another one behind it. -/
theorem digits_ne_nil_of_unmasks {d : Descriptor} {column : Column} (preferred : d.Preferred)
    (made : ofDescriptor d = .ok column) (unmasks : column.Unmasks) : d.digits ≠ [] := by
  obtain ⟨-, tag, title, -⟩ := ofDescriptor_eq_ok_iff.mp made
  obtain ⟨-, begins, long⟩ := unmasks
  intro absent
  rw [tag] at begins long
  obtain ⟨two, none⟩ := short_of_beginsLength preferred.length absent preferred.title.nonempty begins
  exact long ⟨two, by rw [title, none, Option.getD_none]⟩

theorem length_writtenTitle_descriptor_le {d : Descriptor} {column : Column} (made : ofDescriptor d = .ok column) :
    (writtenTitle column.descriptor.title).length ≤ (writtenTitle d.title).length := by
  by_cases plain : column.title = column.tag
  · simp [(descriptor_title_eq_none_iff column).mpr plain, writtenTitle]
  · rw [title_of_ofDescriptor made plain, descriptor, if_neg plain]

theorem length_writtenLength_descriptor_le {d : Descriptor} {column : Column} (preferred : d.Preferred)
    (made : ofDescriptor d = .ok column) :
    (writtenLength column.descriptor.digits).length + (if column.Unmasks then 1 else 0) ≤
      (writtenLength d.digits).length := by
  split
  next unmasks =>
    have given := digits_ne_nil_of_unmasks preferred made unmasks
    rw [(descriptor_digits_eq_nil_iff column).mpr unmasks.1]
    simp [writtenLength, given]
  next => exact length_writtenLength_le (length_descriptor_digits_le made)

/-- A column is printed with no more characters than it was read from, and with fewer if it
unmasks a length. -/
theorem length_print_le {column : Column} (nonempty : text ≠ []) (read : parse? text = .ok (some column)) :
    column.print.length + (if column.Unmasks then 1 else 0) ≤ text.length := by
  have made := (parse?_eq_ok_some_iff nonempty).mp read
  obtain ⟨-, tag, -⟩ := ofDescriptor_eq_ok_iff.mp made
  have lengths := length_writtenLength_descriptor_le (preferred_cut nonempty) made
  have titles := length_writtenTitle_descriptor_le made
  have whole := congrArg List.length (written_cut text)
  rw [← written_descriptor]
  simp only [written, List.length_append, descriptor_tag, tag] at whole ⊢
  omega

end Column

namespace Spec

open Column Text

theorem sum_length_print_le {parts : List Text} {read : List (Option Column)}
    (all : List.Forall₂ (fun part column => Column.parse? part = .ok column) parts read) :
    ((read.filterMap id).map (·.print.length + 1)).sum + (read.filterMap id).countP (·.Unmasks) ≤
      (parts.map (·.length + 1)).sum := by
  induction all with
  | nil => exact Nat.le_refl _
  | @cons part column parts read first _ ih =>
    cases column with
    | none =>
      have skipped : (none :: read).filterMap id = read.filterMap id := rfl
      rw [skipped, List.map_cons, List.sum_cons]
      omega
    | some column =>
      have nonempty : part ≠ [] := by
        rintro rfl
        simp [Column.parse?, Descriptor.ofText?] at first
      have here := length_print_le nonempty first
      have kept : (some column :: read).filterMap id = column :: read.filterMap id := rfl
      simp only [kept, List.map_cons, List.sum_cons, List.countP_cons, decide_eq_true_eq]
      omega

theorem length_print {columns : List Column} (some : columns ≠ []) :
    (print columns).length + 1 = (columns.map (·.print.length + 1)).sum := by
  have parts : columns.map Column.print ≠ [] := mt List.map_eq_nil_iff.mp some
  rw [print, length_join bar parts, List.map_map]
  rfl

/-- A normalized spec is shorter than the spec by at least one character for each length that it
unmasks. -/
theorem length_print_columns_le {spec : Spec} (parsed : parse text = .ok spec) :
    (print spec.columns).length + spec.columns.countP (·.Unmasks) ≤ text.length := by
  obtain ⟨read, all, rfl⟩ := parse_eq_ok_iff.mp parsed
  have fewer := sum_length_print_le all
  have whole : join bar (text.split bar) = text := List.intercalate_splitOn bar
  have parts := length_join bar (split_ne_nil bar text)
  rw [whole] at parts
  dsimp only
  cases columns : read.filterMap id with
  | nil => exact Nat.zero_le _
  | cons column rest =>
    have printed := length_print (List.cons_ne_nil column rest)
    rw [columns] at fewer
    omega

theorem normalize_eq_ok_iff :
    normalize text = .ok next ↔ ∃ spec, parse text = .ok spec ∧ print spec.columns = next := by
  rw [normalize, bind_eq_ok_iff]
  exact exists_congr fun spec => and_congr_right fun _ => ⟨Except.ok.inj, congrArg Except.ok⟩

/-- The spec of columns that unmask no length is normal. -/
theorem normalize_print {spec : Spec} (parsed : parse text = .ok spec)
    (masked : ∀ column ∈ spec.columns, ¬column.Unmasks) :
    normalize (print spec.columns) = .ok (print spec.columns) := by
  have readable (column : Column) (member : column ∈ spec.columns) :
      Column.parse? column.print = .ok (some column) := by
    obtain ⟨part, -, nonempty, read⟩ := mem_columns parsed member
    have small := (limit_lt_of_ofDescriptor ((parse?_eq_ok_some_iff nonempty).mp read)).2
    exact (parse?_print_iff small).mpr ((readable_iff_of_parse? nonempty read).mpr (masked column member))
  have rows := parse_print_iff (fun _ member => (print_of_mem_columns parsed member).1.1)
    (fun _ member => (print_of_mem_columns parsed member).1.2)
  obtain ⟨again, printed, same⟩ := rows.mpr readable
  exact normalize_eq_ok_iff.mpr ⟨again, printed, by rw [same]⟩

/-- One step either shortens a spec or leaves it normal. -/
theorem shorter_or_normal (normalized : normalize text = .ok next) :
    next.length < text.length ∨ normalize next = .ok next := by
  obtain ⟨spec, parsed, rfl⟩ := normalize_eq_ok_iff.mp normalized
  have shorter := length_print_columns_le parsed
  by_cases masked : ∀ column ∈ spec.columns, ¬column.Unmasks
  · exact .inr (normalize_print parsed masked)
  · have some : 0 < spec.columns.countP (·.Unmasks) := by
      simpa [List.countP_pos_iff] using masked
    exact .inl (by omega)

/-- Normalizing so many times ends in a spec that is normal. -/
def Settles (times : Nat) (text : Text) : Prop :=
  ∃ results last, normalizeTimes times text = .ok results ∧ (text :: results).getLast? = some last ∧
    normalize last = .ok last

theorem normalizeTimes_succ (normalized : normalize text = .ok next) (times : Nat) :
    normalizeTimes (times + 1) text = (normalizeTimes times next).map (next :: ·) := by
  simp only [normalizeTimes, normalized, bind, Except.bind, pure, Except.pure]
  cases normalizeTimes times next <;> rfl

theorem Settles.cons (normalized : normalize text = .ok next) (settles : Settles times next) :
    Settles (times + 1) text := by
  obtain ⟨results, last, ran, ends, normal⟩ := settles
  refine ⟨next :: results, last, ?_, ?_, normal⟩
  · rw [normalizeTimes_succ normalized, ran]
    rfl
  · rwa [List.getLast?_cons_cons]

/-- A normal spec stays what it is, however often it is normalized. -/
theorem settles_of_normal (normal : normalize text = .ok text) (times : Nat) : Settles times text := by
  induction times with
  | zero => exact ⟨[], text, rfl, rfl, normal⟩
  | succ times ih => exact ih.cons normal

/-- A spec settles in as many steps as it has characters, or in more. Each step before it is normal
takes a character away. -/
theorem refused_or_settles (short : text.length ≤ times) :
    (∃ digits, normalizeTimes (times + 1) text = .error (.lengthTooLong digits)) ∨ Settles times text := by
  induction times generalizing text with
  | zero =>
    have none : text = [] := List.length_eq_zero_iff.mp (Nat.le_zero.mp short)
    subst none
    exact .inr (settles_of_normal rfl 0)
  | succ times ih =>
    cases normalized : normalize text with
    | error problem =>
      cases problem with
      | lengthTooLong digits =>
        exact .inl ⟨digits, by simp [normalizeTimes, normalized, bind, Except.bind]⟩
    | ok next =>
      rcases shorter_or_normal normalized with shorter | normal
      · rcases ih (Nat.le_of_lt_succ (Nat.lt_of_lt_of_le shorter short)) with ⟨digits, refused⟩ | settles
        · exact .inl ⟨digits, by rw [normalizeTimes_succ normalized, refused]; rfl⟩
        · exact .inr (settles.cons normalized)
      · exact .inr ((settles_of_normal normal times).cons normalized)

/-- Normalizing never makes a spec longer. Done as many times as the spec has characters it ends in
a normal spec, unless a length on the way, or one that the last step unmasks, is too long. -/
theorem normalize_settles (text : Text) :
    (∀ next, normalize text = .ok next → next.length ≤ text.length) ∧
    ((∃ digits, normalizeTimes (text.length + 1) text = .error (.lengthTooLong digits)) ∨
      Settles text.length text) := by
  refine ⟨fun next normalized => ?_, refused_or_settles (Nat.le_refl _)⟩
  obtain ⟨spec, parsed, rfl⟩ := normalize_eq_ok_iff.mp normalized
  have shorter := length_print_columns_le parsed
  omega

/-- Two steps: the default length is left out, then the digit behind it is written anew. -/
theorem normalize_settles_unmasked :
    let text : Text := ['%', '1', '0', '0', '0', '%', '\u0663', 'x']
    let next : Text := ['%', '\u0663', 'x']
    normalize text = .ok next ∧ next.length ≤ text.length ∧
      normalizeTimes 3 text = .ok [next, ['%', '3', 'x'], ['%', '3', 'x']] := by
  intro text next
  have normalized : normalize text = .ok next := by decide
  exact ⟨normalized, (normalize_settles text).1 next normalized, by decide⟩

end Spec

end OutlineTable
