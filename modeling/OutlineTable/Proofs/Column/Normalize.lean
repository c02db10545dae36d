import OutlineTable.Proofs.Column.Printing
import OutlineTable.Proofs.Steps
import OutlineTable.Proofs.Text.Parts

/-! Printed and normalized specs. A printed spec is split where its columns were joined, so it describes
the same columns exactly when each of them is read back from its own descriptor. Whatever a spec describes
has a tag, holds no bar and is read back so; no other row of columns comes back from the spec it is printed
as. -/
namespace OutlineTable

open Column Descriptor Text

/-- A column that is read back from its own descriptor and leaves the bars to the spec. -/
structure Column.Describable (column : Column) : Prop where
  readable : column.Readable
  tag : Spec.bar ∉ column.tag
  title : Spec.bar ∉ column.title

namespace Spec

/-- Parsing reads every part of the text and drops the empty ones. -/
theorem parse_eq_ok_iff {spec : Spec} :
    parse text = .ok spec ↔ ∃ read,
      List.Forall₂ (fun part column => Column.parse? part = .ok column) (text.split bar) read ∧
        spec = ⟨read.filterMap id, read.countP Option.isNone⟩ := by
  rw [parse, bind_eq_ok_iff]
  refine exists_congr fun read => and_congr mapM_eq_ok_iff ?_
  exact ⟨fun same => (Except.ok.inj same).symm, fun same => congrArg Except.ok same.symm⟩

/-- Each part that is not empty has its column, and each empty one is counted. -/
theorem columns_of_read {parts : List Text} {read : List (Option Column)}
    (all : List.Forall₂ (fun part column => parse? part = .ok column) parts read) :
    List.Forall₂ (fun part column => parse? part = .ok (some column)) (parts.filter (· ≠ [])) (read.filterMap id) ∧
      read.countP Option.isNone = parts.count [] := by
  induction all with
  | nil => exact ⟨.nil, rfl⟩
  | @cons part column parts read first _ ih =>
    obtain ⟨columns, skipped⟩ := ih
    by_cases empty : part = []
    · subst empty
      obtain rfl : column = none := (Except.ok.inj first).symm
      exact ⟨by simpa using columns, by simp [skipped]⟩
    · obtain ⟨made, rfl⟩ := Option.isSome_iff_exists.mp (isSome_of_parse? empty first)
      have kept : (part :: parts).filter (· ≠ []) = part :: parts.filter (· ≠ []) :=
        List.filter_cons_of_pos (by simpa using empty)
      rw [kept]
      exact ⟨.cons first columns, by simp [skipped, empty]⟩

/-- Where no printed column is empty or holds a bar, the spec of some columns describes them
exactly when every one is read back. -/
theorem parse_print_iff {columns : List Column}
    (nonempty : ∀ column ∈ columns, column.print ≠ [])
    (apart : ∀ column ∈ columns, bar ∉ column.print) :
    (∃ again, parse (print columns) = .ok again ∧ again.columns = columns) ↔
      ∀ column ∈ columns, Column.parse? column.print = .ok (some column) := by
  by_cases none : columns = []
  · subst none
    exact ⟨fun _ => by simp, fun _ => ⟨⟨[], 1⟩, rfl, rfl⟩⟩
  have parts : (print columns).split bar = columns.map Column.print := by
    apply split_join (by simpa using none)
    intro part member
    obtain ⟨column, found, rfl⟩ := List.mem_map.mp member
    exact apart column found
  have each : List.Forall₂ (fun part column => Column.parse? part = .ok (some column))
      (columns.map Column.print) columns ↔
        ∀ column ∈ columns, Column.parse? column.print = .ok (some column) := by
    rw [List.forall₂_map_left_iff, List.forall₂_same]
  rw [← each]
  constructor
  · rintro ⟨again, parsed, same⟩
    obtain ⟨read, all, rfl⟩ := parse_eq_ok_iff.mp parsed
    rw [parts] at all
    have full : (columns.map Column.print).filter (· ≠ []) = columns.map Column.print := by
      apply List.filter_eq_self.mpr
      intro part member
      obtain ⟨column, found, rfl⟩ := List.mem_map.mp member
      exact decide_eq_true (nonempty column found)
    have taken := (columns_of_read all).1
    rw [full] at taken
    exact same ▸ taken
  · intro all
    have read : List.Forall₂ (fun part column => Column.parse? part = .ok column)
        ((print columns).split bar) (columns.map some) := by
      rw [parts, List.forall₂_map_right_iff]
      exact all
    exact ⟨_, parse_eq_ok_iff.mpr ⟨_, read, rfl⟩, by simp⟩

/-- A column of a spec was read from a part of its text. -/
theorem mem_columns {spec : Spec} (parsed : parse text = .ok spec) (member : column ∈ spec.columns) :
    ∃ part ∈ text.split bar, part ≠ [] ∧ Column.parse? part = .ok (some column) := by
  obtain ⟨read, all, rfl⟩ := parse_eq_ok_iff.mp parsed
  obtain ⟨part, kept, first⟩ := exists_of_mem_right (columns_of_read all).1 member
  obtain ⟨inside, nonempty⟩ := List.mem_filter.mp kept
  exact ⟨part, inside, of_decide_eq_true nonempty, first⟩

theorem bar_not_mem_ofInt {number : Int} (positive : 0 ≤ number) : bar ∉ ofInt number := by
  obtain ⟨number, rfl⟩ := Int.eq_ofNat_of_zero_le positive
  rw [ofInt_natCast]
  intro member
  exact absurd (isDigit_of_mem_ofNat member) (by decide)

/-- What is read from a text without a bar holds none. -/
theorem bar_not_mem_of_parse? (nonempty : part ≠ []) (read : Column.parse? part = .ok (some column))
    (apart : bar ∉ part) : bar ∉ column.tag ∧ bar ∉ column.title := by
  have made := (parse?_eq_ok_some_iff nonempty).mp read
  obtain ⟨-, tag, title, -⟩ := ofDescriptor_eq_ok_iff.mp made
  have whole : (cut part).written = part := written_cut part
  have inTag : bar ∉ column.tag := by
    intro member
    apply apart
    rw [← whole, written, ← tag]
    simp [member]
  refine ⟨inTag, fun member => ?_⟩
  cases given : (cut part).title with
  | none =>
    rw [title, given, Option.getD_none, ← tag] at member
    exact inTag member
  | some inner =>
    rw [title, given, Option.getD_some] at member
    apply apart
    rw [← whole, written, given]
    simp [writtenTitle, member]

theorem bar_not_mem_print_of_not_mem {column : Column} (positive : 0 ≤ column.limit) (inTag : bar ∉ column.tag)
    (inTitle : bar ∉ column.title) : bar ∉ column.print := by
  have inLimit := bar_not_mem_ofInt positive
  rw [Column.print]
  simp only [List.mem_append, not_or]
  refine ⟨⟨?_, inTag⟩, ?_⟩
  · split
    · simp
    · simpa [bar] using inLimit
  · split
    · simp
    · simpa [bar] using inTitle

/-- A column read from a text without a bar is printed without one. -/
theorem bar_not_mem_print (nonempty : part ≠ []) (read : Column.parse? part = .ok (some column))
    (apart : bar ∉ part) : bar ∉ column.print := by
  have positive := (limit_lt_of_ofDescriptor ((parse?_eq_ok_some_iff nonempty).mp read)).1
  obtain ⟨inTag, inTitle⟩ := bar_not_mem_of_parse? nonempty read apart
  exact bar_not_mem_print_of_not_mem positive inTag inTitle

/-- The normalized spec describes the columns of the spec it was made from exactly when no
column of it has the default limit and a tag that begins as a length, other than a tag of
two characters that is its own title. -/
theorem normalize_keeps_columns_iff (text : Text) (spec : Spec) (parsed : parse text = .ok spec) :
    (∃ again, (normalize text >>= parse) = .ok again ∧ again.columns = spec.columns) ↔
      ∀ column ∈ spec.columns, ¬column.Unmasks := by
  have printed : (normalize text >>= parse) = parse (print spec.columns) := by
    simp [normalize, parsed, bind, Except.bind, pure, Except.pure]
  have origin {column : Column} (member : column ∈ spec.columns) :
      ∃ part ∈ text.split bar, part ≠ [] ∧ Column.parse? part = .ok (some column) :=
    mem_columns parsed member
  have small {column : Column} (member : column ∈ spec.columns) : column.limit < 10 ^ maxDigits := by
    obtain ⟨part, -, nonempty, read⟩ := origin member
    exact (limit_lt_of_ofDescriptor ((parse?_eq_ok_some_iff nonempty).mp read)).2
  have tagged {column : Column} (member : column ∈ spec.columns) : column.print ≠ [] := by
    obtain ⟨part, -, nonempty, read⟩ := origin member
    apply print_ne_nil
    obtain ⟨-, tag, -⟩ := ofDescriptor_eq_ok_iff.mp ((parse?_eq_ok_some_iff nonempty).mp read)
    exact tag ▸ (preferred_cut nonempty).title.nonempty
  have apart {column : Column} (member : column ∈ spec.columns) : bar ∉ column.print := by
    obtain ⟨part, inside, nonempty, read⟩ := origin member
    exact bar_not_mem_print nonempty read (not_mem_of_mem_split inside)
  rw [printed, parse_print_iff (fun _ => tagged) (fun _ => apart)]
  refine forall₂_congr fun column member => ?_
  obtain ⟨part, -, nonempty, read⟩ := origin member
  rw [parse?_print_iff (small member), readable_iff_of_parse? nonempty read]

/-- Dropped defaults, a tag that is its own title and a tag too short to be a length. -/
theorem normalize_keeps_columns_example :
    let text : Text := "%007a(b)||%1000%5|x(x)".toList
    let columns : List Column := [⟨['a'], ['b'], 7⟩, ⟨['%', '5'], ['%', '5'], 1000⟩, ⟨['x'], ['x'], 1000⟩]
    parse text = .ok ⟨columns, 1⟩ ∧
      ∃ again, (normalize text >>= parse) = .ok again ∧ again.columns = columns := by
  intro text columns
  have parsed : parse text = .ok ⟨columns, 1⟩ := by decide
  exact ⟨parsed, (normalize_keeps_columns_iff text ⟨columns, 1⟩ parsed).mpr (by decide)⟩

/-- Leaving out a default length lets the tag behind it be read as a length and a tag. -/
theorem normalize_changes_columns :
    let text : Text := "%1000%5x".toList
    parse text = .ok ⟨[⟨['%', '5', 'x'], ['%', '5', 'x'], 1000⟩], 0⟩ ∧
      normalize text = .ok "%5x".toList ∧
      (normalize text >>= parse) = .ok ⟨[⟨['x'], ['x'], 5⟩], 0⟩ := by
  decide

/-- What a spec describes has a tag and holds no bar. -/
theorem print_of_mem_columns {spec : Spec} (parsed : parse text = .ok spec)
    (member : column ∈ spec.columns) :
    (column.print ≠ [] ∧ bar ∉ column.print) ∧ bar ∉ column.tag ∧ bar ∉ column.title := by
  obtain ⟨part, inside, nonempty, read⟩ := mem_columns parsed member
  have apart := not_mem_of_mem_split inside
  have some := print_ne_nil (tag_ne_nil_of_parse? nonempty read)
  exact ⟨⟨some, bar_not_mem_print nonempty read apart⟩, bar_not_mem_of_parse? nonempty read apart⟩

theorem limit_lt_of_natAbs_lt {column : Column} (small : column.limit.natAbs < 10 ^ maxDigits) :
    column.limit < 10 ^ maxDigits := by
  have below := (natCast_lt_pow_iff column.limit.natAbs maxDigits).mpr small
  exact Int.lt_of_le_of_lt Int.le_natAbs below

/-- A row of columns is read back from the spec it is printed as exactly if a spec can describe
each of them. -/
theorem parse_print_columns_iff (columns : List Column)
    (small : ∀ column ∈ columns, column.limit.natAbs < 10 ^ maxDigits) :
    (∃ again, parse (print columns) = .ok again ∧ again.columns = columns) ↔
      ∀ column ∈ columns, column.Describable := by
  have each {column : Column} (member : column ∈ columns) :
      Column.parse? column.print = .ok (some column) ↔ column.Readable :=
    parse?_print_iff (limit_lt_of_natAbs_lt (small column member))
  constructor
  · rintro ⟨again, parsed, same⟩ column member
    have made {other : Column} (found : other ∈ columns) :=
      print_of_mem_columns parsed (same.symm ▸ found)
    have rows := parse_print_iff (fun _ found => (made found).1.1) (fun _ found => (made found).1.2)
    have read := rows.mp ⟨again, parsed, same⟩
    obtain ⟨inTag, inTitle⟩ := (made member).2
    exact ⟨(each member).mp (read column member), inTag, inTitle⟩
  · intro describable
    apply (parse_print_iff ?_ ?_).mpr
    · exact fun column member => (each member).mpr (describable column member).readable
    · exact fun column member => print_ne_nil (describable column member).readable.tag
    · intro column member
      obtain ⟨readable, inTag, inTitle⟩ := describable column member
      exact bar_not_mem_print_of_not_mem readable.limit inTag inTitle

/-- A digit behind a length, a tag too short to be one, an opening parenthesis as a tag and a
digit of another script. -/
def borderline : List Column := [
  ⟨['5'], ['5'], 12⟩, ⟨['%', '5'], ['%', '5'], 1000⟩, ⟨['('], ['(', ')'], 0⟩, ⟨['\u0663'], ['\u0663'], 7⟩]

theorem parse_print_borderline :
    (∀ column ∈ borderline, column.limit.natAbs < 10 ^ maxDigits) ∧
      parse (print borderline) = .ok ⟨borderline, 0⟩ ∧ ∀ column ∈ borderline, column.Describable := by
  have below : ∀ column ∈ borderline, column.limit.natAbs < 10 ^ 4 := by decide
  have small : ∀ column ∈ borderline, column.limit.natAbs < 10 ^ maxDigits := fun column member =>
    Nat.lt_of_lt_of_le (below column member) (Nat.pow_le_pow_right (by omega) (by decide))
  have parsed : parse (print borderline) = .ok ⟨borderline, 0⟩ := by decide
  exact ⟨small, parsed, (parse_print_columns_iff borderline small).mp ⟨_, parsed, rfl⟩⟩

end Spec

end OutlineTable
