import Mathlib.Data.List.Forall2
import OutlineTable.Proofs.Table.Lines

/-! Alignment of a whole text. The lines of an aligned text are the settled lines of the text, so the
second alignment finds the widths that the first one wrote. An aligned text has a line for each line of
the text: other lines are as they were, a rule is a rule, and a data line has the cells that it had, with
empty ones behind them up to the longest row. -/
namespace OutlineTable.Aligned

open Text

def linesOf (text : Text) : List Line := (text.split '\n').map Line.ofText

def rowsOf (text : Text) : List (List Text) := (linesOf text).filterMap Line.data?

def widthsOf (text : Text) : List Nat := columnWidths (rowsOf text)

theorem align_of_no_rows (none : rowsOf text = []) : align text = text := by
  have empty : (rowsOf text).isEmpty := List.isEmpty_iff.mpr none
  exact if_pos empty

theorem align_of_rows (some : rowsOf text ≠ []) :
    align text = Text.join '\n' ((linesOf text).map (Line.print (widthsOf text))) := by
  have full : ¬(rowsOf text).isEmpty := mt List.isEmpty_iff.mp some
  exact if_neg full

theorem tidy_of_mem_linesOf (member : line ∈ linesOf text) : line.Tidy := by
  obtain ⟨part, found, rfl⟩ := List.mem_map.mp member
  exact tidy_ofText (not_mem_of_mem_split found)

theorem fits_of_mem_linesOf (member : line ∈ linesOf text) : line.Fits (widthsOf text) := by
  intro cells data
  exact length_le_columnWidths (List.mem_filterMap.mpr ⟨line, member, data⟩)

theorem widthsOf_ne_nil (some : rowsOf text ≠ []) : widthsOf text ≠ [] := by
  obtain ⟨cells, rest, rows⟩ := List.exists_cons_of_ne_nil some
  have member : cells ∈ rowsOf text := rows ▸ List.mem_cons_self
  obtain ⟨line, found, data⟩ := List.mem_filterMap.mp member
  have tidy := tidy_of_mem_linesOf found
  have nonempty : cells ≠ [] := by
    cases line with
    | plain text => simp [Line.data?] at data
    | table held => exact data?_table data ▸ tidy.nonempty
  have fits := length_le_columnWidths member
  have filled := List.length_pos_iff.mpr nonempty
  apply List.ne_nil_of_length_pos
  exact Nat.lt_of_lt_of_le filled fits

/-- Every line of an aligned text is a line of the text, printed. -/
theorem split_align (some : rowsOf text ≠ []) :
    (align text).split '\n' = (linesOf text).map (Line.print (widthsOf text)) := by
  rw [align_of_rows some]
  apply split_join
  · simp [linesOf, split_ne_nil]
  · intro part member
    obtain ⟨line, found, rfl⟩ := List.mem_map.mp member
    exact newline_not_mem_print (tidy_of_mem_linesOf found) _

/-- Aligning keeps the number, the order and the kind of the lines. -/
theorem linesOf_align (some : rowsOf text ≠ []) :
    linesOf (align text) = (linesOf text).map (Line.settled (widthsOf text)) := by
  rw [linesOf, split_align some, List.map_map]
  apply List.map_congr_left
  intro line member
  exact ofText_print (tidy_of_mem_linesOf member) (fits_of_mem_linesOf member)

theorem rowsOf_align (some : rowsOf text ≠ []) :
    rowsOf (align text) = (rowsOf text).map (fill · (widthsOf text).length) := by
  rw [rowsOf, linesOf_align some, List.filterMap_map, rowsOf, List.map_filterMap]
  apply List.filterMap_congr
  intro line _
  exact data?_settled (widthsOf_ne_nil some) line

theorem widthsOf_align (some : rowsOf text ≠ []) : widthsOf (align text) = widthsOf text := by
  rw [widthsOf, rowsOf_align some]
  exact columnWidths_fill (rowsOf text)

/-- Aligning an aligned text changes nothing. -/
theorem align_align (text : Text) : align (align text) = align text := by
  by_cases none : rowsOf text = []
  · rw [align_of_no_rows none, align_of_no_rows none]
  · have again : rowsOf (align text) ≠ [] := by
      rw [rowsOf_align none]
      simpa using none
    calc
      align (align text) =
          Text.join '\n' ((linesOf (align text)).map (Line.print (widthsOf (align text)))) :=
        align_of_rows again
      _ = Text.join '\n' ((linesOf text).map (Line.print (widthsOf text))) := by
        rw [linesOf_align none, widthsOf_align none, List.map_map]
        congr 1
        apply List.map_congr_left
        intro line _
        exact print_settled (widthsOf_ne_nil none) line
      _ = align text := (align_of_rows none).symm

/-- What becomes of a line where the longest row has `count` cells. -/
def LineKept (count : Nat) (before after : Text) : Prop :=
  match Line.ofText before with
  | .plain _ => after = before
  | .table cells =>
    if isRule cells then (∃ dashes, Line.ofText after = .table dashes ∧ isRule dashes = true)
    else (Line.ofText after).data? = some (cells ++ List.replicate (count - cells.length) [])

theorem eq_of_ofText_plain (plain : Line.ofText text = .plain body) : body = text := by
  unfold Line.ofText at plain
  split at plain
  next => contradiction
  next => exact (Line.plain.inj plain).symm

/-- A line that no data line stands beside is kept as it is. -/
theorem lineKept_self (none : (Line.ofText text).data? = none) (count : Nat) : LineKept count text text := by
  unfold LineKept
  split
  next => rfl
  next cells table =>
    rw [table, Line.data?] at none
    split
    next rule => exact ⟨cells, table, rule⟩
    next data => simp [data] at none

theorem lineKept_print (oneLine : '\n' ∉ text) (fits : (Line.ofText text).Fits widths)
    (some : widths ≠ []) : LineKept widths.length text ((Line.ofText text).print widths) := by
  have read := ofText_print (tidy_ofText oneLine) fits
  unfold LineKept
  split
  next body plain =>
    rw [plain, Line.print]
    exact eq_of_ofText_plain plain
  next cells table =>
    rw [table] at read ⊢
    split
    next rule => exact ⟨[ruleCell widths], by simpa [Line.settled, rule] using read, isRule_ruleCell some⟩
    next data =>
      have settled := data?_settled some (.table cells)
      rw [read, settled, Line.data?, if_neg data, Option.map_some, fill]

/-- Aligning keeps the content of every line, and a text without data lines altogether. -/
theorem align_keeps_lines (text : Text) :
    List.Forall₂ (LineKept (mostCells (rowsOf text))) (text.split '\n') ((align text).split '\n') ∧
      (rowsOf text = [] → align text = text) := by
  refine ⟨?_, align_of_no_rows⟩
  by_cases none : rowsOf text = []
  · rw [align_of_no_rows none, List.forall₂_same]
    intro line member
    apply lineKept_self
    exact List.filterMap_eq_nil_iff.mp none (Line.ofText line) (List.mem_map_of_mem member)
  · rw [split_align none, linesOf, List.map_map, List.forall₂_map_right_iff, List.forall₂_same]
    intro line member
    have found : Line.ofText line ∈ linesOf text := List.mem_map_of_mem member
    rw [← length_columnWidths_eq]
    exact lineKept_print (not_mem_of_mem_split member) (fits_of_mem_linesOf found) (widthsOf_ne_nil none)

end OutlineTable.Aligned
