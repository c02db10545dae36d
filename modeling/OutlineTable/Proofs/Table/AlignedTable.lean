import Mathlib.Data.List.Forall2
import OutlineTable.Proofs.Table.Alignment
import OutlineTable.Proofs.Table.Rendering

/-! Rendered tables after alignment. Alignment sees lines of text only, so a header or a
row whose cells are all dashes is a rule to it; every other line keeps the cells that the
table gave it. -/
namespace OutlineTable.Aligned

open Text

def Line.IsRule : Line → Prop
  | .plain _ => False
  | .table cells => isRule cells = true

/-- A line that stands for a row. Cells of dashes alone are no more than some rule. -/
def Line.Shows (row : List Text) (line : Line) : Prop :=
  if isRule (row.map trim) then line.IsRule else line = .table (row.map trim)

theorem shows_table (row : List Text) : (Line.table (row.map trim)).Shows row := by
  unfold Line.Shows
  split
  next rule => exact rule
  next => rfl

/-- Settling to as many widths as there are cells shows the same row. -/
theorem shows_settled {widths : List Nat} (nonempty : widths ≠ []) (length : row.length = widths.length) :
    ((Line.table (row.map trim)).settled widths).Shows row := by
  cases kind : isRule (row.map trim) with
  | true => simp [Line.Shows, Line.settled, Line.IsRule, kind, isRule_ruleCell nonempty]
  | false => simp [Line.Shows, Line.settled, kind, fill_of_le, length]

/-- The lines of a rendered table, before any alignment. -/
def renderedLines (table : Table) : List Line :=
  .table ((table.columns.map Column.title).map trim) :: .table [['-', '-']] ::
    if table.rows = [] then [.plain []] else table.rows.map fun row => .table (row.map trim)

theorem ofText_bordered {row : List Text} (nonempty : row ≠ []) (plain : ∀ cell ∈ row, Unmarked cell) :
    Line.ofText (Table.bordered row) = .table (row.map trim) := by
  rw [Table.bordered, ofText_closed, Table.split_joined_cells nonempty plain]

theorem linesOf_render {table : Table} (some : table.columns ≠ [])
    (titles : ∀ column ∈ table.columns, Unmarked column.title)
    (filled : ∀ row ∈ table.rows, row ≠ [])
    (plain : ∀ row ∈ table.rows, ∀ cell ∈ row, Unmarked cell) :
    linesOf table.render = renderedLines table := by
  have header : Line.ofText table.header = .table ((table.columns.map Column.title).map trim) :=
    ofText_bordered (by simpa using some) (List.forall_mem_map.mpr titles)
  have rule : Line.ofText Table.rule = .table [['-', '-']] := by decide
  rw [linesOf, Table.split_render titles plain, List.map_cons, List.map_cons, header, rule, renderedLines]
  congr 2
  split
  next => rfl
  next =>
    rw [List.map_map]
    apply List.map_congr_left
    intro row member
    exact ofText_bordered (filled row member) (plain row member)

/-- The rule has fewer cells than the header, but it is not a data line. -/
theorem length_of_data {table : Table} (even : ∀ row ∈ table.rows, row.length = table.columns.length)
    (member : line ∈ renderedLines table) (data : line.data? = some cells) :
    cells.length = table.columns.length := by
  rcases List.mem_cons.mp member with rfl | member
  · simp [data?_table data]
  rcases List.mem_cons.mp member with rfl | member
  · have none : (Line.table [['-', '-']]).data? = none := by decide
    simp [none] at data
  split at member
  · rw [List.mem_singleton.mp member] at data
    simp [Line.data?] at data
  · obtain ⟨row, found, rfl⟩ := List.mem_map.mp member
    simp [data?_table data, even row found]

/-- How the lines of an aligned table read: header, rule, and a line for each row. -/
structure Shown (table : Table) (header rule : Line) (body : List Line) : Prop where
  header : header.Shows (table.columns.map Column.title)
  rule : rule.IsRule
  empty : table.rows = [] → body = [.plain []]
  rows : table.rows ≠ [] → List.Forall₂ Line.Shows table.rows body

/-- A change of lines that leaves other lines alone, keeps rules, and shows the header and
the rows that were there. -/
theorem shown_map {table : Table} {settle : Line → Line} (plain : settle (.plain []) = .plain [])
    (rule : (settle (.table [['-', '-']])).IsRule)
    (shows : ∀ row, row.length = table.columns.length → (settle (.table (row.map trim))).Shows row)
    (even : ∀ row ∈ table.rows, row.length = table.columns.length) :
    ∃ header rule body, (renderedLines table).map settle = header :: rule :: body ∧
      Shown table header rule body := by
  refine ⟨_, _, _, by rw [renderedLines, List.map_cons, List.map_cons], ?_, rule, ?_, ?_⟩
  · exact shows _ (by simp)
  · intro none
    simp [none, plain]
  · intro some
    rw [if_neg some, List.map_map, List.forall₂_map_right_iff, List.forall₂_same]
    exact fun row member => shows row (even row member)

/-- The aligned text of a table has the header on its first line, a rule on the second and
then one line for each row, in order. -/
theorem linesOf_align_render {columns : List Column} {headings : List Heading}
    (nonempty : columns ≠ []) (titles : ∀ column ∈ columns, Unmarked column.title)
    (texts : ∀ heading ∈ headings, Unmarked heading.text) (mark : Unmarked marker) :
    ∃ header rule body,
      linesOf (align (Table.ofHeadings columns marker headings).render) = header :: rule :: body ∧
      Shown (Table.ofHeadings columns marker headings) header rule body := by
  have even : ∀ row ∈ (Table.ofHeadings columns marker headings).rows, row.length = columns.length :=
    fun row member => Table.length_of_mem_rows member
  have filled : ∀ row ∈ (Table.ofHeadings columns marker headings).rows, row ≠ [] := by
    intro row member empty
    have length := even row member
    rw [empty] at length
    exact nonempty (List.length_eq_zero_iff.mp length.symm)
  have read : linesOf (Table.ofHeadings columns marker headings).render =
      renderedLines (Table.ofHeadings columns marker headings) :=
    linesOf_render nonempty titles filled fun row member => Table.unmarked_of_mem_rows texts mark member
  by_cases none : rowsOf (Table.ofHeadings columns marker headings).render = []
  · rw [align_of_no_rows none, read, ← List.map_id (renderedLines _)]
    exact shown_map rfl rfl (fun row _ => shows_table row) even
  · rw [linesOf_align none, read]
    have some := widthsOf_ne_nil none
    have count : (widthsOf (Table.ofHeadings columns marker headings).render).length = columns.length := by
      apply length_columnWidths none
      intro cells member
      obtain ⟨line, found, data⟩ := List.mem_filterMap.mp member
      exact length_of_data even (read ▸ found) data
    have rule : ((Line.table [['-', '-']]).settled
        (widthsOf (Table.ofHeadings columns marker headings).render)).IsRule := isRule_ruleCell some
    exact shown_map rfl rule (fun row length => shows_settled some (length.trans count.symm)) even

def oneColumn : List Column := [⟨['a'], ['a'], 1000⟩]

/-- A heading of dashes and one of words. -/
def dashed : List Heading :=
  [⟨['-'], TagSet.ofList [['a']]⟩, ⟨['b', ' ', 'c'], TagSet.ofList [['a']]⟩]

theorem unmarked_oneColumn : ∀ column ∈ oneColumn, Unmarked column.title := by
  intro column member
  rw [List.mem_singleton.mp member]
  exact ⟨by simp, by simp⟩

theorem unmarked_dashed : ∀ heading ∈ dashed, Unmarked heading.text := by
  intro heading member
  rcases List.mem_cons.mp member with rfl | member
  · exact ⟨by simp, by simp⟩
  · rw [List.mem_singleton.mp member]
    exact ⟨by simp, by simp⟩

theorem linesOf_align_render_dashed :
    ∃ header rule body,
      linesOf (align (Table.ofHeadings oneColumn [] dashed).render) = header :: rule :: body ∧
      Shown (Table.ofHeadings oneColumn [] dashed) header rule body :=
  linesOf_align_render (List.cons_ne_nil _ _) unmarked_oneColumn unmarked_dashed ⟨by simp, by simp⟩

/-- The row of the dashes has no line with its cells. -/
theorem align_render_loses_dashes :
    ¬∀ (columns : List Column) (headings : List Heading) (marker : Text), columns ≠ [] →
      (∀ column ∈ columns, Unmarked column.title) → (∀ heading ∈ headings, Unmarked heading.text) →
      Unmarked marker → (Table.ofHeadings columns marker headings).rows ≠ [] →
      (linesOf (align (Table.ofHeadings columns marker headings).render)).drop 2 =
        (Table.ofHeadings columns marker headings).rows.map fun row => .table (row.map trim) := by
  intro kept
  have lines := kept oneColumn dashed [] (List.cons_ne_nil _ _) unmarked_oneColumn unmarked_dashed
    ⟨by simp, by simp⟩ (by decide +kernel)
  revert lines
  decide +kernel

end OutlineTable.Aligned
