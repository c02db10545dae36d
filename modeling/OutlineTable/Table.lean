import OutlineTable.Column
import OutlineTable.Display.Width
import OutlineTable.Heading

/-! Tables. A table has a row for each heading that shows something: the heading, cut to the limit,
under every column whose tag it carries. A text with pipe tables in it is aligned: lines that begin with a
bar are rules or data, and all data lines share one row of column widths, to which every table line is
written anew. -/
namespace OutlineTable

/-- A heading as it is given to a table: its tags can come in any order and more than once. -/
structure Item where
  text : Text
  tags : List Text
  deriving DecidableEq, Repr

def Item.heading (item : Item) : Heading where
  text := item.text
  tags := TagSet.ofList item.tags

structure Table where
  columns : List Column
  rows : List (List Text)
  deriving DecidableEq, Repr

namespace Table

def cell (marker : Text) (heading : Heading) (column : Column) : Text :=
  if heading.tags.contains column.tag then Display.cut heading.text column.limit marker else []

def cells (columns : List Column) (marker : Text) (heading : Heading) : List Text :=
  columns.map (cell marker heading)

/-- Whether a heading carries the tag of a column. -/
def claimed (columns : List Column) (heading : Heading) : Bool :=
  columns.any fun column => heading.tags.contains column.tag

/-- Headings that no column claims are passed over. Of the others, those whose cells are all
empty get no row. -/
def ofHeadings (columns : List Column) (marker : Text) (headings : List Heading) : Table where
  columns := columns
  rows := ((headings.filter (claimed columns)).map (cells columns marker)).filter (·.any (!·.isEmpty))

def ofItems (columns : List Column) (marker : Text) (items : List Item) : Table :=
  ofHeadings columns marker (items.map Item.heading)

def bordered (cells : List Text) : Text :=
  '|' :: Text.join '|' cells ++ ['|']

def header (table : Table) : Text :=
  bordered (table.columns.map Column.title)

def rule : Text := ['|', '-', '-', '|']

def body (table : Table) : Text :=
  Text.join '\n' (table.rows.map bordered)

def render (table : Table) : Text :=
  table.header ++ '\n' :: rule ++ '\n' :: table.body

theorem cell_eq_nil (absent : heading.tags.contains column.tag = false) :
    cell marker heading column = [] := by
  simp [cell, absent]

theorem claimed_of_any_cells {columns : List Column}
    (shown : (cells columns marker heading).any (!·.isEmpty) = true) : claimed columns heading = true := by
  obtain ⟨held, member, filled⟩ := List.any_eq_true.mp shown
  obtain ⟨column, found, rfl⟩ := List.mem_map.mp member
  cases tagged : heading.tags.contains column.tag with
  | true => exact List.any_eq_true.mpr ⟨column, found, tagged⟩
  | false => simp [cell_eq_nil tagged] at filled

/-- Headings that are passed over would have no row anyway. -/
theorem rows_ofHeadings (columns : List Column) (marker : Text) (headings : List Heading) :
    (ofHeadings columns marker headings).rows =
      (headings.map (cells columns marker)).filter (·.any (!·.isEmpty)) := by
  dsimp only [ofHeadings]
  rw [List.filter_map, List.filter_map, List.filter_filter]
  congr 1
  apply List.filter_congr
  intro heading _
  exact Bool.and_eq_left_iff_imp.mpr claimed_of_any_cells

@[simp] theorem length_cells (columns : List Column) : (cells columns marker heading).length = columns.length := by
  simp [cells]

end Table

namespace Aligned

/-- The cells of a line after its first bar. A bar that ends the line closes it. -/
def cellsOf (inner : Text) : List Text :=
  let closed : Text := if inner.getLast? = some '|' then inner.dropLast else inner
  (closed.split '|').map Text.trim

/-- A line of a text. -/
inductive Line
  | plain (text : Text)
  | table (cells : List Text)
  deriving DecidableEq, Repr

def Line.ofText : Text → Line
  | '|' :: inner => .table (cellsOf inner)
  | text => .plain text

def isRuleCell : Text → Bool
  | '-' :: rest => rest.all fun c => c == '-' || c == '+'
  | _ => false

def isRule (cells : List Text) : Bool :=
  cells.all isRuleCell

def Line.data? : Line → Option (List Text)
  | .table cells => if isRule cells then none else some cells
  | .plain _ => none

/-- The widths that hold two rows of widths, place by place. -/
def widen : List Nat → List Nat → List Nat
  | [], second => second
  | first, [] => first
  | w :: first, v :: second => max w v :: widen first second

/-- The widest cell of each column. -/
def columnWidths (rows : List (List Text)) : List Nat :=
  rows.foldl (fun widths row => widen widths (row.map Display.width)) []

def ruleLine (widths : List Nat) : Text :=
  '|' :: Text.join '+' (widths.map fun width => List.replicate (width + 2) '-') ++ ['|']

def paddedCell (width : Nat) (cell : Text) : Text :=
  ' ' :: Display.pad cell width ++ [' ']

/-- Rows with fewer cells than there are widths are filled with empty ones. -/
def fill (cells : List Text) (count : Nat) : List Text :=
  cells ++ List.replicate (count - cells.length) []

def dataLine (widths : List Nat) (cells : List Text) : Text :=
  '|' :: Text.join '|' (List.zipWith paddedCell widths (fill cells widths.length)) ++ ['|']

def Line.print (widths : List Nat) : Line → Text
  | .plain text => text
  | .table cells => if isRule cells then ruleLine widths else dataLine widths cells

/-- A text without a data line is left alone. -/
def align (text : Text) : Text :=
  let lines := (text.split '\n').map Line.ofText
  let rows := lines.filterMap Line.data?
  if rows.isEmpty then text
  else Text.join '\n' (lines.map (Line.print (columnWidths rows)))

def alignTimes : Nat → Text → List Text
  | 0, _ => []
  | times + 1, text => align text :: alignTimes times (align text)

end Aligned

end OutlineTable
