import Mathlib.Data.List.GetD
import OutlineTable.Table

/-! Column widths. Widths are compared place by place, a place past the end counting as
zero; empty cells at the end of a row change none of them. -/
namespace OutlineTable.Aligned

theorem length_widen (first second : List Nat) :
    (widen first second).length = max first.length second.length := by
  induction first generalizing second with
  | nil => simp [widen]
  | cons w first ih =>
    cases second with
    | nil => simp [widen]
    | cons v second => simp only [widen, List.length_cons, ih, Nat.add_max_add_right]

theorem getD_widen (first second : List Nat) (place : Nat) :
    (widen first second).getD place 0 = max (first.getD place 0) (second.getD place 0) := by
  induction first generalizing second place with
  | nil => simp [widen]
  | cons w first ih =>
    cases second with
    | nil => simp [widen]
    | cons v second =>
      cases place with
      | zero => simp [widen]
      | succ place => simpa [widen] using ih second place

def rowWidths (cells : List Text) : List Nat := cells.map Display.width

/-- Widths found so far, and those of more rows. -/
def widenBy (widths : List Nat) (rows : List (List Text)) : List Nat :=
  rows.foldl (fun widths row => widen widths (rowWidths row)) widths

theorem length_fill (cells : List Text) (count : Nat) :
    (fill cells count).length = max cells.length count := by
  simp only [fill, List.length_append, List.length_replicate]
  omega

theorem fill_of_le {cells : List Text} (long : count ≤ cells.length) : fill cells count = cells := by
  simp [fill, Nat.sub_eq_zero_of_le long]

@[simp] theorem fill_fill (cells : List Text) (count : Nat) :
    fill (fill cells count) count = fill cells count :=
  fill_of_le (by rw [length_fill]; omega)

theorem getD_rowWidths_fill (cells : List Text) (count place : Nat) :
    (rowWidths (fill cells count)).getD place 0 = (rowWidths cells).getD place 0 := by
  rw [fill, rowWidths, List.map_append, List.map_replicate, Display.width_nil]
  by_cases within : place < (cells.map Display.width).length
  · rw [List.getD_append _ _ _ _ within, rowWidths]
  · have past : (cells.map Display.width).length ≤ place := Nat.le_of_not_lt within
    rw [List.getD_append_right _ _ _ _ past, rowWidths, List.getD_eq_default _ _ past]
    by_cases filled : place - (cells.map Display.width).length < count - cells.length
    · rw [List.getD_replicate _ filled]
    · rw [List.getD_eq_default _ _ (by simpa using filled)]

/-- The most cells that any of some rows has. -/
def mostCells (rows : List (List Text)) : Nat :=
  (rows.map List.length).foldr max 0

@[simp] theorem mostCells_cons (row : List Text) (rows : List (List Text)) :
    mostCells (row :: rows) = max row.length (mostCells rows) := rfl

theorem length_le_mostCells {rows : List (List Text)} (member : row ∈ rows) : row.length ≤ mostCells rows := by
  induction rows with
  | nil => simp at member
  | cons first rows ih =>
    rw [mostCells_cons]
    rcases List.mem_cons.mp member with rfl | member
    · omega
    · have later := ih member
      omega

theorem mostCells_le {rows : List (List Text)} (short : ∀ row ∈ rows, row.length ≤ count) :
    mostCells rows ≤ count := by
  induction rows with
  | nil => exact Nat.zero_le _
  | cons row rows ih =>
    have first := short row List.mem_cons_self
    have later := ih fun other member => short other (List.mem_cons_of_mem row member)
    rw [mostCells_cons]
    omega

theorem mostCells_fill (rows : List (List Text)) :
    mostCells (rows.map (fill · (mostCells rows))) = mostCells rows := by
  apply Nat.le_antisymm
  · apply mostCells_le
    intro filled member
    obtain ⟨row, found, rfl⟩ := List.mem_map.mp member
    have short := length_le_mostCells found
    rw [length_fill]
    omega
  · apply mostCells_le
    intro row member
    have filled := length_le_mostCells (List.mem_map_of_mem (f := (fill · (mostCells rows))) member)
    rw [length_fill] at filled
    omega

/-- The widest cell that some rows have at a place. -/
def widest (rows : List (List Text)) (place : Nat) : Nat :=
  ((rows.filterMap (·[place]?)).map Display.width).foldr max 0

theorem widest_cons (row : List Text) (rows : List (List Text)) (place : Nat) :
    widest (row :: rows) place = max ((rowWidths row).getD place 0) (widest rows place) := by
  cases held : row[place]? <;>
    simp [widest, rowWidths, List.getD_eq_getElem?_getD, held]

theorem widest_fill (rows : List (List Text)) (count place : Nat) :
    widest (rows.map (fill · count)) place = widest rows place := by
  induction rows with
  | nil => rfl
  | cons row rows ih => rw [List.map_cons, widest_cons, widest_cons, ih, getD_rowWidths_fill]

theorem length_widenBy (rows : List (List Text)) (widths : List Nat) :
    (widenBy widths rows).length = max widths.length (mostCells rows) := by
  induction rows generalizing widths with
  | nil => exact (Nat.max_zero _).symm
  | cons row rows ih =>
    have first := length_widen widths (rowWidths row)
    have later := ih (widen widths (rowWidths row))
    rw [rowWidths, List.length_map] at first
    rw [mostCells_cons]
    simp only [widenBy, List.foldl_cons, rowWidths] at later first ⊢
    omega

theorem getD_widenBy (rows : List (List Text)) (widths : List Nat) (place : Nat) :
    (widenBy widths rows).getD place 0 = max (widths.getD place 0) (widest rows place) := by
  induction rows generalizing widths with
  | nil => exact (Nat.max_zero _).symm
  | cons row rows ih =>
    have later := ih (widen widths (rowWidths row))
    rw [getD_widen] at later
    rw [widest_cons, ← Nat.max_assoc]
    exact later

theorem getD_columnWidths (rows : List (List Text)) (place : Nat) :
    (columnWidths rows).getD place 0 = widest rows place := by
  have here := getD_widenBy rows [] place
  rwa [List.getD_nil, Nat.zero_max] at here

/-- The widest cell of each place in some rows. -/
def widestCells (rows : List (List Text)) : List Nat :=
  (List.range (mostCells rows)).map (widest rows)

theorem columnWidths_eq (rows : List (List Text)) : columnWidths rows = widestCells rows := by
  have length : (columnWidths rows).length = mostCells rows := by
    have read := length_widenBy rows []
    rwa [List.length_nil, Nat.zero_max] at read
  apply List.ext_getElem (by simpa [widestCells] using length)
  intro place inside _
  simp only [widestCells, List.getElem_map, List.getElem_range, ← getD_columnWidths]
  exact (List.getD_eq_getElem _ _ inside).symm

theorem length_columnWidths_eq (rows : List (List Text)) : (columnWidths rows).length = mostCells rows := by
  rw [columnWidths_eq, widestCells, List.length_map, List.length_range]

theorem length_le_columnWidths {rows : List (List Text)} (member : row ∈ rows) :
    row.length ≤ (columnWidths rows).length := by
  rw [length_columnWidths_eq]
  exact length_le_mostCells member

theorem length_columnWidths {rows : List (List Text)} (some : rows ≠ [])
    (even : ∀ row ∈ rows, row.length = count) : (columnWidths rows).length = count := by
  obtain ⟨row, rest, rfl⟩ := List.exists_cons_of_ne_nil some
  have first := even row List.mem_cons_self
  have reached := length_le_mostCells (List.mem_cons_self (a := row) (l := rest))
  have short := mostCells_le fun other member => Nat.le_of_eq (even other member)
  rw [length_columnWidths_eq]
  omega

/-- Rows filled to the number of columns have the widths that they had. -/
theorem columnWidths_fill (rows : List (List Text)) :
    columnWidths (rows.map (fill · (columnWidths rows).length)) = columnWidths rows := by
  rw [length_columnWidths_eq, columnWidths_eq, columnWidths_eq, widestCells, widestCells, mostCells_fill]
  exact List.map_congr_left fun place _ => widest_fill rows _ place

end OutlineTable.Aligned
