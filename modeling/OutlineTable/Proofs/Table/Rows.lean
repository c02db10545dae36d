import OutlineTable.Proofs.Display.Cutting
import OutlineTable.Proofs.Heading.Printing
import OutlineTable.Proofs.Table.Rendering

/-! The rows of a table and their cells. A cell is a heading cut to the limit of its column, so it can be
wider than that by what tabs and the seam to the marker gain, and by nothing else. Each item with a text and
a tag of some column that has room has one row, and no other item has one. The order in which the tags of an
item come does not matter. -/
namespace OutlineTable

open Display

namespace Item

/-- Items with one text and one set of tags. -/
def Same (item other : Item) : Prop :=
  item.text = other.text ∧ ∀ tag, tag ∈ item.tags ↔ tag ∈ other.tags

theorem Same.refl (item : Item) : item.Same item := ⟨rfl, fun _ => Iff.rfl⟩

theorem heading_eq_of_same {item other : Item} (same : item.Same other) : item.heading = other.heading := by
  have tags : TagSet.ofList item.tags = TagSet.ofList other.tags :=
    TagSet.eq_of_mem_iff fun tag => by rw [TagSet.mem_ofList, TagSet.mem_ofList, same.2 tag]
  rw [heading, heading, same.1, tags]

end Item

namespace Table

variable {marker : Text}

/-- A row whose cells stay in the limits of their columns; a negative limit is none. -/
def Within (columns : List Column) (row : List Text) : Prop :=
  List.Forall₂ (fun column cell => (width cell : Int) ≤ max 0 column.limit) columns row

theorem width_cell_le_iff (marker : Text) (heading : Heading) (column : Column) :
    (width (cell marker heading column) : Int) ≤ max 0 column.limit ↔
      (heading.tags.contains column.tag = true → Fits heading.text column.limit marker) := by
  cases tagged : heading.tags.contains column.tag with
  | true =>
    rw [cell, if_pos tagged, width_cut_le_iff]
    exact ⟨fun fits _ => fits, fun fits => fits rfl⟩
  | false =>
    rw [cell_eq_nil tagged, width_nil]
    exact ⟨fun _ held => absurd held Bool.false_ne_true, fun _ => Int.le_max_left _ _⟩

theorem within_cells_iff (columns : List Column) (marker : Text) (heading : Heading) :
    Within columns (cells columns marker heading) ↔ ∀ column ∈ columns,
      (heading.tags.contains column.tag = true → Fits heading.text column.limit marker) := by
  rw [Within, cells, List.forall₂_map_right_iff, List.forall₂_same]
  simp only [width_cell_le_iff]

/-- Headings without a row have empty cells only. -/
theorem within_of_no_row {columns : List Column} {headings : List Heading} (member : heading ∈ headings)
    (dropped : cells columns marker heading ∉ (ofHeadings columns marker headings).rows) :
    Within columns (cells columns marker heading) := by
  rw [rows_ofHeadings] at dropped
  have empty : ∀ column ∈ columns, cell marker heading column = [] := by
    intro column found
    have made : cells columns marker heading ∈ headings.map (cells columns marker) :=
      List.mem_map_of_mem member
    have none := fun some => dropped (List.mem_filter.mpr ⟨made, some⟩)
    have inside : cell marker heading column ∈ cells columns marker heading := List.mem_map_of_mem found
    cases held : cell marker heading column with
    | nil => rfl
    | cons c rest =>
      exfalso
      exact none (List.any_eq_true.mpr ⟨_, inside, by simp [held]⟩)
  rw [Within, cells, List.forall₂_map_right_iff, List.forall₂_same]
  intro column found
  rw [empty column found, width_nil]
  omega

/-- All cells of a table stay in the limits of their columns exactly if each heading fits
under each column that takes it. -/
theorem within_rows_iff (columns : List Column) (marker : Text) (headings : List Heading) :
    (∀ row ∈ (ofHeadings columns marker headings).rows, Within columns row) ↔
      ∀ heading ∈ headings, ∀ column ∈ columns, heading.tags.contains column.tag = true →
        Fits heading.text column.limit marker := by
  constructor
  · intro within heading member
    rw [← within_cells_iff]
    by_cases shown : cells columns marker heading ∈ (ofHeadings columns marker headings).rows
    · exact within _ shown
    · exact within_of_no_row member shown
  · intro fits row member
    obtain ⟨heading, found, rfl⟩ := mem_rows member
    exact (within_cells_iff columns marker heading).mpr (fits heading found)

/-- A selector behind a tab is a cluster of no cells to the cut, but it makes a picture of the
last space of the tab. -/
theorem selected_tab_overflows :
    ¬∀ (columns : List Column) (marker : Text) (headings : List Heading),
      ∀ row ∈ (ofHeadings columns marker headings).rows, Within columns row := by
  intro within
  have overflow := within [⟨['a'], ['a'], 6⟩] ['.', '.', '.']
    [⟨['\t', '\uFE0F', 'a', 'a', 'a', 'a', 'a', 'a'], TagSet.ofList [['a']]⟩]
    [['\t', '\uFE0F', '.', '.', '.']] (by decide +kernel)
  obtain ⟨wide, -⟩ := List.forall₂_cons.mp overflow
  revert wide
  decide +kernel

/-- Without tabs before marks, and with a marker that stands for itself, no cell is wider
than its column allows. -/
theorem within_rows_of_apart {columns : List Column} {headings : List Heading}
    (texts : ∀ heading ∈ headings, TabsApart heading.text) (mark : TabsApart marker)
    (detached : Detached marker) :
    ∀ row ∈ (ofHeadings columns marker headings).rows, Within columns row := by
  intro row member
  obtain ⟨heading, found, rfl⟩ := mem_rows member
  apply (within_cells_iff columns marker heading).mpr
  exact fun column _ _ => fits_of_apart (texts heading found) mark detached column.limit

/-- An item that has something to show: its text is not empty, and it has the tag of a column with room. -/
def Shows (columns : List Column) (item : Item) : Prop :=
  item.text ≠ [] ∧ ∃ column ∈ columns, 1 ≤ column.limit ∧ column.tag ∈ item.tags

instance (columns : List Column) (item : Item) : Decidable (Shows columns item) :=
  inferInstanceAs (Decidable (_ ∧ _))

theorem cell_heading (item : Item) (column : Column) : cell marker item.heading column =
    if column.tag ∈ item.tags then cut item.text column.limit marker else [] := by
  simp only [cell, Item.heading, TagSet.contains, List.contains_iff_mem, TagSet.mem_ofList]

section Narrow

-- A marker that is not empty, and that a column of one cell can begin with.
variable (some : marker ≠ []) (narrow : ∀ cluster ∈ (clusters marker).head?, charge cluster ≤ 1)
include some narrow

theorem cell_ne_nil_iff (item : Item) (column : Column) : cell marker item.heading column ≠ [] ↔
    item.text ≠ [] ∧ 1 ≤ column.limit ∧ column.tag ∈ item.tags := by
  rw [cell_heading]
  by_cases tagged : column.tag ∈ item.tags
  · rw [if_pos tagged, cut_ne_nil_iff some narrow, and_iff_left tagged]
  · simp [tagged]

/-- The cells of an item are all empty exactly if it has nothing to show. -/
theorem any_cells_iff (columns : List Column) (item : Item) :
    (cells columns marker item.heading).any (!·.isEmpty) = true ↔ Shows columns item := by
  have filled : (cells columns marker item.heading).any (!·.isEmpty) = true ↔
      ∃ column ∈ columns, cell marker item.heading column ≠ [] := by
    simp [cells]
  rw [filled]
  simp only [cell_ne_nil_iff some narrow]
  constructor
  · rintro ⟨column, member, nonempty, room, tagged⟩
    exact ⟨nonempty, column, member, room, tagged⟩
  · rintro ⟨nonempty, column, member, room, tagged⟩
    exact ⟨column, member, nonempty, room, tagged⟩

end Narrow

/-- The rows of a table are those of the items that have something to show, in their order: the text,
cut to the limit, under each column whose tag the item has. -/
theorem rows_ofItems (columns : List Column) (items : List Item) (some : marker ≠ [])
    (narrow : ∀ cluster ∈ (clusters marker).head?, charge cluster ≤ 1) :
    ((ofItems columns marker items).rows =
      (items.filter fun item => Shows columns item).map fun item => columns.map fun column =>
        if column.tag ∈ item.tags then cut item.text column.limit marker else []) ∧
    ∀ others, List.Forall₂ Item.Same items others → ofItems columns marker others = ofItems columns marker items := by
  constructor
  · have kept : items.filter ((·.any (!·.isEmpty)) ∘ cells columns marker ∘ Item.heading) =
        items.filter fun item => Shows columns item := by
      apply List.filter_congr
      intro item _
      rw [Bool.eq_iff_iff, decide_eq_true_iff]
      exact any_cells_iff some narrow columns item
    rw [ofItems, rows_ofHeadings, List.map_map, List.filter_map, kept]
    apply List.map_congr_left
    intro item _
    exact List.map_congr_left fun column _ => cell_heading item column
  · intro others same
    have headings : others.map Item.heading = items.map Item.heading := by
      induction same with
      | nil => rfl
      | cons first _ ih => rw [List.map_cons, List.map_cons, ih, Item.heading_eq_of_same first]
    rw [ofItems, headings, ofItems]

/-- A text that is cut, one that leaves room for nothing but a part of the marker, and items that have
no text or no room. -/
theorem rows_ofItems_sparse :
    let columns : List Column := [⟨['a'], ['A'], 4⟩, ⟨['b'], ['B'], 0⟩, ⟨['a'], ['C'], -1⟩, ⟨['c'], ['D'], 2⟩]
    let marker : Text := ['.', '.', '.']
    let items : List Item := [⟨"x y z".toList, [['b'], ['a'], ['a']]⟩, ⟨['x'], [['b']]⟩, ⟨[], [['a']]⟩,
      ⟨['日', '本'], [['c'], ['d']]⟩]
    let others : List Item := [⟨"x y z".toList, [['a'], ['b']]⟩, ⟨['x'], [['b']]⟩, ⟨[], [['a']]⟩,
      ⟨['日', '本'], [['d'], ['c']]⟩]
    (marker ≠ [] ∧ ∀ cluster ∈ (clusters marker).head?, charge cluster ≤ 1) ∧
      List.Forall₂ Item.Same items others ∧
      (ofItems columns marker items).rows = [["x...".toList, [], [], []], [[], [], [], ['.', '.']]] ∧
      ofItems columns marker others = ofItems columns marker items := by
  intro columns marker items others
  have some : marker ≠ [] := List.cons_ne_nil _ _
  have narrow : ∀ cluster ∈ (clusters marker).head?, charge cluster ≤ 1 := by decide +kernel
  have repeated : Item.Same ⟨"x y z".toList, [['b'], ['a'], ['a']]⟩ ⟨"x y z".toList, [['a'], ['b']]⟩ :=
    ⟨rfl, fun tag => by simp [or_comm]⟩
  have swapped : Item.Same ⟨['日', '本'], [['c'], ['d']]⟩ ⟨['日', '本'], [['d'], ['c']]⟩ :=
    ⟨rfl, fun tag => by simp [or_comm]⟩
  have same : List.Forall₂ Item.Same items others :=
    .cons repeated (.cons (.refl _) (.cons (.refl _) (.cons swapped .nil)))
  obtain ⟨rows, congr⟩ := rows_ofItems columns items some narrow
  exact ⟨⟨some, narrow⟩, same, rows.trans (by decide +kernel), congr others same⟩

end Table

end OutlineTable
