import OutlineTable.Proofs.Heading.Rereading
import OutlineTable.Table

/-! Rendered tables read back. No heading of an outline holds a line feed and cutting brings in no characters
but the marker's, so where titles, headings and marker hold no bar and no line feed the rendered text splits
into the header, the rule and the rows again, and each border can be told from the cells. Tables that are
rendered alike show the same. -/
namespace OutlineTable

open Text

/-- A text that can stand in a cell. -/
structure Unmarked (text : Text) : Prop where
  bar : '|' ∉ text
  newline : '\n' ∉ text

theorem unmarked_iff : Unmarked text ↔ '|' ∉ text ∧ '\n' ∉ text :=
  ⟨fun plain => ⟨plain.bar, plain.newline⟩, fun ⟨bar, newline⟩ => ⟨bar, newline⟩⟩

namespace Display

theorem mem_take (member : c ∈ take room text) : c ∈ text := by
  obtain ⟨cluster, taken, inside⟩ := List.mem_flatten.mp member
  have whole := (takeClusters_isPrefix room (clusters text)).subset taken
  rw [← clusters_flatten text]
  exact List.mem_flatten.mpr ⟨cluster, whole, inside⟩

/-- A cut text is made of its own characters and those of the marker. -/
theorem mem_cut (member : c ∈ cut text limit marker) : c ∈ text ∨ c ∈ marker := by
  unfold cut at member
  split at member
  · simp at member
  · split at member
    · exact .inl member
    · simp only at member
      split at member
      · exact .inr (mem_take member)
      · rcases List.mem_append.mp member with member | member
        · exact .inl (mem_take member)
        · exact .inr member

theorem unmarked_cut (text : Unmarked body) (marker : Unmarked mark) (limit : Int) :
    Unmarked (cut body limit mark) where
  bar member := (mem_cut member).elim text.bar marker.bar
  newline member := (mem_cut member).elim text.newline marker.newline

end Display

namespace Table

variable {columns : List Column} {headings : List Heading} {marker outline : Text} {table : Table}

theorem unmarked_cell (text : Unmarked heading.text) (plain : Unmarked marker) (column : Column) :
    Unmarked (cell marker heading column) := by
  unfold cell
  split
  · exact Display.unmarked_cut text plain column.limit
  · exact ⟨by simp, by simp⟩

theorem mem_rows (member : row ∈ (ofHeadings columns marker headings).rows) :
    ∃ heading ∈ headings, row = cells columns marker heading := by
  rw [rows_ofHeadings] at member
  obtain ⟨made, -⟩ := List.mem_filter.mp member
  obtain ⟨heading, found, rfl⟩ := List.mem_map.mp made
  exact ⟨heading, found, rfl⟩

theorem length_of_mem_rows (member : row ∈ (ofHeadings columns marker headings).rows) :
    row.length = columns.length := by
  obtain ⟨heading, -, rfl⟩ := mem_rows member
  exact length_cells columns

theorem ne_nil_of_mem_rows (some : columns ≠ [])
    (member : row ∈ (ofHeadings columns marker headings).rows) : row ≠ [] := by
  rintro rfl
  exact some (List.length_eq_zero_iff.mp (length_of_mem_rows member).symm)

theorem unmarked_of_mem_rows (plain : ∀ heading ∈ headings, Unmarked heading.text) (mark : Unmarked marker)
    (member : row ∈ (ofHeadings columns marker headings).rows) : ∀ cell ∈ row, Unmarked cell := by
  obtain ⟨heading, found, rfl⟩ := mem_rows member
  intro held inside
  obtain ⟨column, -, rfl⟩ := List.mem_map.mp inside
  exact unmarked_cell (plain heading found) mark column

theorem newline_not_mem_bordered {cells : List Text} (plain : ∀ cell ∈ cells, Unmarked cell) :
    '\n' ∉ bordered cells := by
  intro member
  have inside : '\n' ∈ Text.join '|' cells := by simpa [bordered] using member
  rcases mem_join inside with same | ⟨cell, found, newline⟩
  · contradiction
  · exact (plain cell found).newline newline

theorem split_joined_cells {cells : List Text} (nonempty : cells ≠ [])
    (plain : ∀ cell ∈ cells, Unmarked cell) : (Text.join '|' cells).split '|' = cells :=
  split_join nonempty fun cell member => (plain cell member).bar

/-- Without rows the body is one empty line. -/
theorem split_body (plain : ∀ row ∈ table.rows, ∀ cell ∈ row, Unmarked cell) :
    table.body.split '\n' = if table.rows = [] then [[]] else table.rows.map bordered := by
  split
  next none => simp [body, none, Text.join]
  next some =>
    apply split_join (by simpa using some)
    intro line member
    obtain ⟨row, found, rfl⟩ := List.mem_map.mp member
    exact newline_not_mem_bordered (plain row found)

theorem split_render (titles : ∀ column ∈ table.columns, Unmarked column.title)
    (plain : ∀ row ∈ table.rows, ∀ cell ∈ row, Unmarked cell) :
    table.render.split '\n' = table.header :: rule ::
      if table.rows = [] then [[]] else table.rows.map bordered := by
  have header : '\n' ∉ table.header := newline_not_mem_bordered (List.forall_mem_map.mpr titles)
  have dashes : '\n' ∉ rule := by decide
  have whole : table.render = table.header ++ '\n' :: (rule ++ '\n' :: table.body) := by
    simp [render]
  rw [whole, split_append_mark, split_append_mark, split_of_not_mem header, split_of_not_mem dashes,
    split_body plain]
  rfl

/-- What stands between the first and the last character of a line, cut at the bars. -/
def between (line : Text) : List Text :=
  split '|' line.tail.dropLast

/-- The titles and the rows that a rendered text tells. -/
def readBack (text : Text) : List Text × List (List Text) :=
  let lines := text.split '\n'
  (between (lines.headD []), ((lines.drop 2).filter (!·.isEmpty)).map between)

/-- The lines of a rendered table, and the cells on them. Without rows one empty line is left. -/
structure Legible (table : Table) : Prop where
  lines : table.render.split '\n' =
    table.header :: rule :: if table.rows = [] then [[]] else table.rows.map bordered
  header : between table.header = table.columns.map Column.title
  rows : ∀ row ∈ table.rows, between (bordered row) = row

/-- Columns, marker and outline without a text that could be taken for a border. -/
structure Unbordered (columns : List Column) (marker outline : Text) : Prop where
  some : columns ≠ []
  titles : ∀ column ∈ columns, Unmarked column.title
  marker : Unmarked marker
  headings : ∀ heading ∈ Outline.headings outline, '|' ∉ heading.text

theorem between_bordered {cells : List Text} (some : cells ≠ []) (plain : ∀ cell ∈ cells, Unmarked cell) :
    between (bordered cells) = cells := by
  have inner : (bordered cells).tail.dropLast = Text.join '|' cells := by simp [bordered]
  rw [between, inner, split_joined_cells some plain]

/-- Every line of a row has its bars, so it is not the empty line of a table without rows. -/
theorem readBack_render (legible : table.Legible) :
    readBack table.render = (table.columns.map Column.title, table.rows) := by
  have bars : ∀ line ∈ table.rows.map bordered, (!line.isEmpty) = true := by
    intro line member
    obtain ⟨row, -, rfl⟩ := List.mem_map.mp member
    rfl
  have read : (table.rows.map bordered).map between = table.rows := by
    have same : table.rows.map (between ∘ bordered) = table.rows.map id :=
      List.map_congr_left fun row member => legible.rows row member
    rw [List.map_map, same, List.map_id]
  rw [readBack, legible.lines]
  simp only [List.headD_cons, List.drop_succ_cons, List.drop_zero, legible.header, Prod.mk.injEq, true_and]
  split
  next none => simp [none]
  next => rw [List.filter_eq_self.mpr bars, read]

theorem unmarked_of_mem_headings (bare : ∀ heading ∈ Outline.headings outline, '|' ∉ heading.text)
    (member : heading ∈ Outline.headings outline) : Unmarked heading.text where
  bar := bare heading member
  newline := newline_not_mem_of_oneLine (Outline.printable_of_mem_headings member).oneLine

theorem legible_of_unbordered (unbordered : Unbordered columns marker outline) :
    (ofHeadings columns marker (Outline.headings outline)).Legible := by
  have titles : ∀ title ∈ columns.map Column.title, Unmarked title := List.forall_mem_map.mpr unbordered.titles
  have plain : ∀ row ∈ (ofHeadings columns marker (Outline.headings outline)).rows, ∀ cell ∈ row, Unmarked cell :=
    fun row member => unmarked_of_mem_rows
      (fun heading found => unmarked_of_mem_headings unbordered.headings found) unbordered.marker member
  constructor
  · exact split_render unbordered.titles plain
  · exact between_bordered (List.map_eq_nil_iff.not.mpr unbordered.some) titles
  · exact fun row member => between_bordered (ne_nil_of_mem_rows unbordered.some member) (plain row member)

/-- A rendered table tells its titles and rows: its lines can be told apart and the cells on them too, and
no other table with other titles or rows is rendered to the same text. -/
theorem render_lossless (unbordered : Unbordered columns marker outline) :
    (ofHeadings columns marker (Outline.headings outline)).Legible ∧
      ∀ others mark text, Unbordered others mark text →
        (ofHeadings others mark (Outline.headings text)).render =
          (ofHeadings columns marker (Outline.headings outline)).render →
        others.map Column.title = columns.map Column.title ∧
          (ofHeadings others mark (Outline.headings text)).rows =
            (ofHeadings columns marker (Outline.headings outline)).rows := by
  have legible := legible_of_unbordered unbordered
  refine ⟨legible, fun others mark text plain same => ?_⟩
  have told := readBack_render (legible_of_unbordered plain)
  rw [same, readBack_render legible] at told
  obtain ⟨titles, rows⟩ := Prod.mk.inj told
  exact ⟨titles.symm, rows.symm⟩

/-- A cut heading and a short one that are shown alike, under an empty title and beside empty cells. -/
theorem render_lossless_cut :
    let columns : List Column := [⟨['a'], [], 4⟩, ⟨['b'], ['B'], 9⟩]
    let others : List Column := [⟨['c'], [], 9⟩, ⟨['d'], ['B'], 1⟩]
    let marker : Text := ['.', '.', '.']
    let outline : Text := "* abcdef :a:\r\n* x\n** y :b:".toList
    let text : Text := "* a... :c:\u2028* y\u000b* y :d:".toList
    let table := ofHeadings columns marker (Outline.headings outline)
    let other := ofHeadings others [] (Outline.headings text)
    (Unbordered columns marker outline ∧ Unbordered others [] text ∧ other.render = table.render) ∧
      table.Legible ∧ table.rows = [[['a', '.', '.', '.'], []], [[], ['y']]] ∧
      others.map Column.title = columns.map Column.title ∧ other.rows = table.rows := by
  intro columns others marker outline text table other
  have read : (Outline.headings outline).map Heading.text = ["abcdef".toList, ['x'], ['y']] := rfl
  have reread : (Outline.headings text).map Heading.text = ["a...".toList, ['y'], ['y']] := rfl
  have bare {parts : List Heading} (apart : ∀ part ∈ parts.map Heading.text, '|' ∉ part) :
      ∀ heading ∈ parts, '|' ∉ heading.text :=
    fun heading member => apart heading.text (List.mem_map_of_mem member)
  have cut : Unbordered columns marker outline :=
    ⟨List.cons_ne_nil _ _, by simp [columns, unmarked_iff], by simp [marker, unmarked_iff],
      bare (by rw [read]; decide)⟩
  have short : Unbordered others [] text :=
    ⟨List.cons_ne_nil _ _, by simp [others, unmarked_iff], by simp [unmarked_iff],
      bare (by rw [reread]; decide)⟩
  have same : other.render = table.render := by decide +kernel
  obtain ⟨legible, told⟩ := render_lossless cut
  exact ⟨⟨cut, short, same⟩, legible, by decide +kernel, told others [] text short same⟩

end Table

end OutlineTable
