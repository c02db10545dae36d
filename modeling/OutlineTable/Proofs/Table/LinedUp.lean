import OutlineTable.Proofs.Display.Standalone
import OutlineTable.Proofs.Steps
import OutlineTable.Proofs.Table.Alignment

/-! Columns of an aligned text on the screen. Where cells keep their clusters to themselves, a
padded cell is as wide as its column and two spaces, and every table line of the text, rule or
data, comes out as wide as all columns and the bars between them. -/
namespace OutlineTable.Aligned

open Text

/-- A cell that neither joins the space before it nor takes in the one behind it. -/
structure SelfContained (cell : Text) : Prop where
  fresh : Display.BeginsFresh cell
  closed : Display.Closed cell

instance (cell : Text) : Decidable (SelfContained cell) :=
  decidable_of_iff (Display.BeginsFresh cell ∧ Display.Closed cell)
    ⟨fun held => ⟨held.1, held.2⟩, fun contained => ⟨contained.fresh, contained.closed⟩⟩

theorem selfContained_nil : SelfContained [] := ⟨nofun, nofun⟩

theorem selfContained_of_mem_fill {cells : List Text} (contained : ∀ cell ∈ cells, SelfContained cell)
    (member : cell ∈ fill cells count) : SelfContained cell := by
  rcases List.mem_append.mp member with found | found
  · exact contained cell found
  · rw [List.eq_of_mem_replicate found]
    exact selfContained_nil

theorem paddedCell_eq (width : Nat) (cell : Text) :
    paddedCell width cell = [' '] ++ (cell ++ List.replicate (width - Display.width cell + 1) ' ') := by
  have count : ((width : Int) - (Display.width cell : Int)).toNat = width - Display.width cell := by omega
  simp [paddedCell, Display.pad, count, List.replicate_succ']

/-- A padded cell begins and ends with a space. -/
theorem standalone_paddedCell (width : Nat) (cell : Text) : Display.Standalone (paddedCell width cell) := by
  have spaces (count : Nat) : Display.Standalone (List.replicate count ' ') :=
    Display.standalone_plain (Display.plain_replicate rfl count)
  rw [paddedCell_eq]
  constructor
  · exact (spaces 1).detached
  · apply Display.closed_append_of_ne_nil (by simp)
    exact Display.closed_append_of_ne_nil (by simp) (spaces _).closed

/-- The spaces that a cell is filled up with add what is missing, and those around it two. -/
theorem width_paddedCell (contained : SelfContained cell) (fits : Display.width cell ≤ width) :
    Display.width (paddedCell width cell) = width + 2 := by
  have spaces : Display.Standalone (List.replicate (width - Display.width cell + 1) ' ') :=
    Display.standalone_plain (Display.plain_replicate rfl _)
  have space : Display.EndsPlain [' '] := by
    intro c ends
    obtain rfl : ' ' = c := by simpa using ends
    exact .inl Unicode.breakClass_space
  have fresh : Display.BeginsFresh (cell ++ List.replicate (width - Display.width cell + 1) ' ') := by
    intro c begins
    cases cell with
    | nil =>
      obtain rfl : ' ' = c := by simpa [List.replicate_succ] using begins
      decide
    | cons first rest => exact contained.fresh c begins
  have one : Display.width [' '] = 1 := by decide
  rw [paddedCell_eq, Display.width_append_of_plain space fresh,
    Display.width_append_of_detached contained.closed spaces.detached, Display.width_replicate rfl, one]
  omega

/-- A framed row is as wide as its parts and the characters before, between and behind them. -/
theorem width_framed {parts : List Text} (plain : Unicode.isPrintableAscii mark = true) (some : parts ≠ [])
    (alone : ∀ part ∈ parts, Display.Standalone part) :
    Display.width ('|' :: Text.join mark parts ++ ['|']) = 1 + (parts.map (Display.width · + 1)).sum := by
  have bar : Display.Standalone ['|'] := Display.standalone_plain rfl
  have inner := Display.standalone_join plain alone
  have one : Display.width ['|'] = 1 := by decide
  have joined := Display.width_join plain some alone
  have whole : '|' :: Text.join mark parts ++ ['|'] = ['|'] ++ (Text.join mark parts ++ ['|']) := rfl
  rw [whole, Display.width_append_of_detached bar.closed (inner.append bar).detached,
    Display.width_append_of_detached inner.closed bar.detached, one]
  omega

theorem width_ruleLine {widths : List Nat} (some : widths ≠ []) :
    Display.width (ruleLine widths) = 1 + (widths.map (· + 3)).sum := by
  have alone : ∀ part ∈ widths.map fun width => List.replicate (width + 2) '-', Display.Standalone part := by
    intro part member
    obtain ⟨width, -, rfl⟩ := List.mem_map.mp member
    exact Display.standalone_plain (Display.plain_replicate rfl _)
  rw [ruleLine, width_framed rfl (by simpa using some) alone, List.map_map]
  congr 2
  apply List.map_congr_left
  intro width _
  exact congrArg (· + 1) (Display.width_replicate rfl (width + 2))

theorem map_width_paddedCells {widths : List Nat} {cells : List Text}
    (contained : ∀ cell ∈ cells, SelfContained cell) (short : cells.length ≤ widths.length)
    (fits : ∀ place, (rowWidths cells).getD place 0 ≤ widths.getD place 0) :
    (paddedCells widths cells).map Display.width = widths.map (· + 2) := by
  apply List.ext_getElem (by simp [length_paddedCells])
  intro place inside bound
  have within : place < widths.length := by simpa using bound
  have filled : place < (fill cells widths.length).length := by rw [length_fill]; omega
  have room := fits place
  rw [← getD_rowWidths_fill cells widths.length, List.getD_eq_getElem _ _ within,
    List.getD_eq_getElem _ _ (by simpa [rowWidths] using filled)] at room
  simp only [rowWidths, List.getElem_map] at room
  simp only [List.getElem_map, paddedCells, List.getElem_zipWith]
  exact width_paddedCell (selfContained_of_mem_fill contained (List.getElem_mem filled)) room

theorem getD_rowWidths_le_widest {rows : List (List Text)} (member : row ∈ rows) (place : Nat) :
    (rowWidths row).getD place 0 ≤ widest rows place := by
  induction rows with
  | nil => simp at member
  | cons first rows ih =>
    rw [widest_cons]
    rcases List.mem_cons.mp member with rfl | member
    · exact Nat.le_max_left _ _
    · exact Nat.le_trans (ih member) (Nat.le_max_right _ _)

/-- A table line as wide as its columns need; in a data line the part between two bars is two
cells wider than the widest cell of its column. -/
structure LinedUp (widths : List Nat) (line : Text) : Prop where
  total : Display.width line = 1 + (widths.map (· + 3)).sum
  parts : ∀ cells ∈ (Line.ofText line).data?, ∃ parts,
    line.split '|' = [] :: parts ++ [[]] ∧ parts.map Display.width = widths.map (· + 2)

theorem linedUp_ruleLine {widths : List Nat} (some : widths ≠ []) : LinedUp widths (ruleLine widths) where
  total := width_ruleLine some
  parts := by
    intro cells data
    rw [ofText_ruleLine, Line.data?, if_pos (isRule_ruleCell some)] at data
    contradiction

theorem split_framed (inner : Text) : split '|' ('|' :: inner ++ ['|']) = [] :: split '|' inner ++ [[]] := by
  have front : split '|' ('|' :: (inner ++ ['|'])) = split '|' [] ++ split '|' (inner ++ ['|']) :=
    split_append_mark [] (inner ++ ['|'])
  have back : split '|' (inner ++ ['|']) = split '|' inner ++ split '|' [] := split_append_mark inner []
  rwa [back, split_nil] at front

theorem linedUp_dataLine {widths : List Nat} {cells : List Text} (tidy : Tidy cells)
    (contained : ∀ cell ∈ cells, SelfContained cell) (short : cells.length ≤ widths.length)
    (fits : ∀ place, (rowWidths cells).getD place 0 ≤ widths.getD place 0) :
    LinedUp widths (dataLine widths cells) := by
  have same := map_width_paddedCells contained short fits
  have filled := List.length_pos_iff.mpr tidy.nonempty
  have some : paddedCells widths cells ≠ [] :=
    List.ne_nil_of_length_pos (by rw [length_paddedCells]; omega)
  have alone : ∀ part ∈ paddedCells widths cells, Display.Standalone part := by
    intro part member
    obtain ⟨width, cell, -, rfl⟩ := mem_zipWith_paddedCell member
    exact standalone_paddedCell width cell
  have line : dataLine widths cells = '|' :: Text.join '|' (paddedCells widths cells) ++ ['|'] := rfl
  constructor
  · have sum : (paddedCells widths cells).map (Display.width · + 1) = widths.map (· + 3) := by
      have added := congrArg (List.map (· + 1)) same
      rwa [List.map_map, List.map_map] at added
    rw [line, width_framed rfl some alone, sum]
  · intro _ _
    refine ⟨paddedCells widths cells, ?_, same⟩
    rw [line, split_framed, split_paddedCells tidy short]

/-- What becomes of a line: a table line lines up and stays the rule or the data that it was, and no
other line becomes a table line. -/
structure LinesUp (widths : List Nat) (before after : Text) : Prop where
  table : after.head? = some '|' ↔ before.head? = some '|'
  data : (Line.ofText after).data?.isSome = (Line.ofText before).data?.isSome
  linedUp : after.head? = some '|' → LinedUp widths after

section

variable {text : Text} (filled : rowsOf text ≠ [])
  (contained : ∀ cells ∈ rowsOf text, ∀ cell ∈ cells, SelfContained cell)

include filled contained

theorem linedUp_print (found : .table cells ∈ linesOf text) :
    LinedUp (widthsOf text) ((Line.table cells).print (widthsOf text)) := by
  rw [Line.print]
  split
  next => exact linedUp_ruleLine (widthsOf_ne_nil filled)
  next data =>
    have row : cells ∈ rowsOf text := List.mem_filterMap.mpr ⟨.table cells, found, if_neg data⟩
    apply linedUp_dataLine (tidy_of_mem_linesOf found) (contained cells row) (length_le_columnWidths row)
    intro place
    exact (getD_rowWidths_le_widest row place).trans_eq (getD_columnWidths _ place).symm

theorem linesUp_print (member : line ∈ text.split '\n') :
    LinesUp (widthsOf text) line ((Line.ofText line).print (widthsOf text)) := by
  have found : Line.ofText line ∈ linesOf text := List.mem_map_of_mem member
  have read := ofText_print (tidy_of_mem_linesOf found) (fits_of_mem_linesOf found)
  have table : ((Line.ofText line).print (widthsOf text)).head? = some '|' ↔ line.head? = some '|' := by
    rw [← ofText_eq_table_iff, ← ofText_eq_table_iff, read, settled_eq_table_iff]
  refine ⟨table, ?_, fun begins => ?_⟩
  · rw [read, data?_settled (widthsOf_ne_nil filled), Option.isSome_map]
  · obtain ⟨cells, same⟩ := ofText_eq_table_iff.mpr (table.mp begins)
    rw [same] at found ⊢
    exact linedUp_print filled contained found

theorem linesUp_align :
    List.Forall₂ (LinesUp (widthsOf text)) (text.split '\n') ((align text).split '\n') := by
  rw [split_align filled, linesOf, List.map_map, List.forall₂_map_right_iff, List.forall₂_same]
  exact fun _ => linesUp_print filled contained

end

/-- In an aligned text whose cells keep their clusters to themselves all columns line up: each table
line of the text has its line, rule or data, and every table line of the aligned text is one of these. -/
theorem linedUp_of_mem_align {text : Text} (filled : rowsOf text ≠ [])
    (contained : ∀ cells ∈ rowsOf text, ∀ cell ∈ cells, SelfContained cell) :
    List.Forall₂ (LinesUp (widestCells (rowsOf text))) (text.split '\n') ((align text).split '\n') ∧
      ∀ line ∈ (align text).split '\n', line.head? = some '|' → LinedUp (widestCells (rowsOf text)) line := by
  have lines := linesUp_align filled contained
  have widths : widthsOf text = widestCells (rowsOf text) := columnWidths_eq (rowsOf text)
  rw [widths] at lines
  refine ⟨lines, fun line member begins => ?_⟩
  obtain ⟨before, -, up⟩ := exists_of_mem_right lines member
  exact up.linedUp begins

/-- Rows of different lengths with a tab, a wide character, a combined one and a flag, around a
rule and a line of words. -/
def mixed : Text :=
  "|a\tb|\u4f60\n|--+-|\nwords\n|e\u0301|🇩🇪 x|z".toList

theorem linedUp_mixed :
    rowsOf mixed ≠ [] ∧ (∀ cells ∈ rowsOf mixed, ∀ cell ∈ cells, SelfContained cell) ∧
      widestCells (rowsOf mixed) = [5, 4, 1] ∧
      List.Forall₂ (LinesUp [5, 4, 1]) (mixed.split '\n') ((align mixed).split '\n') ∧
      ∀ line ∈ (align mixed).split '\n', line.head? = some '|' → LinedUp [5, 4, 1] line := by
  have filled : rowsOf mixed ≠ [] := by decide +kernel
  have contained : ∀ cells ∈ rowsOf mixed, ∀ cell ∈ cells, SelfContained cell := by decide +kernel
  have widths : widestCells (rowsOf mixed) = [5, 4, 1] := by decide +kernel
  exact ⟨filled, contained, widths, widths ▸ linedUp_of_mem_align filled contained⟩

end OutlineTable.Aligned
