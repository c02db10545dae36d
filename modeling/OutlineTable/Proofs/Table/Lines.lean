import OutlineTable.Proofs.Table.Widths
import OutlineTable.Proofs.Text.Parts

/-! Lines printed and read again. A line of an aligned text is of the kind it was before:
other lines are untouched, a rule stays a rule, and a data line has the same cells with
empty ones behind them. -/
namespace OutlineTable.Aligned

open Text

/-- Cells as a line of a text can have them. -/
structure Tidy (cells : List Text) : Prop where
  nonempty : cells ≠ []
  trimmed : ∀ cell ∈ cells, Trimmed cell
  apart : ∀ cell ∈ cells, '|' ∉ cell
  oneLine : ∀ cell ∈ cells, '\n' ∉ cell

/-- Lines that reading one line of a text can give. -/
def Line.Tidy : Line → Prop
  | .plain text => text.head? ≠ some '|' ∧ '\n' ∉ text
  | .table cells => Aligned.Tidy cells

theorem tidy_cellsOf {inner : Text} (oneLine : '\n' ∉ inner) : Tidy (cellsOf inner) := by
  have inside {part : Text} {closed : Text} (sub : ∀ c ∈ closed, c ∈ inner)
      (member : part ∈ closed.split '|') : '|' ∉ part ∧ '\n' ∉ part := by
    refine ⟨not_mem_of_mem_split member, fun break' => oneLine (sub _ ?_)⟩
    exact (mem_of_mem_split member break').1
  have sub : ∀ c ∈ (if inner.getLast? = some '|' then inner.dropLast else inner), c ∈ inner := by
    intro c member
    split at member
    · exact List.dropLast_subset inner member
    · exact member
  refine ⟨by simp [cellsOf, split_ne_nil], ?_, ?_, ?_⟩
  all_goals
    intro cell member
    obtain ⟨part, found, rfl⟩ := List.mem_map.mp member
  · exact trimmed_trim part
  · exact fun bar => (inside sub found).1 (mem_of_mem_trim bar)
  · exact fun newline => (inside sub found).2 (mem_of_mem_trim newline)

theorem tidy_ofText (oneLine : '\n' ∉ text) : (Line.ofText text).Tidy := by
  unfold Line.ofText
  split
  next inner => exact tidy_cellsOf fun newline => oneLine (List.mem_cons_of_mem _ newline)
  next other =>
    refine ⟨fun bar => ?_, oneLine⟩
    obtain ⟨inner, same⟩ := List.head?_eq_some_iff.mp bar
    exact other inner same

theorem ofText_plain (other : text.head? ≠ some '|') : Line.ofText text = .plain text := by
  unfold Line.ofText
  split
  next => simp at other
  next => rfl

theorem ofText_eq_table_iff : (∃ cells, Line.ofText text = .table cells) ↔ text.head? = some '|' := by
  constructor
  · rintro ⟨cells, table⟩
    by_contra other
    rw [ofText_plain other] at table
    contradiction
  · intro begins
    obtain ⟨inner, rfl⟩ := List.head?_eq_some_iff.mp begins
    exact ⟨cellsOf inner, rfl⟩

/-- A line that a bar ends has the cells between the bars. -/
theorem ofText_closed (inner : Text) :
    Line.ofText ('|' :: inner ++ ['|']) = .table ((inner.split '|').map trim) := by
  simp [Line.ofText, cellsOf]

theorem isRule_fill (cells : List Text) (count : Nat) (data : isRule cells = false) :
    isRule (fill cells count) = false := by
  simp only [isRule, fill, List.all_append, Bool.and_eq_false_iff] at data ⊢
  exact .inl data

theorem tidy_fill (tidy : Tidy cells) (count : Nat) : Tidy (fill cells count) := by
  have padded {cell : Text} (member : cell ∈ fill cells count) : cell ∈ cells ∨ cell = [] := by
    rcases List.mem_append.mp member with member | member
    · exact .inl member
    · exact .inr (List.eq_of_mem_replicate member)
  refine ⟨List.append_ne_nil_of_left_ne_nil tidy.nonempty _, ?_, ?_, ?_⟩
  all_goals
    intro cell member
    rcases padded member with found | rfl
  · exact tidy.trimmed cell found
  · exact trimmed_nil
  · exact tidy.apart cell found
  · simp
  · exact tidy.oneLine cell found
  · simp

theorem mem_pad (member : c ∈ Display.pad text cells) : c ∈ text ∨ c = ' ' := by
  rcases List.mem_append.mp member with member | member
  · exact .inl member
  · exact .inr (List.eq_of_mem_replicate member)

theorem mem_paddedCell (member : c ∈ paddedCell width cell) : c ∈ cell ∨ c = ' ' := by
  simp only [paddedCell, List.cons_append, List.mem_cons, List.mem_append, List.not_mem_nil, or_false] at member
  rcases member with rfl | inside | rfl
  · exact .inr rfl
  · exact mem_pad inside
  · exact .inr rfl

/-- Trimming undoes padding. -/
theorem trim_paddedCell (width : Nat) (trimmed : Trimmed cell) : trim (paddedCell width cell) = cell := by
  have spaces : ∀ count, ∀ c ∈ List.replicate count ' ' ++ [' '], isBlank c = true := by
    intro count c member
    have same : c = ' ' := by
      rcases List.mem_append.mp member with member | member
      · exact List.eq_of_mem_replicate member
      · exact List.mem_singleton.mp member
    rw [same]
    rfl
  have whole : paddedCell width cell =
      [' '] ++ cell ++ (List.replicate ((width : Int) - (Display.width cell : Int)).toNat ' ' ++ [' ']) := by
    simp [paddedCell, Display.pad]
  rw [whole]
  exact trim_surrounded trimmed (fun c member => spaces 0 c (by simpa using member)) (spaces _)

def ruleCell (widths : List Nat) : Text :=
  Text.join '+' (widths.map fun width => List.replicate (width + 2) '-')

theorem mem_ruleCell {widths : List Nat} (member : c ∈ ruleCell widths) : c = '+' ∨ c = '-' := by
  rcases mem_join member with same | ⟨part, found, inside⟩
  · exact .inl same
  · obtain ⟨width, -, rfl⟩ := List.mem_map.mp found
    exact .inr (List.eq_of_mem_replicate inside)

theorem trimmed_ruleCell (widths : List Nat) : Trimmed (ruleCell widths) := by
  have visible : ∀ c ∈ ruleCell widths, isBlank c = false := by
    intro c member
    rcases mem_ruleCell member with rfl | rfl <;> rfl
  exact ⟨fun c begins => visible c (List.mem_of_mem_head? begins),
    fun c ends => visible c (List.mem_of_mem_getLast? ends)⟩

theorem isRuleCell_ruleCell {widths : List Nat} (nonempty : widths ≠ []) :
    isRuleCell (ruleCell widths) = true := by
  obtain ⟨width, rest, rfl⟩ := List.exists_cons_of_ne_nil nonempty
  obtain ⟨tail, begins⟩ : ∃ tail, ruleCell (width :: rest) = '-' :: tail := by
    cases rest with
    | nil => exact ⟨List.replicate (width + 1) '-', by simp [ruleCell, Text.join, List.replicate_succ]⟩
    | cons second rest => exact ⟨_, by rw [ruleCell, List.map_cons, List.map_cons, join_two]; rfl⟩
  have dashes : ∀ c ∈ tail, (c == '-' || c == '+') = true := by
    intro c member
    have inside : c ∈ ruleCell (width :: rest) := by rw [begins]; exact List.mem_cons_of_mem _ member
    rcases mem_ruleCell inside with rfl | rfl <;> rfl
  rw [begins]
  exact List.all_eq_true.mpr dashes

/-- A line as it reads after it was printed to some widths. -/
def Line.settled (widths : List Nat) : Line → Line
  | .plain text => .plain text
  | .table cells => if isRule cells then .table [ruleCell widths] else .table (fill cells widths.length)

/-- A line whose cells the widths have room for; rules are written anew and always fit. -/
def Line.Fits (widths : List Nat) (line : Line) : Prop :=
  ∀ cells ∈ line.data?, cells.length ≤ widths.length

theorem split_ruleCell (widths : List Nat) : (ruleCell widths).split '|' = [ruleCell widths] := by
  apply split_of_not_mem
  intro member
  rcases mem_ruleCell member with same | same <;> contradiction

theorem ofText_ruleLine (widths : List Nat) : Line.ofText (ruleLine widths) = .table [ruleCell widths] := by
  have read := ofText_closed (ruleCell widths)
  rwa [split_ruleCell, List.map_singleton, trim_of_trimmed (trimmed_ruleCell widths)] at read

theorem map_trim_paddedCell {widths : List Nat} {cells : List Text} (trimmed : ∀ cell ∈ cells, Trimmed cell)
    (length : cells.length = widths.length) : (List.zipWith paddedCell widths cells).map trim = cells := by
  induction widths generalizing cells with
  | nil => simpa using length
  | cons width widths ih =>
    obtain ⟨cell, cells, rfl⟩ := List.exists_cons_of_length_eq_add_one length
    have later := ih (fun other member => trimmed other (List.mem_cons_of_mem cell member))
      (Nat.succ.inj length)
    simp [trim_paddedCell width (trimmed cell List.mem_cons_self), later]

theorem mem_zipWith_paddedCell {widths : List Nat} {cells : List Text}
    (member : part ∈ List.zipWith paddedCell widths cells) :
    ∃ width, ∃ cell ∈ cells, part = paddedCell width cell := by
  obtain ⟨place, bound, rfl⟩ := List.mem_iff_getElem.mp member
  rw [List.getElem_zipWith]
  exact ⟨_, _, List.getElem_mem _, rfl⟩

/-- The cells of a data line as they stand between its bars. -/
def paddedCells (widths : List Nat) (cells : List Text) : List Text :=
  List.zipWith paddedCell widths (fill cells widths.length)

theorem length_paddedCells {widths : List Nat} {cells : List Text} :
    (paddedCells widths cells).length = widths.length := by
  rw [paddedCells, List.length_zipWith, length_fill]
  omega

theorem split_paddedCells {widths : List Nat} {cells : List Text} (tidy : Tidy cells)
    (fits : cells.length ≤ widths.length) :
    (Text.join '|' (paddedCells widths cells)).split '|' = paddedCells widths cells := by
  apply split_join
  · have some := List.length_pos_iff.mpr tidy.nonempty
    apply List.ne_nil_of_length_pos
    rw [length_paddedCells]
    omega
  · intro part member bar
    obtain ⟨width, cell, found, rfl⟩ := mem_zipWith_paddedCell member
    rcases mem_paddedCell bar with inside | same
    · exact (tidy_fill tidy widths.length).apart cell found inside
    · contradiction

theorem ofText_dataLine {widths : List Nat} {cells : List Text} (tidy : Tidy cells)
    (fits : cells.length ≤ widths.length) :
    Line.ofText (dataLine widths cells) = .table (fill cells widths.length) := by
  have filled := tidy_fill tidy widths.length
  have length : (fill cells widths.length).length = widths.length := by
    rw [length_fill]
    omega
  have read := ofText_closed (Text.join '|' (paddedCells widths cells))
  rwa [split_paddedCells tidy fits, paddedCells, map_trim_paddedCell filled.trimmed length] at read

/-- Reading a printed line gives the settled line. -/
theorem ofText_print {line : Line} (tidy : line.Tidy) (fits : line.Fits widths) :
    Line.ofText (line.print widths) = line.settled widths := by
  cases line with
  | plain text => exact ofText_plain tidy.1
  | table cells =>
    simp only [Line.print, Line.settled]
    split
    next => exact ofText_ruleLine widths
    next data => exact ofText_dataLine tidy (fits cells (by simp [Line.data?, data]))

theorem newline_not_mem_ruleLine (widths : List Nat) : '\n' ∉ ruleLine widths := by
  intro member
  have inside : '\n' ∈ ruleCell widths := by simpa [ruleLine, ruleCell] using member
  rcases mem_ruleCell inside with same | same <;> contradiction

theorem newline_not_mem_dataLine (tidy : Tidy cells) (widths : List Nat) : '\n' ∉ dataLine widths cells := by
  intro member
  have inside : '\n' ∈ Text.join '|' (List.zipWith paddedCell widths (fill cells widths.length)) := by
    simpa [dataLine] using member
  rcases mem_join inside with same | ⟨part, found, newline⟩
  · contradiction
  · obtain ⟨width, cell, held, rfl⟩ := mem_zipWith_paddedCell found
    rcases mem_paddedCell newline with newline | same
    · exact (tidy_fill tidy widths.length).oneLine cell held newline
    · contradiction

theorem newline_not_mem_print {line : Line} (tidy : line.Tidy) (widths : List Nat) :
    '\n' ∉ line.print widths := by
  cases line with
  | plain text => exact tidy.2
  | table cells =>
    simp only [Line.print]
    split
    · exact newline_not_mem_ruleLine widths
    · exact newline_not_mem_dataLine tidy widths

theorem isRule_ruleCell {widths : List Nat} (nonempty : widths ≠ []) : isRule [ruleCell widths] = true := by
  simp [isRule, isRuleCell_ruleCell nonempty]

theorem data?_table (data : (Line.table row).data? = some cells) : cells = row := by
  simp only [Line.data?] at data
  split at data
  · contradiction
  · exact (Option.some.inj data).symm

theorem data?_settled {widths : List Nat} (nonempty : widths ≠ []) (line : Line) :
    (line.settled widths).data? = line.data?.map (fill · widths.length) := by
  cases line with
  | plain text => rfl
  | table cells =>
    cases kind : isRule cells with
    | true => simp [Line.settled, Line.data?, kind, isRule_ruleCell nonempty]
    | false => simp [Line.settled, Line.data?, kind, isRule_fill cells widths.length kind]

theorem settled_eq_table_iff {line : Line} :
    (∃ cells, line.settled widths = .table cells) ↔ ∃ cells, line = .table cells := by
  cases line with
  | plain text => exact ⟨nofun, nofun⟩
  | table cells =>
    refine iff_of_true ?_ ⟨cells, rfl⟩
    rw [Line.settled]
    split
    · exact ⟨_, rfl⟩
    · exact ⟨_, rfl⟩

/-- A settled line is printed as the line it comes from. -/
theorem print_settled {widths : List Nat} (nonempty : widths ≠ []) (line : Line) :
    (line.settled widths).print widths = line.print widths := by
  cases line with
  | plain text => rfl
  | table cells =>
    cases kind : isRule cells with
    | true => simp [Line.settled, Line.print, kind, isRule_ruleCell nonempty]
    | false =>
      simp [Line.settled, Line.print, kind, isRule_fill cells widths.length kind, dataLine]

end OutlineTable.Aligned
