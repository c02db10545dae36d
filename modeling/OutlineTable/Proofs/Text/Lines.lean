import OutlineTable.Proofs.Text.Parts
import OutlineTable.Text.Basic

/-! Lines put together and taken apart. Texts without a line end, joined by line feeds, are the
lines of the whole. The lines of a text are those of its parts wherever it is cut at a line end, but
for empty ones, and they do not depend on the way it writes its line ends. -/
namespace OutlineTable.Text

/-- A text that can be a line, or a part of one. -/
def OneLine (text : Text) : Prop :=
  ∀ c ∈ text, isLineEnd c = false

theorem isBlank_of_isLineEnd (ends : isLineEnd c = true) : isBlank c = true := by
  simp only [isLineEnd, Bool.or_eq_true, Bool.and_eq_true, decide_eq_true_eq, beq_iff_eq] at ends
  simp only [isBlank, blankRanges, Unicode.Ranges.covers, Bool.or_eq_true, Bool.and_eq_true, decide_eq_true_eq]
  omega

theorem newline_not_mem_of_oneLine (oneLine : OneLine text) : '\n' ∉ text := fun newline =>
  Bool.noConfusion (oneLine '\n' newline)

/-- A character that ends no line goes before the first line. -/
theorem lines_cons (other : isLineEnd c = false) (text : Text) : lines (c :: text) = consLine c (lines text) := by
  rw [lines, if_neg (by simp [other])]
  rintro rest rfl
  contradiction

theorem lines_newline (text : Text) : lines ('\n' :: text) = [] :: lines text := rfl

theorem lines_append_newline (oneLine : OneLine first) (text : Text) :
    lines (first ++ '\n' :: text) = first :: lines text := by
  induction first with
  | nil => exact lines_newline text
  | cons c first ih =>
    have later : OneLine first := fun d member => oneLine d (List.mem_cons_of_mem c member)
    rw [List.cons_append, lines_cons (oneLine c List.mem_cons_self), ih later, consLine]

theorem lines_of_oneLine (oneLine : OneLine line) (nonempty : line ≠ []) : lines line = [line] := by
  induction line with
  | nil => contradiction
  | cons c line ih =>
    rw [lines_cons (oneLine c List.mem_cons_self)]
    by_cases last : line = []
    · rw [last, lines, consLine]
    · rw [ih (fun d member => oneLine d (List.mem_cons_of_mem c member)) last, consLine]

theorem lines_join {parts : List Text} (oneLine : ∀ part ∈ parts, OneLine part)
    (nonempty : ∀ part ∈ parts, part ≠ []) : lines (join '\n' parts) = parts := by
  induction parts with
  | nil => rfl
  | cons first rest ih =>
    have here := oneLine first List.mem_cons_self
    cases rest with
    | nil =>
      have alone : join '\n' [first] = first := by simp [join]
      rw [alone, lines_of_oneLine here (nonempty first List.mem_cons_self)]
    | cons second rest =>
      rw [join_two, lines_append_newline here, ih]
      · exact fun part member => oneLine part (List.mem_cons_of_mem first member)
      · exact fun part member => nonempty part (List.mem_cons_of_mem first member)

theorem oneLine_of_mem_consLine (other : isLineEnd c = false) (within : ∀ line ∈ rest, OneLine line)
    (member : line ∈ consLine c rest) : OneLine line := by
  have alone : OneLine [c] := fun d inside => List.mem_singleton.mp inside ▸ other
  cases rest with
  | nil => exact List.mem_singleton.mp member ▸ alone
  | cons first rest =>
    rcases List.mem_cons.mp member with rfl | later
    · intro d inside
      rcases List.mem_cons.mp inside with rfl | inside
      · exact other
      · exact within first List.mem_cons_self d inside
    · exact within line (List.mem_cons_of_mem first later)

/-- No line of a text holds a line end. -/
theorem oneLine_of_mem_lines (member : line ∈ lines text) : OneLine line := by
  fun_induction lines text generalizing line with
  | case1 => simp at member
  | case2 text ih =>
    rcases List.mem_cons.mp member with rfl | later
    · simp [OneLine]
    · exact ih later
  | case3 c text notPair ends ih =>
    rcases List.mem_cons.mp member with rfl | later
    · simp [OneLine]
    · exact ih later
  | case4 c text notPair other ih =>
    exact oneLine_of_mem_consLine (eq_false_of_ne_true other) (fun _ => ih) member

/-- A line end that is no half of a pair ends the first line, an empty one. -/
theorem lines_end (ends : isLineEnd c = true) (single : c = '\r' → text.head? ≠ some '\n') :
    lines (c :: text) = [] :: lines text := by
  rw [lines, if_pos ends]
  rintro rest rfl rfl
  exact single rfl rfl

theorem lines_ne_nil (some : text ≠ []) : lines text ≠ [] := by
  fun_cases lines text with
  | case1 => contradiction
  | case2 => exact List.cons_ne_nil _ _
  | case3 => exact List.cons_ne_nil _ _
  | case4 c text => cases lines text <;> exact List.cons_ne_nil _ _

theorem consLine_append (c : Char) (some : first ≠ []) (rest : List Text) :
    consLine c (first ++ rest) = consLine c first ++ rest := by
  cases first with
  | nil => contradiction
  | cons line first => rfl

/-- A line end between two texts adds an empty line to theirs at most. -/
theorem exists_lines_append (ends : isLineEnd c = true) (single : c = '\r' → second.head? ≠ some '\n')
    (first : Text) :
    ∃ blank, (∀ line ∈ blank, line = []) ∧ lines (first ++ c :: second) = lines first ++ blank ++ lines second := by
  fun_induction lines first with
  | case1 => exact ⟨[[]], by simp, lines_end ends single⟩
  | case2 first ih =>
    obtain ⟨blank, empty, parts⟩ := ih
    exact ⟨blank, empty, congrArg ([] :: ·) parts⟩
  | case3 d first notPair here ih =>
    by_cases pair : d = '\r' ∧ first = [] ∧ c = '\n'
    · obtain ⟨rfl, rfl, rfl⟩ := pair
      exact ⟨[], by simp, rfl⟩
    · obtain ⟨blank, empty, parts⟩ := ih
      refine ⟨blank, empty, ?_⟩
      rw [List.cons_append, lines_end here, parts]
      · rfl
      · intro carriage begins
        cases first with
        | nil => exact pair ⟨carriage, rfl, by simpa using begins⟩
        | cons e first => exact notPair first carriage (by simpa using begins)
  | case4 d first notPair other ih =>
    have inner : isLineEnd d = false := eq_false_of_ne_true other
    obtain ⟨blank, empty, parts⟩ := ih
    rw [List.cons_append, lines_cons inner]
    by_cases last : first = []
    · subst last
      refine ⟨[], by simp, ?_⟩
      rw [List.nil_append, lines_end ends single, lines]
      rfl
    · refine ⟨blank, empty, ?_⟩
      rw [parts, List.append_assoc, consLine_append d (lines_ne_nil last), List.append_assoc]

/-- A text has the same lines whichever way carriage returns and line feeds end them. -/
theorem lines_unifyLineEnds (text : Text) : lines (unifyLineEnds text) = lines text := by
  fun_induction unifyLineEnds text with
  | case1 => rfl
  | case2 text ih => exact congrArg ([] :: ·) ih
  | case3 c text notPair ih =>
    by_cases carriage : c = '\r'
    · subst carriage
      have single : text.head? ≠ some '\n' := by
        intro begins
        obtain ⟨rest, rfl⟩ := List.head?_eq_some_iff.mp begins
        exact notPair rest rfl rfl
      rw [if_pos rfl, lines_newline, ih, lines_end rfl fun _ => single]
    · rw [if_neg carriage]
      by_cases ends : isLineEnd c = true
      · rw [lines_end ends fun same => absurd same carriage, lines_end ends fun same => absurd same carriage, ih]
      · rw [lines_cons (eq_false_of_ne_true ends), lines_cons (eq_false_of_ne_true ends), ih]

end OutlineTable.Text
