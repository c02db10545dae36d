import Mathlib.Algebra.GroupWithZero.Nat
import Mathlib.Data.List.DropRight
import OutlineTable.Text.Basic

/-! Parts of a text. Splitting undoes joining where no part holds the mark, and trimming
undoes blanks put around a text that begins and ends with none. -/
namespace OutlineTable.Text

@[simp] theorem split_nil (mark : Char) : split mark [] = [[]] := List.splitOn_nil mark

theorem split_ne_nil (mark : Char) (text : Text) : split mark text ≠ [] :=
  List.splitOn_ne_nil mark text

theorem split_cons (mark c : Char) (text : Text) :
    split mark (c :: text) =
      if c = mark then [] :: split mark text else (split mark text).modifyHead (c :: ·) := by
  simp [split, List.splitOn_cons_eq_if_modifyHead]

theorem split_join {parts : List Text} (nonempty : parts ≠ []) (apart : ∀ part ∈ parts, mark ∉ part) :
    split mark (join mark parts) = parts :=
  List.splitOn_intercalate mark apart nonempty

theorem split_append_mark (first second : Text) :
    split mark (first ++ mark :: second) = split mark first ++ split mark second :=
  List.splitOn_append_cons_self first second

theorem split_of_not_mem (apart : mark ∉ text) : split mark text = [text] :=
  List.splitOn_eq_singleton apart

/-- A character of a part is a character of the text, and not the mark. -/
theorem mem_of_mem_split (member : part ∈ split mark text) (inside : c ∈ part) :
    c ∈ text ∧ c ≠ mark := by
  induction text generalizing part with
  | nil =>
    rw [split_nil, List.mem_singleton] at member
    simp [member] at inside
  | cons d text ih =>
    obtain ⟨first, rest, parts⟩ := List.exists_cons_of_ne_nil (split_ne_nil mark text)
    have later (other : Text) (found : other ∈ rest) (within : c ∈ other) : c ∈ d :: text ∧ c ≠ mark := by
      have tail := ih (parts ▸ List.mem_cons_of_mem first found) within
      exact ⟨List.mem_cons_of_mem d tail.1, tail.2⟩
    rw [split_cons, parts] at member
    have beginning (within : c ∈ first) : c ∈ text ∧ c ≠ mark := ih (parts ▸ List.mem_cons_self) within
    split at member
    next =>
      rcases List.mem_cons.mp member with rfl | found
      · simp at inside
      · rcases List.mem_cons.mp found with rfl | found
        · exact ⟨List.mem_cons_of_mem d (beginning inside).1, (beginning inside).2⟩
        · exact later part found inside
    next different =>
      rcases List.mem_cons.mp member with rfl | found
      · rcases List.mem_cons.mp inside with rfl | within
        · exact ⟨List.mem_cons_self, different⟩
        · exact ⟨List.mem_cons_of_mem d (beginning within).1, (beginning within).2⟩
      · exact later part found inside

theorem not_mem_of_mem_split (member : part ∈ split mark text) : mark ∉ part :=
  fun inside => (mem_of_mem_split member inside).2 rfl

/-- A character of a joined text is the mark or stands in a part. -/
theorem mem_join {parts : List Text} (member : c ∈ join mark parts) :
    c = mark ∨ ∃ part ∈ parts, c ∈ part := by
  induction parts with
  | nil => simp [join] at member
  | cons first rest ih =>
    cases rest with
    | nil =>
      have inside : c ∈ first := by simpa [join] using member
      exact .inr ⟨first, List.mem_cons_self, inside⟩
    | cons second rest =>
      rw [join_two, List.mem_append, List.mem_cons] at member
      rcases member with inside | same | tail
      · exact .inr ⟨first, List.mem_cons_self, inside⟩
      · exact .inl same
      · rcases ih tail with same | ⟨part, found, inside⟩
        · exact .inl same
        · exact .inr ⟨part, List.mem_cons_of_mem first found, inside⟩

/-- A joined text has the characters of its parts and a mark between each two. -/
theorem length_join (mark : Char) {parts : List Text} (some : parts ≠ []) :
    (join mark parts).length + 1 = (parts.map (·.length + 1)).sum := by
  induction parts with
  | nil => contradiction
  | cons first rest ih =>
    cases rest with
    | nil => simp [join]
    | cons second rest =>
      have later := ih (List.cons_ne_nil _ _)
      rw [join_two, List.map_cons, List.sum_cons, ← later]
      simp only [List.length_append, List.length_cons]
      omega

/-- Dropping stops in front of the first character that is not to be dropped. -/
theorem dropWhile_append_of_head {p : Char → Bool} {before rest : Text}
    (front : ∀ c ∈ before, p c = true) (boundary : ∀ c ∈ rest.head?, p c = false) :
    (before ++ rest).dropWhile p = rest := by
  rw [List.dropWhile_append_of_pos front]
  cases rest with
  | nil => rfl
  | cons c rest => exact List.dropWhile_cons_of_neg (by simp [boundary c rfl])

/-- What is cut from the end is all that may be cut, up to a character that may not. -/
theorem dropEndWhile_append {p : Char → Bool} {before word : Text} (inside : ∀ c ∈ word, p c = true)
    (boundary : ∀ c ∈ before.getLast?, p c = false) : dropEndWhile p (before ++ word) = before := by
  rw [dropEndWhile, List.reverse_append, dropWhile_append_of_head, List.reverse_reverse]
  · simpa using inside
  · rw [List.head?_reverse]
    exact boundary

theorem takeEndWhile_append {p : Char → Bool} {before word : Text} (inside : ∀ c ∈ word, p c = true)
    (boundary : ∀ c ∈ before.getLast?, p c = false) : takeEndWhile p (before ++ word) = word := by
  have whole := dropEndWhile_append_takeEndWhile p (before ++ word)
  rw [dropEndWhile_append inside boundary] at whole
  exact List.append_cancel_left whole

theorem of_mem_takeEndWhile {p : Char → Bool} (member : c ∈ takeEndWhile p text) : p c = true :=
  List.mem_rtakeWhile_imp member

theorem head?_dropWhile (p : Char → Bool) (text : Text) : ∀ c ∈ (text.dropWhile p).head?, p c = false := by
  intro c begins
  have stop := List.head?_dropWhile_not p text
  rw [Option.mem_def.mp begins] at stop
  simpa using stop

/-- What is left of a text that was cut at both ends begins where the text did. -/
theorem head?_of_isPrefix_dropWhile {p : Char → Bool} {front text : Text} (within : front <+: text.dropWhile p) :
    ∀ c ∈ front.head?, p c = false := by
  intro c begins
  obtain ⟨rest, parts⟩ := within
  apply head?_dropWhile p text
  rw [← parts, List.head?_append]
  exact Option.or_eq_some_iff.mpr (.inl begins)

theorem getLast?_dropEndWhile (p : Char → Bool) (text : Text) :
    ∀ c ∈ (dropEndWhile p text).getLast?, p c = false := by
  intro c ends
  rw [dropEndWhile, List.getLast?_reverse] at ends
  exact head?_dropWhile p text.reverse c ends

/-- What stands around a text is cut off where the text begins and ends with what stays. -/
theorem cut_surrounded {p : Char → Bool} {before text after : Text}
    (first : ∀ c ∈ text.head?, p c = false) (last : ∀ c ∈ text.getLast?, p c = false)
    (front : ∀ c ∈ before, p c = true) (back : ∀ c ∈ after, p c = true) :
    dropEndWhile p ((before ++ text ++ after).dropWhile p) = text := by
  by_cases none : text = []
  · subst none
    have cut : ∀ c ∈ before ++ after, p c = true := by
      intro c member
      rcases List.mem_append.mp member with member | member
      · exact front c member
      · exact back c member
    simp [List.dropWhile_eq_nil_iff.mpr cut, dropEndWhile]
  · have opened : (before ++ (text ++ after)).dropWhile p = text ++ after := by
      apply dropWhile_append_of_head front
      rw [List.head?_append_of_ne_nil _ none]
      exact first
    rw [List.append_assoc, opened, dropEndWhile_append back last]

/-- A text that neither begins nor ends with a blank. -/
structure Trimmed (text : Text) : Prop where
  first : ∀ c ∈ text.head?, isBlank c = false
  last : ∀ c ∈ text.getLast?, isBlank c = false

theorem trimEnd_isPrefix (text : Text) : trimEnd text <+: text :=
  List.rdropWhile_prefix isBlank text

theorem mem_of_mem_trim (member : c ∈ trim text) : c ∈ text :=
  (List.dropWhile_suffix isBlank).subset ((trimEnd_isPrefix _).subset member)

theorem trimmed_nil : Trimmed [] := ⟨by simp, by simp⟩

theorem trimmed_trim (text : Text) : Trimmed (trim text) where
  first := head?_of_isPrefix_dropWhile (trimEnd_isPrefix (text.dropWhile isBlank))
  last := getLast?_dropEndWhile isBlank (text.dropWhile isBlank)

/-- Trimming takes off the blanks around a trimmed text. -/
theorem trim_surrounded {before text after : Text} (trimmed : Trimmed text)
    (front : ∀ c ∈ before, isBlank c = true) (back : ∀ c ∈ after, isBlank c = true) :
    trim (before ++ text ++ after) = text :=
  cut_surrounded trimmed.first trimmed.last front back

theorem trim_of_trimmed (trimmed : Trimmed text) : trim text = text := by
  have bare : trim ([] ++ text ++ []) = text := trim_surrounded trimmed (by simp) (by simp)
  simpa using bare

end OutlineTable.Text
