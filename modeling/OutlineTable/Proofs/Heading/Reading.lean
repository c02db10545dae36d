import OutlineTable.Heading
import OutlineTable.Proofs.Text.Parts

/-! What a heading line is, without the way it is read: stars, blanks and a content, whose last
word may be a group of tags. -/
namespace OutlineTable.Text

/-- A text without the spaces and tabs around it. -/
def trimIndent (text : Text) : Text :=
  dropEndWhile isIndent (text.dropWhile isIndent)

/-- A text that neither begins nor ends with a space or a tab. -/
structure Unindented (text : Text) : Prop where
  first : ∀ c ∈ text.head?, isIndent c = false
  last : ∀ c ∈ text.getLast?, isIndent c = false

theorem trimIndent_surrounded {before text after : Text} (bare : Unindented text)
    (front : ∀ c ∈ before, isIndent c = true) (back : ∀ c ∈ after, isIndent c = true) :
    trimIndent (before ++ text ++ after) = text :=
  cut_surrounded bare.first bare.last front back

theorem trimIndent_of_unindented (bare : Unindented text) : trimIndent text = text := by
  have alone : trimIndent ([] ++ text ++ []) = text := trimIndent_surrounded bare (by simp) (by simp)
  simpa using alone

theorem isIndent_of_isBlank_eq_false (solid : isBlank c = false) : isIndent c = false := by
  by_contra indent
  simp [isBlank_of_isIndent (eq_true_of_ne_false indent)] at solid

end OutlineTable.Text

namespace OutlineTable.Heading

open Text

variable {tags : List Text} {content before line : Text}

/-- The word that tags are read from. -/
def printGroup (tags : List Text) : Text :=
  ':' :: Text.join ':' tags ++ [':']

/-- Tags that a group can hold. -/
structure IsGroup (tags : List Text) : Prop where
  nonempty : tags ≠ []
  tag : ∀ tag ∈ tags, isTag tag = true
  apart : ∀ tag ∈ tags, ':' ∉ tag

theorem split_printGroup (group : IsGroup tags) : (printGroup tags).split ':' = [] :: tags ++ [[]] := by
  rw [printGroup, List.cons_append, split_cons, if_pos rfl, split_append_mark, split_nil,
    split_join group.nonempty group.apart, List.cons_append]

theorem group?_printGroup (group : IsGroup tags) : group? (printGroup tags) = some tags := by
  have all : tags.all isTag = true := List.all_eq_true.mpr group.tag
  simp [group?, split_printGroup group, group.nonempty, all]

theorem join_concat_nil {tags : List Text} (nonempty : tags ≠ []) :
    Text.join ':' (tags ++ [[]]) = Text.join ':' tags ++ [':'] := by
  induction tags with
  | nil => contradiction
  | cons first rest ih =>
    cases rest with
    | nil => simp [Text.join, List.intercalate]
    | cons second rest =>
      have later := ih (List.cons_ne_nil second rest)
      rw [List.cons_append] at later
      simp [join_two, later]

theorem group?_eq_some_iff : group? word = some tags ↔ IsGroup tags ∧ word = printGroup tags := by
  refine ⟨fun read => ?_, fun ⟨group, same⟩ => same ▸ group?_printGroup group⟩
  have whole : Text.join ':' (word.split ':') = word := List.intercalate_splitOn ':'
  have apart {part : Text} (member : part ∈ word.split ':') : ':' ∉ part := not_mem_of_mem_split member
  unfold group? at read
  split at read
  next parts cut =>
    dsimp only at read
    split at read
    next ok =>
      obtain ⟨last, nonempty, all⟩ := ok
      obtain rfl := Option.some.inj read
      have tagged : parts.dropLast ≠ [] := by simpa using nonempty
      obtain ⟨tags, rfl⟩ := List.getLast?_eq_some_iff.mp last
      rw [List.dropLast_concat] at tagged all ⊢
      refine ⟨⟨tagged, List.all_eq_true.mp all, fun tag member => apart ?_⟩, ?_⟩
      · simp [cut, member]
      · obtain ⟨first, rest, rfl⟩ := List.exists_cons_of_ne_nil tagged
        rw [← whole, cut, List.cons_append, join_two, ← List.cons_append, join_concat_nil tagged, printGroup]
        rfl
    next => contradiction
  next => contradiction

/-- A content whose last word is a group of tags. -/
structure EndsInGroup (content before : Text) (tags : List Text) : Prop where
  whole : content = before ++ printGroup tags
  group : IsGroup tags
  boundary : ∀ c ∈ before.getLast?, isIndent c = true

theorem isBlank_of_mem_tag {tag : Text} (valid : isTag tag = true) (member : c ∈ tag) : isBlank c = false := by
  simp only [isTag, Bool.and_eq_true, Bool.not_eq_true', List.any_eq_false] at valid
  exact eq_false_of_ne_true (valid.2 c member)

theorem isBlank_of_mem_printGroup (group : IsGroup tags) (member : c ∈ printGroup tags) : isBlank c = false := by
  have colon : isBlank ':' = false := rfl
  rcases List.mem_cons.mp member with rfl | member
  · exact colon
  rcases List.mem_append.mp member with inside | last
  · rcases mem_join inside with rfl | ⟨tag, found, inside⟩
    · exact colon
    · exact isBlank_of_mem_tag (group.tag tag found) inside
  · exact List.mem_singleton.mp last ▸ colon

theorem unindented_printGroup (tags : List Text) : Unindented (printGroup tags) where
  first := by simp [printGroup, isIndent]
  last := by simp [printGroup, List.getLast?_cons, isIndent]

theorem word_of_endsInGroup (ends : EndsInGroup content before tags) :
    content.takeEndWhile (!isIndent ·) = printGroup tags ∧ content.dropEndWhile (!isIndent ·) = before := by
  have solid : ∀ c ∈ printGroup tags, (!isIndent c) = true := fun c member => by
    simp [isIndent_of_isBlank_eq_false (isBlank_of_mem_printGroup ends.group member)]
  have stop : ∀ c ∈ before.getLast?, (!isIndent c) = false := fun c last => by
    simp [ends.boundary c last]
  rw [ends.whole]
  exact ⟨takeEndWhile_append solid stop, dropEndWhile_append solid stop⟩

theorem ofContent_of_endsInGroup (ends : EndsInGroup content before tags) :
    ofContent content = ⟨before.trimEnd, TagSet.ofList tags⟩ := by
  obtain ⟨word, rest⟩ := word_of_endsInGroup ends
  simp only [ofContent, word, rest, group?_printGroup ends.group]

/-- A content is read without tags where it does not end in a group of them. -/
theorem ofContent_of_plain (plain : ∀ before tags, ¬EndsInGroup content before tags) :
    ofContent content = ⟨content.trimEnd, TagSet.empty⟩ := by
  cases read : group? (content.takeEndWhile (!isIndent ·)) with
  | none => simp only [ofContent, read]
  | some tags =>
    obtain ⟨group, word⟩ := group?_eq_some_iff.mp read
    have boundary : ∀ c ∈ (content.dropEndWhile (!isIndent ·)).getLast?, isIndent c = true := fun c last => by
      simpa using getLast?_dropEndWhile (!isIndent ·) content c last
    exact absurd ⟨by rw [← word, dropEndWhile_append_takeEndWhile], group, boundary⟩
      (plain (content.dropEndWhile (!isIndent ·)) tags)

/-- One star or more, blanks, and the content of a heading. -/
def Opens (line content : Text) : Prop :=
  ∃ stars blanks : Text, stars ≠ [] ∧ (∀ c ∈ stars, c = '*') ∧ blanks ≠ [] ∧
    (∀ c ∈ blanks, isIndent c = true) ∧ line = stars ++ blanks ++ content

theorem ofLine?_of_opens (opens : Opens (body line) content) (oneLine : '\n' ∉ body line) :
    ofLine? line = some (ofContent content.trimIndent) := by
  obtain ⟨stars, blanks, starred, allStars, indented, allBlanks, whole⟩ := opens
  obtain ⟨first, later, rfl⟩ := List.exists_cons_of_ne_nil indented
  have opening : first ≠ '*' := by
    rintro rfl
    exact absurd (allBlanks '*' List.mem_cons_self) (by decide)
  have rest : (body line).dropWhile (· == '*') = first :: later ++ content := by
    rw [whole, List.append_assoc]
    apply dropWhile_append_of_head
    · simpa using allStars
    · simpa using opening
  have left : (first :: later ++ content).dropWhile isIndent = content.dropWhile isIndent :=
    List.dropWhile_append_of_pos allBlanks
  have shorter : (content.dropWhile isIndent).length ≤ content.length :=
    (List.dropWhile_suffix isIndent).length_le
  have some := List.length_pos_iff.mpr starred
  have same : ¬((first :: later ++ content).length = (body line).length ∨
      (content.dropWhile isIndent).length = (first :: later ++ content).length) := by
    rw [whole]
    simp only [List.length_append, List.length_cons]
    omega
  simp only [ofLine?, rest, left, same, List.contains_iff_mem, oneLine, if_false, Text.trimIndent]

/-- The heading lines are those that open a content, whatever the content is. -/
theorem ofLine?_eq_some_iff : ofLine? line = some heading ↔
    ∃ content, Opens (body line) content ∧ '\n' ∉ body line ∧ ofContent content.trimIndent = heading := by
  refine ⟨fun read => ?_, fun ⟨content, opens, oneLine, same⟩ => same ▸ ofLine?_of_opens opens oneLine⟩
  simp only [ofLine?] at read
  split at read
  next => contradiction
  next oneLine =>
    split at read
    next => contradiction
    next opened =>
      obtain ⟨starred, indented⟩ := not_or.mp opened
      have stars := List.takeWhile_append_dropWhile (p := (· == '*')) (l := body line)
      have blanks := List.takeWhile_append_dropWhile (p := isIndent) (l := (body line).dropWhile (· == '*'))
      refine ⟨((body line).dropWhile (· == '*')).dropWhile isIndent,
        ⟨(body line).takeWhile (· == '*'), ((body line).dropWhile (· == '*')).takeWhile isIndent, ?_, ?_, ?_, ?_, ?_⟩,
        by simpa using oneLine, ?_⟩
      · intro none
        rw [none, List.nil_append] at stars
        exact starred (congrArg List.length stars)
      · exact fun c member => by simpa using List.mem_takeWhile_imp member
      · intro none
        rw [none, List.nil_append] at blanks
        exact indented (congrArg List.length blanks)
      · exact fun c member => List.mem_takeWhile_imp member
      · rw [List.append_assoc, blanks, stars]
      · have again : (((body line).dropWhile (· == '*')).dropWhile isIndent).dropWhile isIndent =
            ((body line).dropWhile (· == '*')).dropWhile isIndent := List.dropWhile_idempotent isIndent _
        rw [Text.trimIndent, again]
        exact Option.some.inj read

end OutlineTable.Heading
