import Mathlib.Data.List.Sort
import OutlineTable.Heading
import OutlineTable.Proofs.Heading.Reading
import OutlineTable.Proofs.Text.Lines

/-! Headings written out and read again. A heading reads back unless it has no tags and its text
ends in a group of them; such a text comes from a line where other white space than spaces and
tabs stands behind the group. -/
namespace OutlineTable

namespace TagSet

/-- Sets with the same tags are the same set. -/
theorem eq_of_mem_iff {first second : TagSet} (same : ∀ tag, tag ∈ first.tags ↔ tag ∈ second.tags) :
    first = second := by
  have antisymmetric : Std.Antisymm fun a b : Text => a.precedes b = true :=
    ⟨fun a b ab ba => by simpa [Text.precedes_irrefl] using Text.precedes_trans ab ba⟩
  have irreflexive : Std.Irrefl fun a b : Text => a.precedes b = true :=
    ⟨fun a => by simp [Text.precedes_irrefl]⟩
  obtain ⟨tags, ascending⟩ := first
  obtain ⟨others, sorted⟩ := second
  obtain rfl : tags = others := List.Pairwise.eq_of_mem_iff ascending sorted same
  rfl

/-- A set is made of its own tags, in whatever order. -/
theorem ofList_of_perm {tags : List Text} {set : TagSet} (order : tags.Perm set.tags) : ofList tags = set :=
  eq_of_mem_iff fun _ => mem_ofList.trans order.mem_iff

theorem ofList_ne_empty {tags : List Text} (nonempty : tags ≠ []) : ofList tags ≠ empty := by
  intro none
  obtain ⟨first, rest, rfl⟩ := List.exists_cons_of_ne_nil nonempty
  have member : first ∈ (ofList (first :: rest)).tags := mem_ofList.mpr List.mem_cons_self
  simp [none, empty] at member

end TagSet

namespace Heading

open Text

variable {tags : List Text} {content before line : Text} {heading : Heading}

def writtenTags (tags : List Text) : Text :=
  if tags.isEmpty then [] else ' ' :: printGroup tags

/-- A heading as a line: a star, its text, and its tags in a group, in some order. -/
def Writes (heading : Heading) (line : Text) : Prop :=
  ∃ tags : List Text, tags.Perm heading.tags.tags ∧ line = '*' :: ' ' :: heading.text ++ writtenTags tags

/-- A heading that a line can hold. -/
structure Printable (heading : Heading) : Prop where
  oneLine : OneLine heading.text
  first : ∀ c ∈ heading.text.head?, isIndent c = false
  last : ∀ c ∈ heading.text.getLast?, isBlank c = false
  group : heading.tags ≠ TagSet.empty → IsGroup heading.tags.tags

theorem eq_of_tags_eq_nil {set : TagSet} (none : set.tags = []) : set = TagSet.empty := by
  obtain ⟨tags, ascending⟩ := set
  subst none
  rfl

theorem isGroup_ofList (group : IsGroup tags) : IsGroup (TagSet.ofList tags).tags where
  nonempty none := TagSet.ofList_ne_empty group.nonempty (eq_of_tags_eq_nil none)
  tag tag member := group.tag tag (TagSet.mem_ofList.mp member)
  apart tag member := group.apart tag (TagSet.mem_ofList.mp member)

/-- The text of a heading is the beginning of its content, without the white space that ends it. -/
theorem ofContent_cases (content : Text) :
    (∃ before tags, EndsInGroup content before tags ∧
      ofContent content = ⟨before.trimEnd, TagSet.ofList tags⟩) ∨
    (∀ before tags, ¬EndsInGroup content before tags) ∧
      ofContent content = ⟨content.trimEnd, TagSet.empty⟩ := by
  by_cases ends : ∃ before tags, EndsInGroup content before tags
  · obtain ⟨before, tags, ends⟩ := ends
    exact .inl ⟨before, tags, ends, ofContent_of_endsInGroup ends⟩
  · have plain : ∀ before tags, ¬EndsInGroup content before tags :=
      fun before tags found => ends ⟨before, tags, found⟩
    exact .inr ⟨plain, ofContent_of_plain plain⟩

theorem printable_trimEnd {set : TagSet} (within : before <+: content.trimIndent) (oneLine : OneLine content)
    (group : set ≠ TagSet.empty → IsGroup set.tags) : Printable ⟨before.trimEnd, set⟩ where
  oneLine c member := by
    have inside : c ∈ content.dropWhile isIndent :=
      (List.rdropWhile_prefix isIndent _).subset (within.subset ((trimEnd_isPrefix before).subset member))
    exact oneLine c ((List.dropWhile_suffix isIndent).subset inside)
  first := head?_of_isPrefix_dropWhile
    ((trimEnd_isPrefix before).trans (within.trans (List.rdropWhile_prefix isIndent _)))
  last := getLast?_dropEndWhile isBlank before
  group := group

theorem printable_of_opens (opens : Opens line content) (oneLine : OneLine line) :
    Printable (ofContent content.trimIndent) := by
  obtain ⟨stars, blanks, -, -, -, -, whole⟩ := opens
  have inner : OneLine content := fun c member => oneLine c (by simp [whole, member])
  rcases ofContent_cases content.trimIndent with ⟨before, tags, ends, read⟩ | ⟨-, read⟩
  · rw [read]
    exact printable_trimEnd ⟨_, ends.whole.symm⟩ inner fun _ => isGroup_ofList ends.group
  · rw [read]
    exact printable_trimEnd List.prefix_rfl inner fun tagged => absurd rfl tagged

theorem body_of_newline_not_mem (bare : '\n' ∉ line) : body line = line := by
  have other : line.getLast? ≠ some '\n' := fun last => bare (List.mem_of_getLast? last)
  rw [body, if_neg other]

theorem body_of_oneLine (oneLine : OneLine line) : body line = line :=
  body_of_newline_not_mem (newline_not_mem_of_oneLine oneLine)

theorem ofLine?_of_oneLine (opens : Opens line content) (oneLine : OneLine line) :
    ofLine? line = some (ofContent content.trimIndent) := by
  have bare := body_of_oneLine oneLine
  exact ofLine?_of_opens (bare.symm ▸ opens) (bare.symm ▸ newline_not_mem_of_oneLine oneLine)

theorem opens_of_ofLine? (read : ofLine? line = some heading) (oneLine : OneLine line) :
    ∃ content, Opens line content ∧ ofContent content.trimIndent = heading := by
  obtain ⟨content, opens, -, same⟩ := ofLine?_eq_some_iff.mp read
  exact ⟨content, body_of_oneLine oneLine ▸ opens, same⟩

theorem printable_of_ofLine? (read : ofLine? line = some heading) (oneLine : OneLine line) :
    Printable heading := by
  obtain ⟨content, opens, rfl⟩ := opens_of_ofLine? read oneLine
  exact printable_of_opens opens oneLine

theorem IsGroup.perm (group : IsGroup tags) (order : others.Perm tags) : IsGroup others where
  nonempty none := group.nonempty (List.Perm.nil_eq (none ▸ order)).symm
  tag tag member := group.tag tag (order.subset member)
  apart tag member := group.apart tag (order.subset member)

theorem oneLine_writtenTags (group : tags ≠ [] → IsGroup tags) : OneLine (writtenTags tags) := by
  by_cases none : tags = []
  · simp [none, writtenTags, OneLine]
  · intro c member
    rw [writtenTags, if_neg (by simpa using none)] at member
    rcases List.mem_cons.mp member with rfl | inside
    · rfl
    · by_contra ends
      have blank := isBlank_of_isLineEnd (eq_true_of_ne_false ends)
      rw [isBlank_of_mem_printGroup (group none) inside] at blank
      contradiction

theorem isGroup_of_perm (printable : Printable heading) (order : tags.Perm heading.tags.tags)
    (tagged : tags ≠ []) : IsGroup tags := by
  refine (printable.group fun none => tagged ?_).perm order
  rw [none] at order
  exact order.eq_nil

theorem ne_nil_of_writes (writes : heading.Writes line) : line ≠ [] := by
  obtain ⟨tags, -, rfl⟩ := writes
  exact List.cons_ne_nil _ _

theorem oneLine_of_writes (printable : Printable heading) (writes : heading.Writes line) : OneLine line := by
  obtain ⟨tags, order, rfl⟩ := writes
  intro c member
  simp only [List.cons_append, List.mem_cons, List.mem_append] at member
  rcases member with rfl | rfl | inside | tagged
  · rfl
  · rfl
  · exact printable.oneLine c inside
  · exact oneLine_writtenTags (isGroup_of_perm printable order) c tagged

theorem opens_written (content : Text) : Opens ('*' :: ' ' :: content) content :=
  ⟨['*'], [' '], by simp, by simp, by simp, by simp [isIndent], rfl⟩

/-- A content that was written with tags ends in them, behind the text of the heading. -/
theorem endsInGroup_written (printable : Printable heading) (group : IsGroup tags) :
    ∃ before, before.trimEnd = heading.text ∧
      EndsInGroup (heading.text ++ writtenTags tags).trimIndent before tags := by
  have written : writtenTags tags = ' ' :: printGroup tags := if_neg (by simpa using group.nonempty)
  have bounds := unindented_printGroup tags
  by_cases bare : heading.text = []
  · have cut : trimIndent ([' '] ++ printGroup tags ++ []) = printGroup tags :=
      trimIndent_surrounded bounds (by simp [isIndent]) (by simp)
    exact ⟨[], bare.symm, by simpa [bare, written] using cut, group, by simp⟩
  · have whole : heading.text ++ ' ' :: printGroup tags = (heading.text ++ [' ']) ++ printGroup tags := by simp
    have outer : Unindented (heading.text ++ ' ' :: printGroup tags) := by
      constructor
      · rw [List.head?_append_of_ne_nil _ bare]
        exact printable.first
      · rw [whole, List.getLast?_append_of_ne_nil _ (by simp [printGroup])]
        exact bounds.last
    have space : isBlank ' ' = true := rfl
    refine ⟨heading.text ++ [' '], ?_, ?_, group, by simp [isIndent]⟩
    · exact dropEndWhile_append (by simp [space]) printable.last
    · rw [written, ← whole, trimIndent_of_unindented outer]

/-- A heading without tags whose text would be read with some. -/
def Masked (heading : Heading) : Prop :=
  heading.tags = TagSet.empty ∧ ∃ before tags, EndsInGroup heading.text before tags

/-- A heading as it is read once it was written. -/
def reread (heading : Heading) : Heading :=
  if heading.tags.tags.isEmpty then ofContent heading.text else heading

theorem ofLine?_of_writes (printable : Printable heading) (writes : heading.Writes line) :
    ofLine? line = some heading.reread := by
  have oneLine := oneLine_of_writes printable writes
  obtain ⟨tags, order, rfl⟩ := writes
  have opens : Opens ('*' :: ' ' :: heading.text ++ writtenTags tags) (heading.text ++ writtenTags tags) :=
    opens_written _
  rw [ofLine?_of_oneLine opens oneLine, Option.some_inj, reread]
  by_cases untagged : heading.tags.tags = []
  · have bare : Unindented heading.text :=
      ⟨printable.first, fun c ends => isIndent_of_isBlank_eq_false (printable.last c ends)⟩
    have none : tags = [] := (untagged ▸ order).eq_nil
    have nothing : writtenTags [] = [] := rfl
    rw [none, nothing, List.append_nil, trimIndent_of_unindented bare, if_pos (by simp [untagged])]
  · have tagged : tags ≠ [] := by
      rintro rfl
      exact untagged order.nil_eq.symm
    obtain ⟨before, text, ends⟩ := endsInGroup_written printable (isGroup_of_perm printable order tagged)
    rw [ofContent_of_endsInGroup ends, text, TagSet.ofList_of_perm order, if_neg (by simp [untagged])]

theorem reread_eq_iff (printable : Printable heading) : heading.reread = heading ↔ ¬heading.Masked := by
  by_cases untagged : heading.tags = TagSet.empty
  · have none : heading.tags.tags.isEmpty := by simp [untagged, TagSet.empty]
    rw [reread, if_pos none]
    rcases ofContent_cases heading.text with ⟨before, tags, ends, read⟩ | ⟨plain, read⟩
    · refine iff_of_false (fun same => ?_) (fun unmasked => unmasked ⟨untagged, before, tags, ends⟩)
      have found : TagSet.ofList tags = TagSet.empty := by rw [← untagged, ← same, read]
      exact TagSet.ofList_ne_empty ends.group.nonempty found
    · have bare : (heading.text ++ []).trimEnd = heading.text := dropEndWhile_append (by simp) printable.last
      rw [List.append_nil] at bare
      refine iff_of_true (by rw [read, bare, ← untagged]) ?_
      rintro ⟨-, before, tags, ends⟩
      exact plain before tags ends
  · have some : ¬heading.tags.tags.isEmpty := fun none => untagged (eq_of_tags_eq_nil (by simpa using none))
    exact iff_of_true (by rw [reread, if_neg some]) fun masked => untagged masked.1

end Heading

end OutlineTable
