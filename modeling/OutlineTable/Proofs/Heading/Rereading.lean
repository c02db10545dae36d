import Mathlib.Data.List.Forall2
import OutlineTable.Proofs.Heading.Printing

/-! Outlines written out from their headings and read again. The headings come back the same
exactly when no heading line has other white space than spaces and tabs behind a group of tags:
the group is not read there, but the white space is left out of the heading. -/
namespace OutlineTable

namespace Heading

open Text

variable {tags : List Text} {content before line : Text} {heading : Heading}

/-- A heading line with other white space than spaces and tabs behind a group of tags. -/
def HidesGroup (line : Text) : Prop :=
  ∃ content before tags after, Opens line (content ++ after) ∧ EndsInGroup content before tags ∧
    (∀ c ∈ after, isBlank c = true) ∧ ∃ c ∈ after, isIndent c = false

theorem EndsInGroup.prepend (ends : EndsInGroup content before tags) (indents : ∀ c ∈ lead, isIndent c = true) :
    EndsInGroup (lead ++ content) (lead ++ before) tags where
  whole := by simp [ends.whole]
  group := ends.group
  boundary c last := by
    rw [List.getLast?_append] at last
    rcases Option.or_eq_some_iff.mp last with inner | ⟨-, outer⟩
    · exact ends.boundary c inner
    · exact indents c (List.mem_of_getLast? outer)

/-- Spaces and tabs before the content can be left out. -/
theorem EndsInGroup.dropIndent (ends : EndsInGroup content before tags) :
    EndsInGroup (before.dropWhile isIndent ++ printGroup tags) (before.dropWhile isIndent) tags where
  whole := rfl
  group := ends.group
  boundary c last := by
    have longer : c ∈ (before.takeWhile isIndent ++ before.dropWhile isIndent).getLast? := by
      rw [List.getLast?_append]
      exact Option.or_eq_some_iff.mpr (.inl last)
    rw [List.takeWhile_append_dropWhile] at longer
    exact ends.boundary c longer

theorem getLast?_of_endsInGroup (ends : EndsInGroup content before tags) : content.getLast? = some ':' := by
  simp [ends.whole, printGroup, List.getLast?_append, List.getLast?_cons]

theorem unindented_trimIndent (content : Text) : Unindented content.trimIndent where
  first := head?_of_isPrefix_dropWhile (List.rdropWhile_prefix isIndent _)
  last := getLast?_dropEndWhile isIndent _

/-- What is cut from around a content is put back. -/
theorem exists_surrounding (content : Text) : ∃ lead trail : Text, (∀ c ∈ lead, isIndent c = true) ∧
    (∀ c ∈ trail, isIndent c = true) ∧ content = lead ++ content.trimIndent ++ trail := by
  refine ⟨content.takeWhile isIndent, takeEndWhile isIndent (content.dropWhile isIndent),
    fun c => List.mem_takeWhile_imp, fun c => of_mem_takeEndWhile, ?_⟩
  rw [List.append_assoc, trimIndent, dropEndWhile_append_takeEndWhile, List.takeWhile_append_dropWhile]

theorem hidesGroup_of_masked (opens : Opens line content) (masked : (ofContent content.trimIndent).Masked) :
    HidesGroup line := by
  rcases ofContent_cases content.trimIndent with ⟨before, tags, ends, read⟩ | ⟨plain, read⟩
  · have none : TagSet.ofList tags = TagSet.empty := by simpa [read] using masked.1
    exact absurd none (TagSet.ofList_ne_empty ends.group.nonempty)
  · obtain ⟨-, before, tags, ends⟩ := masked
    rw [read] at ends
    obtain ⟨lead, trail, leading, trailing, whole⟩ := exists_surrounding content
    have parts : content.trimIndent.trimEnd ++ content.trimIndent.takeEndWhile isBlank = content.trimIndent :=
      dropEndWhile_append_takeEndWhile isBlank content.trimIndent
    have cut : content = lead ++ content.trimIndent.trimEnd ++
        (content.trimIndent.takeEndWhile isBlank ++ trail) := by
      rw [List.append_assoc, ← List.append_assoc _ _ trail, parts, ← List.append_assoc]
      exact whole
    refine ⟨_, _, tags, _, cut ▸ opens, ends.prepend leading, ?_, ?_⟩
    · intro c member
      rcases List.mem_append.mp member with inner | outer
      · exact of_mem_takeEndWhile inner
      · exact isBlank_of_isIndent (trailing c outer)
    · cases last : (content.trimIndent.takeEndWhile isBlank).getLast? with
      | none =>
        -- Without white space of its own the content would end in the group itself.
        rw [List.getLast?_eq_none_iff.mp last, List.append_nil] at parts
        exact absurd (parts ▸ ends) (plain before tags)
      | some c =>
        have final : content.trimIndent.getLast? = some c :=
          (congrArg List.getLast? parts).symm.trans (by rw [List.getLast?_append, last]; rfl)
        exact ⟨c, List.mem_append_left _ (List.mem_of_getLast? last),
          (unindented_trimIndent content).last c final⟩

/-- The group comes to light once the white space behind it is gone. -/
theorem masked_of_blanks (ends : EndsInGroup content before tags) (blank : ∀ c ∈ after, isBlank c = true)
    (nonempty : after ≠ []) : (ofContent (content ++ after)).Masked := by
  have colon : isBlank ':' = false := rfl
  have final : ∀ c ∈ content.getLast?, isBlank c = false := by
    simp [getLast?_of_endsInGroup ends, colon]
  have plain : ∀ before tags, ¬EndsInGroup (content ++ after) before tags := by
    intro _ _ found
    have last := getLast?_of_endsInGroup found
    rw [List.getLast?_append_of_ne_nil _ nonempty] at last
    have white := blank ':' (List.mem_of_getLast? last)
    contradiction
  rw [ofContent_of_plain plain]
  refine ⟨rfl, before, tags, ?_⟩
  rwa [trimEnd, dropEndWhile_append blank final]

theorem masked_of_hidesGroup (hides : HidesGroup line) :
    ∃ content, Opens line content ∧ (ofContent content.trimIndent).Masked := by
  obtain ⟨content, before, tags, after, opens, ends, blank, c, inside, other⟩ := hides
  refine ⟨_, opens, ?_⟩
  have parts := List.takeWhile_append_dropWhile (p := isIndent) (l := before)
  have tail := dropEndWhile_append_takeEndWhile isIndent after
  have nonempty : after.dropEndWhile isIndent ≠ [] := by
    intro none
    rw [none, List.nil_append] at tail
    rw [← tail] at inside
    simp [of_mem_takeEndWhile inside] at other
  have bare : Unindented (before.dropWhile isIndent ++ printGroup tags ++ after.dropEndWhile isIndent) := by
    constructor
    · rw [List.append_assoc]
      intro c begins
      rw [List.head?_append] at begins
      rcases Option.or_eq_some_iff.mp begins with inner | ⟨-, outer⟩
      · exact head?_dropWhile isIndent before c inner
      · exact (unindented_printGroup tags).first c (by simpa [printGroup] using outer)
    · rw [List.getLast?_append_of_ne_nil _ nonempty]
      exact getLast?_dropEndWhile isIndent after
  have whole : content ++ after = before.takeWhile isIndent ++
      (before.dropWhile isIndent ++ printGroup tags ++ after.dropEndWhile isIndent) ++
      after.takeEndWhile isIndent := by
    rw [List.append_assoc, List.append_assoc _ _ (takeEndWhile _ _), tail, ← List.append_assoc,
      ← List.append_assoc, parts, ends.whole]
  rw [whole, trimIndent_surrounded bare (fun c => List.mem_takeWhile_imp) (fun c => of_mem_takeEndWhile)]
  exact masked_of_blanks ends.dropIndent (fun c member => blank c ((List.rdropWhile_prefix isIndent after).subset member))
    nonempty

theorem masked_iff (read : ofLine? line = some heading) (oneLine : OneLine line) :
    heading.Masked ↔ HidesGroup line := by
  constructor
  · obtain ⟨content, opens, rfl⟩ := opens_of_ofLine? read oneLine
    exact hidesGroup_of_masked opens
  · intro hides
    obtain ⟨content, opens, masked⟩ := masked_of_hidesGroup hides
    rw [ofLine?_of_oneLine opens oneLine] at read
    exact Option.some.inj read ▸ masked

end Heading

namespace Outline

open Text

variable {written : List Heading} {lines : List Text} {outline : Text}

theorem exists_line_of_mem_headings (member : heading ∈ headings outline) :
    ∃ line ∈ outline.lines, OneLine line ∧ Heading.ofLine? line = some heading := by
  obtain ⟨line, inside, read⟩ := List.mem_filterMap.mp member
  exact ⟨line, inside, oneLine_of_mem_lines inside, read⟩

theorem printable_of_mem_headings (member : heading ∈ headings outline) : heading.Printable := by
  obtain ⟨line, -, oneLine, read⟩ := exists_line_of_mem_headings member
  exact Heading.printable_of_ofLine? read oneLine

theorem oneLine_of_mem_writes (printable : ∀ heading ∈ written, heading.Printable)
    (writes : List.Forall₂ Heading.Writes written lines) : ∀ line ∈ lines, OneLine line ∧ line ≠ [] := by
  induction writes with
  | nil => simp
  | cons wrote later ih =>
    intro line member
    rcases List.mem_cons.mp member with rfl | inside
    · exact ⟨Heading.oneLine_of_writes (printable _ List.mem_cons_self) wrote, Heading.ne_nil_of_writes wrote⟩
    · exact ih (fun heading member => printable heading (List.mem_cons_of_mem _ member)) line inside

/-- Every written heading is a heading again, if not the same one. -/
theorem headings_of_writes (printable : ∀ heading ∈ written, heading.Printable)
    (writes : List.Forall₂ Heading.Writes written lines) :
    headings (Text.join '\n' lines) = written.map Heading.reread := by
  have oneLine := oneLine_of_mem_writes printable writes
  rw [headings, lines_join (fun line member => (oneLine line member).1) fun line member => (oneLine line member).2]
  clear oneLine
  induction writes with
  | nil => rfl
  | cons wrote later ih =>
    have here := Heading.ofLine?_of_writes (printable _ List.mem_cons_self) wrote
    rw [List.filterMap_cons_some here, List.map_cons, ih fun heading member =>
      printable heading (List.mem_cons_of_mem _ member)]

theorem headings_eq_iff (printable : ∀ heading ∈ written, heading.Printable)
    (writes : List.Forall₂ Heading.Writes written lines) :
    headings (Text.join '\n' lines) = written ↔ ∀ heading ∈ written, ¬heading.Masked := by
  have itself : written.map id = written := List.map_id written
  calc
    _ ↔ written.map Heading.reread = written.map id := by rw [headings_of_writes printable writes, itself]
    _ ↔ ∀ heading ∈ written, heading.reread = heading := List.map_inj_left
    _ ↔ _ := forall₂_congr fun heading member => Heading.reread_eq_iff (printable heading member)

theorem exists_masked_iff (outline : Text) :
    (∃ heading ∈ headings outline, heading.Masked) ↔ ∃ line ∈ outline.lines, Heading.HidesGroup line := by
  constructor
  · rintro ⟨heading, member, masked⟩
    obtain ⟨line, inside, oneLine, read⟩ := exists_line_of_mem_headings member
    exact ⟨line, inside, (Heading.masked_iff read oneLine).mp masked⟩
  · rintro ⟨line, inside, hides⟩
    obtain ⟨content, opens, masked⟩ := Heading.masked_of_hidesGroup hides
    have read := Heading.ofLine?_of_oneLine opens (oneLine_of_mem_lines inside)
    exact ⟨_, List.mem_filterMap.mpr ⟨line, inside, read⟩, masked⟩

/-- The headings of an outline, written out and read again, are the same exactly when no line
hides a group of tags. Only then does no heading without tags end in such a group. -/
theorem headings_reread_iff (writes : List.Forall₂ Heading.Writes (headings outline) lines) :
    (headings (Text.join '\n' lines) = headings outline ↔
      ∀ line ∈ outline.lines, ¬Heading.HidesGroup line) ∧
    ((∀ heading ∈ headings outline, heading.tags = TagSet.empty →
        ∀ before tags, ¬Heading.EndsInGroup heading.text before tags) ↔
      ∀ line ∈ outline.lines, ¬Heading.HidesGroup line) := by
  have hidden : (∀ heading ∈ headings outline, ¬heading.Masked) ↔
      ∀ line ∈ outline.lines, ¬Heading.HidesGroup line := by
    simpa only [not_exists, not_and] using not_congr (exists_masked_iff outline)
  refine ⟨(headings_eq_iff (fun _ => printable_of_mem_headings) writes).trans hidden, ?_⟩
  simpa only [Heading.Masked, not_exists, not_and] using hidden

/-- Tags in another order, and white space behind a text that is no group. -/
theorem headings_reread_reordered :
    let outline : Text := "* foo\t:b:a:\nbody :c:\n** 10:30:\u00a0".toList
    let lines : List Text := ["* foo :b:a:".toList, "* 10:30:".toList]
    List.Forall₂ Heading.Writes (headings outline) lines ∧
      headings (Text.join '\n' lines) = headings outline ∧
      ∀ line ∈ outline.lines, ¬Heading.HidesGroup line := by
  intro outline lines
  have writes : List.Forall₂ Heading.Writes (headings outline) lines :=
    .cons ⟨[['b'], ['a']], .swap _ _ _, rfl⟩ (.cons ⟨[], .nil, rfl⟩ .nil)
  have same : headings (Text.join '\n' lines) = headings outline := rfl
  exact ⟨writes, same, (headings_reread_iff writes).1.mp same⟩

/-- A no-break space behind the group keeps it from being read and is then left out itself. -/
theorem headings_reread_differ :
    let outline : Text := ['*', ' ', 'f', 'o', 'o', ' ', ':', 'a', ':', '\u00a0']
    let line : Text := ['*', ' ', 'f', 'o', 'o', ' ', ':', 'a', ':']
    List.Forall₂ Heading.Writes (headings outline) [line] ∧
      headings outline = [⟨line.drop 2, TagSet.empty⟩] ∧
      headings (Text.join '\n' [line]) = [⟨['f', 'o', 'o'], TagSet.ofList [['a']]⟩] ∧
      headings (Text.join '\n' [line]) ≠ headings outline := by
  intro outline line
  have first : headings outline = [⟨line.drop 2, TagSet.empty⟩] := rfl
  have second : headings (Text.join '\n' [line]) = [⟨['f', 'o', 'o'], TagSet.ofList [['a']]⟩] := rfl
  refine ⟨?_, first, second, fun same => ?_⟩
  · rw [first]
    exact .cons ⟨[], .nil, rfl⟩ .nil
  · have texts := congrArg (List.map Heading.text) (second.symm.trans (same.trans first))
    simp [line] at texts

end Outline

end OutlineTable
