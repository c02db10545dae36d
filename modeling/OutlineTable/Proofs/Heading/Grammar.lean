import OutlineTable.Proofs.Heading.Rereading

/-! The grammar of headings and outlines. The lines that are read are those that open a content on one
line, and perhaps a line feed behind it; what is read from them is told by the content alone. A content ends
in a group of tags in one way at most, so the heading does not depend on how the group is looked for. An
outline cut at a line end has the headings of its two parts, whichever line end it is, and carriage returns
can be written as line feeds. -/
namespace OutlineTable

namespace Heading

open Text

variable {tags others : List Text} {content before front line : Text} {heading : Heading}

/-- A line of one star or more, blanks and a content without a line feed. One line feed may end it. -/
structure HeadingLine (line content : Text) : Prop where
  oneLine : '\n' ∉ content
  opened : ∃ front, Opens front content ∧ (line = front ∨ line = front ++ ['\n'])

/-- What is read from a content without blanks around it. The heading leaves its group of tags out,
if it ends in one, and white space at the end. -/
structure ReadFrom (heading : Heading) (content : Text) : Prop where
  grouped : ∀ before tags, EndsInGroup content before tags →
    heading.text = before.trimEnd ∧ ∀ tag, tag ∈ heading.tags.tags ↔ tag ∈ tags
  plain : (∀ before tags, ¬EndsInGroup content before tags) →
    heading.text = content.trimEnd ∧ heading.tags.tags = []

/-- The group is the last word of the content, whatever stands in it. -/
theorem EndsInGroup.unique (first : EndsInGroup content before tags) (second : EndsInGroup content front others) :
    before = front ∧ tags = others := by
  obtain ⟨word, rest⟩ := word_of_endsInGroup first
  obtain ⟨same, left⟩ := word_of_endsInGroup second
  have group : group? (printGroup tags) = group? (printGroup others) := by rw [← word, same]
  rw [group?_printGroup first.group, group?_printGroup second.group] at group
  exact ⟨rest.symm.trans left, Option.some.inj group⟩

theorem readFrom_ofContent (content : Text) : (ofContent content).ReadFrom content := by
  rcases ofContent_cases content with ⟨before, tags, ends, read⟩ | ⟨plain, read⟩
  · rw [read]
    refine ⟨fun front others found => ?_, fun none => absurd ends (none before tags)⟩
    obtain ⟨rfl, rfl⟩ := ends.unique found
    exact ⟨rfl, fun _ => TagSet.mem_ofList⟩
  · rw [read]
    exact ⟨fun before tags found => absurd found (plain before tags), fun _ => ⟨rfl, rfl⟩⟩

theorem newline_not_mem_of_opens (opens : Opens line content) (oneLine : '\n' ∉ content) : '\n' ∉ line := by
  obtain ⟨stars, blanks, -, starred, -, indented, rfl⟩ := opens
  simp only [List.mem_append, not_or]
  refine ⟨⟨fun inside => ?_, fun inside => ?_⟩, oneLine⟩
  · have star := starred '\n' inside
    contradiction
  · have indent := indented '\n' inside
    contradiction

theorem body_cases (line : Text) : line = body line ∨ line = body line ++ ['\n'] := by
  unfold body
  split
  next last => exact .inr (List.dropLast_append_getLast? '\n' last).symm
  next => exact .inl rfl

theorem body_append_newline (front : Text) : body (front ++ ['\n']) = front := by
  simp [body]

theorem headingLine_iff : HeadingLine line content ↔ Opens (body line) content ∧ '\n' ∉ body line := by
  constructor
  · rintro ⟨oneLine, front, opens, rfl | rfl⟩
    · have bare := newline_not_mem_of_opens opens oneLine
      rw [body_of_newline_not_mem bare]
      exact ⟨opens, bare⟩
    · rw [body_append_newline]
      exact ⟨opens, newline_not_mem_of_opens opens oneLine⟩
  · rintro ⟨opens, oneLine⟩
    refine ⟨fun inside => oneLine ?_, body line, opens, body_cases line⟩
    obtain ⟨stars, blanks, -, -, -, -, whole⟩ := opens
    simp [whole, inside]

/-- Exactly the heading lines are read. What is left of the content without the spaces and tabs around
it ends in a group of tags in one way at most, and the heading is read from it. -/
theorem ofLine?_headingLine (line : Text) :
    ((ofLine? line).isSome ↔ ∃ content, HeadingLine line content) ∧
    ∀ content, HeadingLine line content →
      (∀ before tags front others, EndsInGroup content.trimIndent before tags →
        EndsInGroup content.trimIndent front others → before = front ∧ tags = others) ∧
      ∃ heading, ofLine? line = some heading ∧ heading.ReadFrom content.trimIndent := by
  have read {content : Text} (opened : HeadingLine line content) :
      ofLine? line = some (ofContent content.trimIndent) :=
    ofLine?_of_opens (headingLine_iff.mp opened).1 (headingLine_iff.mp opened).2
  refine ⟨⟨fun some => ?_, fun ⟨content, opened⟩ => by rw [read opened]; rfl⟩, fun content opened => ?_⟩
  · obtain ⟨heading, found⟩ := Option.isSome_iff_exists.mp some
    obtain ⟨content, opens, oneLine, -⟩ := ofLine?_eq_some_iff.mp found
    exact ⟨content, headingLine_iff.mpr ⟨opens, oneLine⟩⟩
  · exact ⟨fun _ _ _ _ first second => first.unique second, _, read opened, readFrom_ofContent _⟩

/-- Colons in the text, a no-break space before the group and blanks behind it. -/
theorem ofLine?_headingLine_grouped :
    let before : Text := ['a', ':', 'b', '\u00a0', '\t']
    let content : Text := before ++ [':', 'x', ':', 'y', ':', ' ']
    let line : Text := '*' :: '*' :: ' ' :: content ++ ['\n']
    HeadingLine line content ∧ EndsInGroup content.trimIndent before [['x'], ['y']] ∧
      ∃ heading, ofLine? line = some heading ∧ heading.text = ['a', ':', 'b'] ∧
        ∀ tag, tag ∈ heading.tags.tags ↔ tag ∈ [['x'], ['y']] := by
  intro before content line
  have opened : HeadingLine line content := by
    refine ⟨by simp [content, before], _, ⟨['*', '*'], [' '], ?_⟩, .inr rfl⟩
    simp [isIndent]
  have ends : EndsInGroup content.trimIndent before [['x'], ['y']] :=
    ⟨rfl, ⟨by simp, by decide, by decide⟩, by simp [before, isIndent]⟩
  obtain ⟨-, heading, read, from'⟩ := (ofLine?_headingLine line).2 content opened
  obtain ⟨text, tags⟩ := from'.grouped before _ ends
  exact ⟨opened, ends, heading, read, text, tags⟩

end Heading

namespace Outline

open Text

variable {ending : Char} {first second whole : Text} {blank : List Text}

/-- Empty lines are no headings. -/
theorem headings_of_lines (parts : lines whole = lines first ++ blank ++ lines second)
    (empty : ∀ line ∈ blank, line = []) : headings whole = headings first ++ headings second := by
  have none : blank.filterMap Heading.ofLine? = [] := by
    apply List.filterMap_eq_nil_iff.mpr
    intro line member
    rw [empty line member]
    rfl
  rw [headings, parts, List.filterMap_append, List.filterMap_append, none, List.append_nil]
  rfl

theorem headings_append_single (ends : isLineEnd ending = true)
    (single : ending = '\r' → second.head? ≠ some '\n') (first : Text) :
    headings (first ++ ending :: second) = headings first ++ headings second := by
  obtain ⟨blank, empty, parts⟩ := exists_lines_append ends single first
  exact headings_of_lines parts empty

/-- A line feed at the beginning ends an empty line. -/
theorem headings_feed (second : Text) : headings ('\n' :: second) = headings second := rfl

/-- A carriage return and the line feed behind it end one line together. -/
theorem headings_append_pair (first second : Text) :
    headings (first ++ '\r' :: '\n' :: second) = headings first ++ headings second := by
  have regrouped : first ++ '\r' :: '\n' :: second = first ++ ['\r'] ++ '\n' :: second := by simp
  have feed : headings (first ++ ['\r'] ++ '\n' :: second) = headings (first ++ ['\r']) ++ headings second :=
    headings_append_single rfl (by simp) _
  have carriage : headings (first ++ ['\r']) = headings first ++ headings [] :=
    headings_append_single rfl (by simp) first
  have nothing : headings [] = [] := rfl
  rw [regrouped, feed, carriage, nothing, List.append_nil]

theorem headings_append (ends : isLineEnd ending = true) (first second : Text) :
    headings (first ++ ending :: second) = headings first ++ headings second := by
  by_cases pair : ending = '\r' ∧ second.head? = some '\n'
  · obtain ⟨rfl, begins⟩ := pair
    obtain ⟨rest, rfl⟩ := List.head?_eq_some_iff.mp begins
    rw [headings_append_pair, headings_feed]
  · exact headings_append_single ends (fun carriage begins => pair ⟨carriage, begins⟩) first

theorem tag_of_mem_headings (member : heading ∈ headings outline) (tagged : tag ∈ heading.tags.tags) :
    tag ≠ [] ∧ ∀ c ∈ tag, isBlank c = false ∧ c ≠ ':' := by
  have some : heading.tags ≠ TagSet.empty := by
    intro none
    rw [none] at tagged
    exact List.not_mem_nil tagged
  have group := (printable_of_mem_headings member).group some
  have valid := group.tag tag tagged
  refine ⟨?_, fun c inside => ⟨Heading.isBlank_of_mem_tag valid inside, ?_⟩⟩
  · rintro rfl
    contradiction
  · rintro rfl
    exact group.apart tag tagged inside

/-- An outline is read line by line. Cut at a line end, or at a pair, it has the headings of its parts;
written with line feeds for all carriage returns it has the same headings; and its headings have texts
that fit on a line, without blanks around them, and tags that fit into a group. -/
theorem headings_by_line :
    (∀ ending, isLineEnd ending = true → ∀ first second,
      headings (first ++ ending :: second) = headings first ++ headings second) ∧
    (∀ first second, headings (first ++ '\r' :: '\n' :: second) = headings first ++ headings second) ∧
    (∀ outline, headings (unifyLineEnds outline) = headings outline) ∧
    ∀ outline, ∀ heading ∈ headings outline, heading.Printable ∧
      ∀ tag ∈ heading.tags.tags, tag ≠ [] ∧ ∀ c ∈ tag, isBlank c = false ∧ c ≠ ':' := by
  refine ⟨fun _ => headings_append, headings_append_pair, fun outline => ?_, fun outline heading member => ?_⟩
  · rw [headings, lines_unifyLineEnds]
    rfl
  · exact ⟨printable_of_mem_headings member, fun tag => tag_of_mem_headings member⟩

/-- A cut in the middle of a pair, and a line that another kind of line end begins. -/
theorem headings_by_line_pair :
    let first : Text := "\u2028* a :x:y:".toList
    let second : Text := "\n** b\u00a0\r:z:".toList
    let heading : Heading := ⟨['a'], TagSet.ofList [['y'], ['x']]⟩
    headings (first ++ '\r' :: second) = headings first ++ headings second ∧
      headings (unifyLineEnds (first ++ '\r' :: second)) = [heading, ⟨['b'], TagSet.empty⟩] ∧
      heading ∈ headings first ∧ heading.Printable ∧
      ∀ tag ∈ heading.tags.tags, tag ≠ [] ∧ ∀ c ∈ tag, isBlank c = false ∧ c ≠ ':' := by
  intro first second heading
  obtain ⟨append, -, unify, fits⟩ := headings_by_line
  have read : headings first = [heading] := rfl
  have member : heading ∈ headings first := by simp [read]
  refine ⟨append '\r' rfl first second, ?_, member, fits first heading member⟩
  rw [unify, append '\r' rfl, read]
  rfl

end Outline

end OutlineTable
