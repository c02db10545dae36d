import OutlineTable.Text.Basic

/-! Headings. A heading line is one or more stars, blanks, and a content that may end in a group of tags
such as `:urgent:work:`; of an outline only the heading lines are read. A set of tags is kept in ascending
order and without repetition, so equal sets are equal values. -/
namespace OutlineTable

def Ascending (tags : List Text) : Prop :=
  tags.Pairwise fun first second => first.precedes second = true

structure TagSet where
  tags : List Text
  ascending : Ascending tags

namespace TagSet

def place (tag : Text) : List Text → List Text
  | [] => [tag]
  | first :: rest =>
    if tag = first then first :: rest
    else if tag.precedes first then tag :: first :: rest
    else first :: place tag rest

theorem mem_place {tags : List Text} : other ∈ place tag tags ↔ other = tag ∨ other ∈ tags := by
  induction tags with
  | nil => simp [place]
  | cons first rest ih =>
    unfold place
    split
    next eq => subst eq; simp
    next =>
      split
      · simp
      · simp only [List.mem_cons, ih]
        constructor
        · rintro (h | h | h) <;> simp [h]
        · rintro (h | h | h) <;> simp [h]

theorem ascending_place {tags : List Text} (h : Ascending tags) : Ascending (place tag tags) := by
  induction tags with
  | nil => simp [place, Ascending]
  | cons first rest ih =>
    obtain ⟨least, sorted⟩ := List.pairwise_cons.mp h
    unfold place
    split
    · exact h
    · split
      next before =>
        refine List.pairwise_cons.mpr ⟨?_, h⟩
        intro other member
        rcases List.mem_cons.mp member with rfl | member
        · exact before
        · exact Text.precedes_trans before (least other member)
      next different after =>
        refine List.pairwise_cons.mpr ⟨?_, ih sorted⟩
        intro other member
        rcases mem_place.mp member with rfl | member
        · exact Text.precedes_total different (by simpa using after)
        · exact least other member

def empty : TagSet := ⟨[], List.Pairwise.nil⟩

def insert (tag : Text) (set : TagSet) : TagSet :=
  ⟨place tag set.tags, ascending_place set.ascending⟩

def ofList (tags : List Text) : TagSet :=
  tags.foldr insert empty

def contains (set : TagSet) (tag : Text) : Bool :=
  set.tags.contains tag

theorem mem_insert {set : TagSet} : other ∈ (insert tag set).tags ↔ other = tag ∨ other ∈ set.tags :=
  mem_place

theorem mem_ofList {tags : List Text} : tag ∈ (ofList tags).tags ↔ tag ∈ tags := by
  induction tags with
  | nil => simp [ofList, empty]
  | cons first rest ih => rw [List.mem_cons, ← ih]; exact mem_insert

end TagSet

structure Heading where
  text : Text
  tags : TagSet

namespace Heading

/-- A tag in a group is not empty and holds no white space. -/
def isTag (tag : Text) : Bool :=
  !tag.isEmpty && !tag.any Text.isBlank

/-- The tags of a group: a colon before, after and between them. -/
def group? (token : Text) : Option (List Text) :=
  match token.split ':' with
  | [] :: parts =>
    let tags := parts.dropLast
    if parts.getLast? = some [] ∧ ¬tags.isEmpty ∧ tags.all isTag then some tags else none
  | _ => none

/-- The heading of a content without blanks around it. Only the last word of the content
can be its group of tags. -/
def ofContent (content : Text) : Heading :=
  let word := content.takeEndWhile (!Text.isIndent ·)
  match group? word with
  | some tags =>
    { text := (content.dropEndWhile (!Text.isIndent ·)).trimEnd, tags := TagSet.ofList tags }
  | none => { text := content.trimEnd, tags := TagSet.empty }

/-- A line without the line feed that may end it. -/
def body (line : Text) : Text :=
  if line.getLast? = some '\n' then line.dropLast else line

/-- A body from which no star or no blank can be dropped is no heading. -/
def ofLine? (line : Text) : Option Heading :=
  let rest := (body line).dropWhile (· == '*')
  let content := rest.dropWhile Text.isIndent
  if (body line).contains '\n' then none
  else if rest.length = (body line).length ∨ content.length = rest.length then none
  else some (ofContent (Text.dropEndWhile Text.isIndent content))

end Heading

namespace Outline

def headings (outline : Text) : List Heading :=
  outline.lines.filterMap Heading.ofLine?

end Outline

end OutlineTable
