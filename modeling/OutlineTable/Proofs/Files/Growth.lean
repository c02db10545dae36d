import OutlineTable.Files
import OutlineTable.Proofs.Steps

/-! Trees that grow. Where directories stay directories, every path leads where it led. Making
the directories of a path changes only vacant locations that the path itself passes. -/
namespace OutlineTable.Tree

variable {tree before between after : Tree} {location : Location}

theorem get?_root (tree : Tree) : tree.get? [] = some .directory := rfl

/-- Every directory of a tree is a directory of the other. -/
def Keeps (before after : Tree) : Prop :=
  ∀ location, before.get? location = some .directory → after.get? location = some .directory

theorem follow_mono (keeps : Keeps before after) (reached : before.follow place names = .ok location) :
    after.follow place names = .ok location := by
  induction names generalizing place with
  | nil => exact reached
  | cons name names ih =>
    rw [follow] at reached ⊢
    split at reached
    next directory =>
      rw [keeps place directory]
      split at reached
      next => contradiction
      next short =>
        simp only [short, Bool.false_eq_true, if_false]
        exact ih reached
    next => contradiction
    next => contradiction

theorem ne_nil_of_get?_ne (other : tree.get? location ≠ some .directory) : location ≠ [] := by
  rintro rfl
  exact other tree.get?_root

theorem keeps_put (other : tree.get? location ≠ some .directory) (entry : Entry) :
    Keeps tree (tree.put location entry) := by
  intro place directory
  have apart : place ≠ location := by
    rintro rfl
    exact other directory
  rw [get?_put tree location entry (ne_nil_of_get?_ne other), if_neg apart, directory]

theorem makeDirectory_eq_ok (made : tree.makeDirectory place names = .ok grown) :
    ∃ location, tree.follow place names = .ok location ∧ tree.get? location = none ∧
      grown = tree.put location .directory := by
  obtain ⟨location, reached, made⟩ := bind_eq_ok_iff.mp made
  split at made
  next => contradiction
  next vacant => exact ⟨location, reached, vacant, (Except.ok.inj made).symm⟩

theorem write_eq_ok (done : tree.write place names content = .ok written) :
    ∃ location, tree.follow place names = .ok location ∧ tree.get? location ≠ some .directory ∧
      written = tree.put location (.file content) := by
  obtain ⟨location, reached, done⟩ := bind_eq_ok_iff.mp done
  split at done
  next => contradiction
  next other => exact ⟨location, reached, other, (Except.ok.inj done).symm⟩

/-- A location is as it was, or was vacant and is a directory on the way along a path. -/
def Paved (place : Location) (names : List Text) (before after : Tree) (location : Location) : Prop :=
  after.get? location = before.get? location ∨
    before.get? location = none ∧ after.get? location = some .directory ∧
      ∃ above, above <+: names ∧ after.follow place above = .ok location

def Paves (place : Location) (names : List Text) (before after : Tree) : Prop :=
  ∀ location, Paved place names before after location

theorem keeps_of_paves (paves : Paves place names before after) : Keeps before after := by
  intro location directory
  rcases paves location with same | ⟨vacant, _⟩
  · rw [same, directory]
  · rw [directory] at vacant
    contradiction

theorem paves_refl (place : Location) (names : List Text) (tree : Tree) : Paves place names tree tree :=
  fun _ => .inl rfl

theorem Paves.trans (first : Paves place names before between) (second : Paves place names between after) :
    Paves place names before after := by
  intro location
  rcases second location with same | ⟨vacant, made⟩
  · rcases first location with unchanged | ⟨vacant, made, above, within, reached⟩
    · exact .inl (same.trans unchanged)
    · exact .inr ⟨vacant, same.trans made, above, within, follow_mono (keeps_of_paves second) reached⟩
  · rcases first location with unchanged | ⟨_, directory, _⟩
    · exact .inr ⟨unchanged ▸ vacant, made⟩
    · rw [directory] at vacant
      contradiction

theorem Paves.extend (paves : Paves place names before after) (longer : names <+: more) :
    Paves place more before after := by
  intro location
  rcases paves location with same | ⟨vacant, made, above, within, reached⟩
  · exact .inl same
  · exact .inr ⟨vacant, made, above, within.trans longer, reached⟩

theorem Paved.put {target : Location} {entry : Entry} (paved : Paved place names before after location)
    (other : after.get? target ≠ some .directory) (apart : location ≠ target) :
    Paved place names before (after.put target entry) location := by
  have same : (after.put target entry).get? location = after.get? location := by
    rw [get?_put _ _ _ (ne_nil_of_get?_ne other), if_neg apart]
  rcases paved with unchanged | ⟨vacant, made, above, within, reached⟩
  · exact .inl (same.trans unchanged)
  · exact .inr ⟨vacant, same.trans made, above, within, follow_mono (keeps_put other entry) reached⟩

theorem paves_makeDirectory (made : tree.makeDirectory place names = .ok grown) :
    Paves place names tree grown := by
  obtain ⟨location, reached, vacant, rfl⟩ := makeDirectory_eq_ok made
  have other : tree.get? location ≠ some .directory := by simp [vacant]
  have below := ne_nil_of_get?_ne other
  intro passed
  by_cases here : passed = location
  · subst here
    have reachedAfter := follow_mono (keeps_put other .directory) reached
    exact .inr ⟨vacant, by rw [get?_put _ _ _ below, if_pos rfl], names, List.prefix_rfl, reachedAfter⟩
  · exact .inl (by rw [get?_put _ _ _ below, if_neg here])

theorem paves_ensureDirectory (made : tree.ensureDirectory place names = .ok grown) :
    Paves place names tree grown := by
  unfold ensureDirectory at made
  split at made
  next grown' fresh => exact Except.ok.inj made ▸ paves_makeDirectory fresh
  next =>
    split at made
    next => exact Except.ok.inj made ▸ paves_refl place names tree
    next => contradiction

/-- The directories that are made before a failure are on the path as well. -/
theorem paves_ensureDirectories (tree : Tree) (place : Location) (above : List Text) :
    Paves place above.reverse tree (tree.ensureDirectories place above).1 := by
  induction above with
  | nil =>
    rw [ensureDirectories]
    split
    next made => exact paves_ensureDirectory made
    next => exact paves_refl place _ tree
  | cons name above ih =>
    have shorter : above.reverse <+: (name :: above).reverse := by simp
    simp only [ensureDirectories]
    split
    next made => exact paves_ensureDirectory made
    next =>
      split
      next grown failure parents =>
        rw [parents] at ih
        exact ih.extend shorter
      next grown parents =>
        rw [parents] at ih
        split
        next made => exact (ih.extend shorter).trans (paves_ensureDirectory made)
        next => exact ih.extend shorter
    next => exact paves_refl place _ tree

end OutlineTable.Tree
