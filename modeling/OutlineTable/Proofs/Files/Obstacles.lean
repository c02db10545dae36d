import OutlineTable.Proofs.Files.Growth

/-! What stops a path from becoming one of directories. A file or a name that is too long stays in
the way of everything below it, while a missing directory is made. -/
namespace OutlineTable.Tree

variable {before after tree grown made : Tree} {place location : Location} {names above more : List Text}
  {failure : Failure}

/-- The files are the same, and every directory is still one. -/
structure Untouched (before after : Tree) : Prop where
  files : ∀ location content,
    after.get? location = some (.file content) ↔ before.get? location = some (.file content)
  directories : Keeps before after

theorem untouched_of_paves (paves : Paves place names before after) : Untouched before after where
  files location content := by
    rcases paves location with same | ⟨vacant, directory, -⟩
    · rw [same]
    · simp [vacant, directory]
  directories := keeps_of_paves paves

theorem untouched_refl (tree : Tree) : Untouched tree tree :=
  ⟨fun _ _ => Iff.rfl, fun _ directory => directory⟩

/-- Only a path that met a missing directory can lead elsewhere once directories were made. -/
theorem follow_of_untouched (untouched : Untouched before after) :
    before.follow place names = .error .notFound ∨ after.follow place names = before.follow place names := by
  induction names generalizing place with
  | nil => exact .inr rfl
  | cons name names ih =>
    cases here : before.get? place with
    | none => exact .inl (by simp only [follow, here])
    | some entry =>
      cases entry with
      | directory =>
        have there := untouched.directories place here
        simp only [follow, here, there]
        split
        next => exact .inr rfl
        next => exact ih
      | file content =>
        have there := (untouched.files place content).mpr here
        exact .inr (by simp only [follow, here, there])

theorem follow_append (tree : Tree) (place : Location) (names more : List Text) :
    tree.follow place (names ++ more) =
      (tree.follow place names).bind fun location => tree.follow location more := by
  induction names generalizing place with
  | nil => rfl
  | cons name names ih =>
    simp only [List.cons_append, follow]
    split
    next =>
      split
      next => rfl
      next => exact ih _
    next => rfl
    next => rfl

theorem follow_eq_error (stopped : tree.follow place names = .error fault) :
    fault = .notFound ∨ fault = .notDirectory ∨ fault = .nameTooLong ∧ ∃ name ∈ names, isLong name := by
  induction names generalizing place with
  | nil => contradiction
  | cons name names ih =>
    rw [follow] at stopped
    split at stopped
    next =>
      split at stopped
      next long =>
        exact .inr (.inr ⟨(Except.error.inj stopped).symm, name, List.mem_cons_self, long⟩)
      next =>
        rcases ih stopped with missing | blocked | ⟨tooLong, other, inside, long⟩
        · exact .inl missing
        · exact .inr (.inl blocked)
        · exact .inr (.inr ⟨tooLong, other, List.mem_cons_of_mem name inside, long⟩)
    next => exact .inr (.inl (Except.error.inj stopped).symm)
    next => exact .inl (Except.error.inj stopped).symm

/-- A path that leads to a directory. -/
def LeadsToDirectory (tree : Tree) (place : Location) (names : List Text) : Prop :=
  ∃ location, tree.follow place names = .ok location ∧ tree.get? location = some .directory

/-- Nothing can be reached below a path: a name of it is too long, or a file is in the way. -/
def Bars (tree : Tree) (place : Location) (names : List Text) (fault : Fault) : Prop :=
  ∀ more ≠ [], tree.follow place (names ++ more) =
    .error (if fault = .nameTooLong then .nameTooLong else .notDirectory)

theorem Bars.extend (bars : Bars tree place names fault) (longer : names <+: above) :
    Bars tree place above fault := by
  obtain ⟨rest, rfl⟩ := longer
  intro more nonempty
  rw [List.append_assoc]
  exact bars (rest ++ more) (List.append_ne_nil_of_right_ne_nil rest nonempty)

theorem isDirectory_iff : tree.isDirectory place names = true ↔ LeadsToDirectory tree place names := by
  unfold isDirectory LeadsToDirectory
  cases reached : tree.follow place names with
  | ok location =>
    simp only [find, reached, Except.ok.injEq, exists_eq_left']
    split
    next directory => simpa using directory
    next other => simpa using other
  | error fault => cases fault <;> simp [find, reached]

theorem makeDirectory_eq_error (failed : tree.makeDirectory place names = .error fault) :
    tree.follow place names = .error fault ∨
      ∃ location entry, tree.follow place names = .ok location ∧ tree.get? location = some entry ∧
        fault = .alreadyExists := by
  rcases bind_eq_error_iff.mp failed with stopped | ⟨location, reached, failed⟩
  · exact .inl stopped
  · split at failed
    next entry there => exact .inr ⟨location, entry, reached, there, (Except.error.inj failed).symm⟩
    next => contradiction

theorem write_eq_error (failed : tree.write place names content = .error fault) :
    tree.follow place names = .error fault ∨ fault = .isDirectory ∧ LeadsToDirectory tree place names := by
  rcases bind_eq_error_iff.mp failed with stopped | ⟨location, reached, failed⟩
  · exact .inl stopped
  · split at failed
    next directory => exact .inr ⟨(Except.error.inj failed).symm, location, reached, directory⟩
    next => contradiction

theorem ensureDirectory_eq_ok (ready : tree.ensureDirectory place names = .ok made) :
    tree.makeDirectory place names = .ok made ∨ made = tree ∧ LeadsToDirectory tree place names := by
  unfold ensureDirectory at ready
  split at ready
  next fresh => exact .inl (Except.ok.inj ready ▸ fresh)
  next =>
    split at ready
    next there => exact .inr ⟨(Except.ok.inj ready).symm, isDirectory_iff.mp there⟩
    next => contradiction

theorem ensureDirectory_eq_error (refused : tree.ensureDirectory place names = .error fault) :
    tree.makeDirectory place names = .error fault ∧ ¬LeadsToDirectory tree place names := by
  unfold ensureDirectory at refused
  split at refused
  next => contradiction
  next failed =>
    split at refused
    next => contradiction
    next absent => exact ⟨Except.error.inj refused ▸ failed, fun leads => absent (isDirectory_iff.mpr leads)⟩

theorem leadsToDirectory_of_ensureDirectory (ready : tree.ensureDirectory place names = .ok made) :
    LeadsToDirectory made place names := by
  rcases ensureDirectory_eq_ok ready with fresh | ⟨rfl, leads⟩
  · obtain ⟨location, reached, vacant, rfl⟩ := makeDirectory_eq_ok fresh
    have other : tree.get? location ≠ some .directory := by simp [vacant]
    refine ⟨location, follow_mono (keeps_put other .directory) reached, ?_⟩
    rw [get?_put _ _ _ (ne_nil_of_get?_ne other), if_pos rfl]
  · exact leads

/-- What refuses a directory bars all that is below it, unless the directory above it is missing. -/
theorem bars_of_ensureDirectory (refused : tree.ensureDirectory place names = .error fault)
    (other : fault ≠ .notFound) : Bars tree place names fault := by
  obtain ⟨failed, absent⟩ := ensureDirectory_eq_error refused
  intro more nonempty
  rw [follow_append]
  rcases makeDirectory_eq_error failed with stopped | ⟨location, entry, reached, there, rfl⟩
  · rw [stopped]
    rcases follow_eq_error stopped with rfl | rfl | ⟨rfl, -⟩
    · contradiction
    · rfl
    · rfl
  · obtain ⟨name, rest, rfl⟩ := List.exists_cons_of_ne_nil nonempty
    cases entry with
    | directory => exact absurd ⟨location, reached, there⟩ absent
    | file content => simp only [reached, Except.bind, follow, there, if_neg (by decide : Fault.alreadyExists ≠ .nameTooLong)]

theorem ne_notFound_of_ensureDirectory (refused : tree.ensureDirectory place names = .error fault)
    (present : tree.follow place names ≠ .error .notFound) : fault ≠ .notFound := by
  rintro rfl
  rcases makeDirectory_eq_error (ensureDirectory_eq_error refused).1 with stopped | ⟨_, _, _, _, other⟩
  · exact present stopped
  · contradiction

/-- Below a directory nothing is missing on the way to a name. -/
theorem follow_concat_of_leads (leads : LeadsToDirectory tree place above) (name : Text) :
    tree.follow place (above ++ [name]) ≠ .error .notFound := by
  obtain ⟨location, reached, directory⟩ := leads
  simp only [follow_append, reached, Except.bind, follow, directory]
  split <;> simp

theorem leadsToDirectory_of_ensureDirectories (ready : tree.ensureDirectories place above = (grown, none)) :
    LeadsToDirectory grown place above.reverse := by
  cases above with
  | nil =>
    simp only [ensureDirectories] at ready
    split at ready
    next made => exact (Prod.mk.inj ready).1 ▸ leadsToDirectory_of_ensureDirectory made
    next => simp at ready
  | cons name above =>
    simp only [ensureDirectories] at ready
    split at ready
    next made => exact (Prod.mk.inj ready).1 ▸ leadsToDirectory_of_ensureDirectory made
    next =>
      split at ready
      next => simp at ready
      next =>
        split at ready
        next made => exact (Prod.mk.inj ready).1 ▸ leadsToDirectory_of_ensureDirectory made
        next => simp at ready
    next => simp at ready

/-- Where the directories of a path cannot be made, something bars the path. -/
theorem bars_of_ensureDirectories (refused : tree.ensureDirectories place above = (grown, some failure)) :
    Bars grown place above.reverse failure.fault := by
  induction above generalizing grown failure with
  | nil =>
    simp only [ensureDirectories] at refused
    split at refused
    next => simp at refused
    next fault failed =>
      obtain ⟨rfl, rfl⟩ : tree = grown ∧ ⟨fault, []⟩ = failure := by simpa using refused
      exact bars_of_ensureDirectory failed (ne_notFound_of_ensureDirectory failed (by simp [follow]))
  | cons name above ih =>
    have shorter : above.reverse <+: (name :: above).reverse := by simp
    simp only [ensureDirectories] at refused
    split at refused
    next => simp at refused
    next =>
      split at refused
      next parents =>
        obtain ⟨rfl, rfl⟩ : _ = grown ∧ _ = failure := by simpa using refused
        exact (ih parents).extend shorter
      next parents =>
        split at refused
        next => simp at refused
        next fault failed =>
          obtain ⟨rfl, rfl⟩ : _ = grown ∧ ⟨fault, _⟩ = failure := by simpa using refused
          have present := follow_concat_of_leads (leadsToDirectory_of_ensureDirectories parents) name
          rw [← List.reverse_cons] at present
          exact bars_of_ensureDirectory failed (ne_notFound_of_ensureDirectory failed present)
    next fault other failed =>
      obtain ⟨rfl, rfl⟩ : _ = grown ∧ ⟨fault, _⟩ = failure := by simpa using refused
      exact bars_of_ensureDirectory failed other

end OutlineTable.Tree
