import Mathlib.Data.List.Forall2

/-! Steps that can fail. Two steps in a row succeed if both do, and a run over a list item by item; the
first step that fails decides the fault. -/
namespace OutlineTable

variable {first : Except ε α} {next f : α → Except ε β} {items : List α} {fault : ε}

theorem bind_eq_ok_iff : first >>= next = .ok result ↔ ∃ value, first = .ok value ∧ next value = .ok result := by
  cases first with
  | ok value => exact ⟨fun done => ⟨value, rfl, done⟩, fun ⟨_, same, done⟩ => Except.ok.inj same ▸ done⟩
  | error fault => exact ⟨nofun, nofun⟩

theorem bind_eq_error_iff : first >>= next = .error fault ↔
    first = .error fault ∨ ∃ value, first = .ok value ∧ next value = .error fault := by
  cases first with
  | ok value =>
    rw [or_iff_right nofun]
    exact ⟨fun failed => ⟨value, rfl, failed⟩, fun ⟨_, same, failed⟩ => Except.ok.inj same ▸ failed⟩
  | error other =>
    have stopped : (.error other : Except ε α) >>= next = .error other := rfl
    rw [stopped, or_iff_left nofun, Except.error.injEq, Except.error.injEq]

theorem bind_pure_eq_error_iff {make : α → β} :
    (first >>= fun value => pure (make value)) = .error fault ↔ first = .error fault := by
  rw [bind_eq_error_iff]
  exact or_iff_left fun ⟨_, _, failed⟩ => nomatch failed

theorem mapM_eq_ok_iff {results : List β} :
    items.mapM f = .ok results ↔ List.Forall₂ (fun item result => f item = .ok result) items results := by
  induction items generalizing results with
  | nil =>
    rw [List.mapM_nil, List.forall₂_nil_left_iff]
    exact ⟨fun same => (Except.ok.inj same).symm, fun none => none ▸ rfl⟩
  | cons item items ih =>
    rw [List.mapM_cons, bind_eq_ok_iff, List.forall₂_cons_left_iff]
    constructor
    · rintro ⟨result, taken, later⟩
      obtain ⟨rest, ran, same⟩ := bind_eq_ok_iff.mp later
      exact ⟨result, rest, taken, ih.mp ran, (Except.ok.inj same).symm⟩
    · rintro ⟨result, rest, taken, later, rfl⟩
      exact ⟨result, taken, bind_eq_ok_iff.mpr ⟨rest, ih.mpr later, rfl⟩⟩

theorem mapM_cons_eq_error_iff : (item :: items).mapM f = .error fault ↔
    f item = .error fault ∨ (∃ result, f item = .ok result) ∧ items.mapM f = .error fault := by
  rw [List.mapM_cons, bind_eq_error_iff]
  simp only [bind_pure_eq_error_iff, exists_and_right]

/-- A run is refused for the first of its items that is. -/
theorem mapM_eq_error_iff : items.mapM f = .error fault ↔
    ∃ before item after, items = before ++ item :: after ∧
      (∀ other ∈ before, ∃ result, f other = .ok result) ∧ f item = .error fault := by
  induction items with
  | nil => simp [pure, Except.pure]
  | cons item items ih =>
    rw [mapM_cons_eq_error_iff, ih]
    constructor
    · rintro (found | ⟨read, before, refused, after, rfl, others, found⟩)
      · exact ⟨[], item, items, rfl, by simp, found⟩
      · exact ⟨item :: before, refused, after, rfl, by simpa [read] using others, found⟩
    · rintro ⟨before, refused, after, parts, others, found⟩
      cases before with
      | nil =>
        obtain ⟨rfl, rfl⟩ := List.cons.inj parts
        exact .inl found
      | cons other before =>
        obtain ⟨rfl, rfl⟩ := List.cons.inj parts
        refine .inr ⟨others item List.mem_cons_self, before, refused, after, rfl, fun other member => ?_, found⟩
        exact others other (List.mem_cons_of_mem item member)

theorem exists_of_mem_right {relation : α → β → Prop} {results : List β}
    (all : List.Forall₂ relation items results) (member : result ∈ results) :
    ∃ item ∈ items, relation item result := by
  induction all with
  | nil => simp at member
  | @cons item first items results holds _ ih =>
    rcases List.mem_cons.mp member with rfl | member
    · exact ⟨item, List.mem_cons_self, holds⟩
    · obtain ⟨other, found, related⟩ := ih member
      exact ⟨other, List.mem_cons_of_mem item found, related⟩

variable {step : σ → α → Option σ}

theorem run_cons (taken : step s a = some t) (more : List α) :
    (a :: more).foldlM step s = more.foldlM step t := by
  rw [List.foldlM_cons, taken, Option.bind_eq_bind, Option.bind_some]

theorem run_append {before : List α} (run : before.foldlM step s = some t) (more : List α) :
    (before ++ more).foldlM step s = more.foldlM step t := by
  rw [List.foldlM_append, run, Option.bind_eq_bind, Option.bind_some]

end OutlineTable
