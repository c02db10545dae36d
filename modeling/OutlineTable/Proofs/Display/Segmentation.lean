import OutlineTable.Proofs.Display.Classes

/-! Clusters of texts that are put together or cut. What was read of a text matters only through the seam
at its end: characters behind it are drawn into the last cluster or begin new ones, and the width changes by
what that cluster gains and by what the clusters of the second text lose. Cut at a cluster border, a text
keeps its clusters. -/
namespace OutlineTable.Display

open Unicode

/-- After a control every character begins a cluster, as it does at the start of a text. -/
theorem Seam.step_control (next : BreakClass) : Seam.control.step next = (true, (start next).2) := by
  cases next <;> rfl

theorem resume_of_ends (ends : seam.step (breakClass c) = (true, next)) (text : Text) :
    resume seam (c :: text) = ([], (c :: (resume next text).1) :: (resume next text).2) := by
  simp [resume, ends]

theorem resume_of_joins (joins : seam.step (breakClass c) = (false, next)) (text : Text) :
    resume seam (c :: text) = (c :: (resume next text).1, (resume next text).2) := by
  simp [resume, joins]

theorem resume_nil (seam : Seam) : resume seam [] = ([], []) := rfl

theorem resume_control (text : Text) : resume .control text = ([], clusters text) := by
  cases text with
  | nil => rfl
  | cons c text => exact resume_of_ends (Seam.step_control _) text

/-- The seam at the end of a text. -/
def Seam.after (seam : Seam) (text : Text) : Seam :=
  text.foldl (fun seam c => (seam.step (breakClass c)).2) seam

@[simp] theorem Seam.after_nil (seam : Seam) : seam.after [] = seam := rfl

@[simp] theorem Seam.after_cons (seam : Seam) (c : Char) (text : Text) :
    seam.after (c :: text) = (seam.step (breakClass c)).2.after text := rfl

/-- Clusters whose last one goes on, and those behind it. -/
def attach : List Text → Text × List Text → List Text
  | [], tail => tail.2
  | [last], tail => (last ++ tail.1) :: tail.2
  | first :: second :: rest, tail => first :: attach (second :: rest) tail

theorem attach_cons (some : groups ≠ []) (first : Text) (tail : Text × List Text) :
    attach (first :: groups) tail = first :: attach groups tail := by
  cases groups with
  | nil => contradiction
  | cons second rest => rfl

theorem attach_cons_cons (c : Char) (first : Text) (groups : List Text) (tail : Text × List Text) :
    attach (first :: groups) tail = head :: later →
    attach ((c :: first) :: groups) tail = (c :: head) :: later := by
  intro same
  cases groups with
  | nil =>
    obtain ⟨rfl, rfl⟩ := List.cons.inj same
    rfl
  | cons second rest =>
    obtain ⟨rfl, rfl⟩ := List.cons.inj same
    rfl

/-- Reading a text and then another is reading the two as one. The open cluster stands
first in both lists. -/
theorem attach_resume (seam : Seam) (before after : Text) :
    attach ((resume seam before).1 :: (resume seam before).2) (resume (seam.after before) after) =
      (resume seam (before ++ after)).1 :: (resume seam (before ++ after)).2 := by
  induction before generalizing seam with
  | nil => rfl
  | cons c before ih =>
    rcases step : seam.step (breakClass c) with ⟨ends, next⟩
    have later := attach_cons_cons c _ _ _ (ih next)
    rw [Seam.after_cons, step, List.cons_append]
    cases ends with
    | true =>
      rw [resume_of_ends step, resume_of_ends step, attach_cons (List.cons_ne_nil _ _)]
      exact congrArg _ later
    | false =>
      rw [resume_of_joins step, resume_of_joins step]
      exact later

theorem clusters_append (before after : Text) :
    clusters (before ++ after) =
      attach (clusters before) (resume (Seam.control.after before) after) := by
  have whole := attach_resume .control before after
  rw [resume_control, resume_control] at whole
  cases before with
  | nil => rw [List.nil_append, Seam.after_nil, resume_control]; rfl
  | cons c before =>
    have some : clusters (c :: before) ≠ [] := List.cons_ne_nil _ _
    rw [attach_cons some] at whole
    exact (List.cons.inj whole).2.symm

/-- A text that ends with one of the clusters read has these clusters. -/
theorem resume_of_prefix {seam : Seam} {kept : List Text} (start : kept <+: (resume seam text).2) :
    resume seam ((resume seam text).1 ++ kept.flatten) = ((resume seam text).1, kept) := by
  induction text generalizing seam kept with
  | nil =>
    rw [resume_nil] at start ⊢
    rw [List.prefix_nil.mp start]
    rfl
  | cons c text ih =>
    rcases step : seam.step (breakClass c) with ⟨ends, next⟩
    cases ends with
    | true =>
      rw [resume_of_ends step] at start ⊢
      cases kept with
      | nil => rfl
      | cons first kept =>
        obtain ⟨rfl, later⟩ := List.cons_prefix_cons.mp start
        rw [List.nil_append, List.flatten_cons, List.cons_append, resume_of_ends step, ih later]
    | false =>
      rw [resume_of_joins step] at start ⊢
      rw [List.cons_append, resume_of_joins step, ih start]

theorem clusters_of_prefix {kept : List Text} (start : kept <+: clusters text) :
    clusters kept.flatten = kept := by
  have same : (resume .control text).2 = clusters text := by rw [resume_control]
  have read := resume_of_prefix (same ▸ start)
  rw [resume_control text, resume_control, List.nil_append] at read
  exact (Prod.mk.inj read).2

/-- A cut between clusters keeps the clusters before it. -/
theorem clusters_take (room : Nat) (text : Text) :
    clusters (take room text) = takeClusters room (clusters text) :=
  clusters_of_prefix (takeClusters_isPrefix room (clusters text))

theorem cells_attach (some : groups ≠ []) (tail : Text × List Text) :
    cells (attach groups tail) + clusterWidth (groups.getLastD []) =
      cells groups + clusterWidth (groups.getLastD [] ++ tail.1) + cells tail.2 := by
  induction groups with
  | nil => contradiction
  | cons first groups ih =>
    cases groups with
    | nil =>
      simp only [attach, cells, List.getLastD_cons, List.getLastD_nil]
      omega
    | cons second rest =>
      have later := ih (List.cons_ne_nil _ _)
      simp only [attach, cells, List.getLastD_cons] at later ⊢
      omega

/-- What two texts gain in width when the second is written behind the first. -/
def seamGain (before after : Text) : Int :=
  let last := (clusters (expandTabs before)).getLastD []
  let tail := resume (Seam.control.after (expandTabs before)) (expandTabs after)
  ((clusterWidth (last ++ tail.1) : Int) - clusterWidth last) + ((cells tail.2 : Int) - width after)

theorem width_append (before after : Text) :
    (width (before ++ after) : Int) = width before + width after + seamGain before after := by
  have whole := clusters_append (expandTabs before) (expandTabs after)
  rw [← expandTabs_append] at whole
  rw [seamGain, width_eq_measure, width_eq_measure before, measure, clusterSum, whole, measure, clusterSum]
  cases groups : clusters (expandTabs before) with
  | nil =>
    have empty : expandTabs before = [] := by
      rw [← clusters_flatten (expandTabs before), groups]
      rfl
    rw [empty, Seam.after_nil, resume_control]
    simp only [attach, cells, List.getLastD_nil, List.nil_append]
    omega
  | cons first rest =>
    have joined := cells_attach (List.cons_ne_nil first rest)
      (resume (Seam.control.after (expandTabs before)) (expandTabs after))
    omega

/-- Where a text ends at a prepended seam, its last cluster holds nothing but such signs. -/
theorem signs_of_after_prepended {seam : Seam} (ends : seam.after text = .prepended) :
    (∀ c ∈ (resume seam text).2.getLastD (resume seam text).1, breakClass c = .prepended) ∧
      ((resume seam text).2 = [] → seam = .prepended) := by
  induction text generalizing seam with
  | nil => exact ⟨by simp [resume_nil], fun _ => ends⟩
  | cons c text ih =>
    obtain ⟨signs, open'⟩ := ih ends
    have all : ∀ d ∈ (resume (seam.step (breakClass c)).2 text).2.getLastD
        (c :: (resume (seam.step (breakClass c)).2 text).1), breakClass d = .prepended := by
      cases later : (resume (seam.step (breakClass c)).2 text).2 with
      | nil =>
        rw [later] at signs
        rintro d (_ | ⟨_, member⟩)
        · exact Seam.step_eq_prepended.mp (open' later)
        · exact signs d member
      | cons first rest =>
        rw [later, List.getLastD_cons] at signs
        rwa [List.getLastD_cons]
    cases step : (seam.step (breakClass c)).1 with
    | true =>
      rw [resume_of_ends (Prod.ext step rfl)]
      rw [List.getLastD_cons]
      exact ⟨all, fun none => nomatch none⟩
    | false =>
      rw [resume_of_joins (Prod.ext step rfl)]
      refine ⟨all, fun none => ?_⟩
      have sign := Seam.step_eq_prepended.mp (open' none)
      rw [sign] at step
      exact Seam.eq_prepended_of_joins step

/-- A text that no cluster before it takes in, prepended signs apart. -/
def Detached (text : Text) : Prop :=
  ∀ c ∈ text.head?, breakClass c = .other ∨ c = '\t'

theorem expandTabs_of_detached (detached : Detached (c :: text)) :
    ∃ first rest, expandTabs (c :: text) = first :: rest ∧ breakClass first = .other := by
  rcases detached c rfl with other | tab
  · have different : c ≠ '\t' := by
      rintro rfl
      rw [breakClass_tab] at other
      cases other
    exact ⟨c, expandTabs text, expandTabs_of_ne different text, other⟩
  · exact ⟨' ', ' ' :: ' ' :: expandTabs text, by rw [tab, expandTabs_tab], breakClass_space⟩

/-- Behind a prepended sign a detached text loses its first cluster to the sign, which grows
by no more than that; everywhere else it is read as if it stood alone. -/
theorem seamGain_le_zero (before : Text) (detached : Detached after) : seamGain before after ≤ 0 := by
  cases after with
  | nil =>
    simp [seamGain, resume_nil, cells]
  | cons c after =>
    obtain ⟨first, rest, spaced, other⟩ := expandTabs_of_detached detached
    have alone : clusters (first :: rest) = (first :: (resume .plain rest).1) :: (resume .plain rest).2 := by
      rw [clusters, other]
      rfl
    rw [seamGain, width_eq_measure, measure, clusterSum, spaced, alone]
    by_cases signed : Seam.control.after (expandTabs before) = .prepended
    · have signs : ∀ d ∈ (clusters (expandTabs before)).getLastD [], breakClass d = .prepended := by
        have read := (signs_of_after_prepended signed).1
        rwa [resume_control] at read
      have joins : Seam.prepended.step (breakClass first) = (false, .plain) := by rw [other]; rfl
      rw [signed, resume_of_joins joins]
      have grown := clusterWidth_signs_append_le signs other (resume .plain rest).1
      simp only [cells]
      omega
    · have ends : (Seam.control.after (expandTabs before)).step (breakClass first) = (true, .plain) := by
        rw [other, Seam.step_space signed]
      rw [resume_of_ends ends]
      simp only [cells, List.append_nil]
      omega

end OutlineTable.Display
