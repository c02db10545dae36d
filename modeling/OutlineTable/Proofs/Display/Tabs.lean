import Mathlib.Data.List.Chain
import Mathlib.Data.List.TakeWhile
import OutlineTable.Proofs.Display.Classes
import OutlineTable.Proofs.Display.Segmentation

/-! Tabs under the measure and under the cut. The measure reads three spaces where the cut
reads a cluster of its own that costs three. The two differ only at a tab that marks
follow or a prepended sign precedes, and by what these two neighbours tell. -/
namespace OutlineTable.Display

open Unicode

/-- How much wider a tab is measured than the cut charges for it, given the marks behind
it. The cut leaves the marks to a cluster of their own, or, after a prepended sign, to
the tab; the measure gives them to the last space, and the first space to the sign. -/
def tabGainOf (signed : Bool) (marks : Text) : Int :=
  if signed then 1 + clusterWidth (' ' :: marks) - charge ('\t' :: marks)
  else clusterWidth (' ' :: marks) - 1 - clusterWidth marks

/-- What the tabs of a text gain; `signed` says that a prepended sign stands before it. -/
def tabGain (signed : Bool) : Text → Int
  | [] => 0
  | c :: text =>
    (if c = '\t' then tabGainOf signed (text.takeWhile isMark) else 0) +
      tabGain (breakClass c == .prepended) text

theorem charge_of_ne (other : c ≠ '\t') (rest : Text) : charge (c :: rest) = clusterWidth (c :: rest) := by
  simp [charge, other]

theorem charge_marks (text : Text) : charge (text.takeWhile isMark) = clusterWidth (text.takeWhile isMark) := by
  cases marks : text.takeWhile isMark with
  | nil => rfl
  | cons c rest =>
    apply charge_of_ne
    rintro rfl
    have member : '\t' ∈ text.takeWhile isMark := by simp [marks]
    have mark := List.mem_takeWhile_imp member
    rw [isMark_tab] at mark
    contradiction

/-- What the rest of the open cluster becomes when tabs behind it turn into spaces: only
prepended signs take a space in. -/
def Draws (seam : Seam) (rest spaced : Text) : Prop :=
  spaced = rest ∨
    seam = .prepended ∧ spaced = rest ++ [' '] ∧ ∀ c ∈ rest, breakClass c = .prepended

theorem Draws.width {seam : Seam} (draws : Draws (seam.step (breakClass c)).2 rest spaced)
    (other : c ≠ '\t') : clusterWidth (c :: spaced) = charge (c :: rest) := by
  rw [charge_of_ne other]
  rcases draws with rfl | ⟨after, rfl, signs⟩
  · rfl
  · have sign := Seam.step_eq_prepended.mp after
    apply clusterWidth_signs_space
    rintro d (_ | ⟨_, member⟩)
    · exact sign
    · exact signs d member

/-- A sign that joins the open cluster follows another one. -/
theorem Draws.cons {seam : Seam} (draws : Draws (seam.step (breakClass c)).2 rest spaced)
    (joins : (seam.step (breakClass c)).1 = false) : Draws seam (c :: rest) (c :: spaced) := by
  rcases draws with rfl | ⟨after, rfl, signs⟩
  · exact .inl rfl
  · have sign := Seam.step_eq_prepended.mp after
    rw [sign] at joins
    refine .inr ⟨Seam.eq_prepended_of_joins joins, rfl, ?_⟩
    rintro d (_ | ⟨_, member⟩)
    · exact sign
    · exact signs d member

theorem Draws.eq_of_ne {seam : Seam} (draws : Draws seam rest spaced) (other : seam ≠ .prepended) :
    spaced = rest := by
  rcases draws with same | ⟨sign, -⟩
  · exact same
  · contradiction

/-- Read alone, marks at the start of a text are a cluster; at a plain seam they are the
rest of the open one. -/
theorem charges_clusters (text : Text) :
    charges (clusters text) = charge (resume .plain text).1 + charges (resume .plain text).2 := by
  cases text with
  | nil => rfl
  | cons c text =>
    rcases step : Seam.plain.step (breakClass c) with ⟨ends, next⟩
    have start : (Seam.start (breakClass c)).2 = next := congrArg Prod.snd step
    rw [clusters, start]
    cases ends with
    | true =>
      rw [resume_of_ends step]
      simp [charges, charge, clusterWidth]
    | false =>
      rw [resume_of_joins step]
      simp [charges]

theorem resume_space_of_plain (text : Text) :
    resume .plain (' ' :: text) = ([], (' ' :: (resume .plain text).1) :: (resume .plain text).2) :=
  resume_of_ends (by rw [breakClass_space]; rfl) text

theorem clusterWidth_space : clusterWidth [' '] = 1 := rfl

/-- Reading the spaces and reading the tabs from one seam. -/
structure Measured (seam : Seam) (text : Text) : Prop where
  draws : Draws seam (resume seam text).1 (resume seam (expandTabs text)).1
  widths : (cells (resume seam (expandTabs text)).2 : Int) =
    charges (resume seam text).2 + tabGain (seam == .prepended) text

theorem Measured.widths_of_plain (measured : Measured .plain text) :
    (cells (resume .plain (expandTabs text)).2 : Int) =
      charges (resume .plain text).2 + tabGain false text :=
  measured.widths

/-- A tab after a prepended sign: its first space goes to the sign, its marks to the tab. -/
theorem measured_tab_signed (later : Measured .plain text) : Measured .prepended ('\t' :: text) := by
  have raw : Seam.prepended.step (breakClass '\t') = (true, .plain) := by rw [breakClass_tab]; rfl
  have first : Seam.prepended.step (breakClass ' ') = (false, .plain) := by rw [breakClass_space]; rfl
  have spaced := later.draws.eq_of_ne nofun
  have widths := later.widths_of_plain
  constructor
  · rw [expandTabs_tab, resume_of_ends raw, resume_of_joins first, resume_space_of_plain]
    exact .inr ⟨rfl, rfl, by simp⟩
  · rw [expandTabs_tab, resume_of_ends raw, resume_of_joins first, resume_space_of_plain,
      resume_space_of_plain, spaced, tabGain, if_pos rfl, ← resume_plain_fst, breakClass_tab]
    change _ = _ + (tabGainOf true _ + tabGain false text)
    simp only [cells, charges, tabGainOf, clusterWidth_space, if_true]
    omega

/-- Any other tab: its marks are left to a cluster of their own. -/
theorem measured_tab (later : Measured .plain text) (unsigned : seam ≠ .prepended) :
    Measured seam ('\t' :: text) := by
  have raw : seam.step (breakClass '\t') = (true, .control) := by
    rw [breakClass_tab, Seam.step_tab unsigned]
  have first : seam.step (breakClass ' ') = (true, .plain) := by
    rw [breakClass_space, Seam.step_space unsigned]
  have spaced := later.draws.eq_of_ne nofun
  have widths : (cells (resume .plain (expandTabs text)).2 : Int) =
    charges (resume .plain text).2 + tabGain false text := later.widths
  have marks := charge_marks text
  have alone := charges_clusters text
  have space : clusterWidth [' '] = 1 := by decide
  have three : charge ['\t'] = 3 := rfl
  have other : (seam == .prepended) = false := by simpa using unsigned
  constructor
  · rw [expandTabs_tab, resume_of_ends raw, resume_of_ends first]
    exact .inl rfl
  · rw [← resume_plain_fst] at marks
    rw [expandTabs_tab, resume_of_ends raw, resume_of_ends first, resume_space_of_plain,
      resume_space_of_plain, resume_control, spaced, other, tabGain, if_pos rfl, ← resume_plain_fst,
      breakClass_tab]
    change _ = _ + (tabGainOf false _ + tabGain false text)
    simp only [cells, charges, tabGainOf, clusterWidth_space, three, alone, marks, Bool.false_eq_true, if_false]
    omega

theorem measured_cons (later : Measured (seam.step (breakClass c)).2 text) (other : c ≠ '\t') :
    Measured seam (c :: text) := by
  have sign : ((seam.step (breakClass c)).2 == .prepended) = (breakClass c == .prepended) := by
    rw [Bool.eq_iff_iff, beq_iff_eq, beq_iff_eq, Seam.step_eq_prepended]
  have widths := later.widths
  rw [sign] at widths
  cases ends : (seam.step (breakClass c)).1 with
  | true =>
    have step : seam.step (breakClass c) = (true, (seam.step (breakClass c)).2) := Prod.ext ends rfl
    have first := later.draws.width other
    constructor
    · rw [expandTabs_of_ne other, resume_of_ends step, resume_of_ends step]
      exact .inl rfl
    · rw [expandTabs_of_ne other, resume_of_ends step, resume_of_ends step, tabGain, if_neg other]
      simp only [cells, charges, first]
      omega
  | false =>
    have step : seam.step (breakClass c) = (false, (seam.step (breakClass c)).2) := Prod.ext ends rfl
    constructor
    · rw [expandTabs_of_ne other, resume_of_joins step, resume_of_joins step]
      exact later.draws.cons ends
    · rw [expandTabs_of_ne other, resume_of_joins step, resume_of_joins step, tabGain, if_neg other]
      simp only [widths]
      omega

theorem measured (seam : Seam) (text : Text) : Measured seam text := by
  induction text generalizing seam with
  | nil => exact ⟨.inl rfl, rfl⟩
  | cons c text ih =>
    by_cases tab : c = '\t'
    · subst tab
      by_cases signed : seam = .prepended
      · exact signed ▸ measured_tab_signed (ih .plain)
      · exact measured_tab (ih .plain) signed
    · exact measured_cons (ih _) tab

/-- The measure is what the cut charges and what the tabs gain. -/
theorem width_eq_charges (text : Text) :
    (width text : Int) = charges (clusters text) + tabGain false text := by
  have read := (measured .control text).widths
  rw [resume_control, resume_control] at read
  rw [width_eq_measure]
  exact read

/-- No tab stands right before a mark. -/
def TabsApart (text : Text) : Prop :=
  text.IsChain fun c next => c = '\t' → isMark next = false

/-- A tab without marks gains nothing, and after a prepended sign it loses a cell. -/
theorem tabGainOf_nil_le (signed : Bool) : tabGainOf signed [] ≤ 0 := by
  cases signed <;> decide

theorem tabGain_le_zero (apart : TabsApart text) (signed : Bool) : tabGain signed text ≤ 0 := by
  induction text generalizing signed with
  | nil => exact Int.le_refl 0
  | cons c text ih =>
    have later := ih apart.tail (breakClass c == .prepended)
    by_cases tab : c = '\t'
    · have marks : text.takeWhile isMark = [] := by
        cases text with
        | nil => rfl
        | cons next text =>
          have other := (List.isChain_cons_cons.mp apart).1 tab
          simp [other]
      have here := tabGainOf_nil_le signed
      rw [tabGain, if_pos tab, marks]
      omega
    · rw [tabGain, if_neg tab]
      omega

end OutlineTable.Display
