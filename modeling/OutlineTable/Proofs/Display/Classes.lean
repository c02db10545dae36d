import OutlineTable.Display.Width

/-! What break classes do at a seam. Marks go with the cluster before them, signs that are
prepended take in the character after them, and spaces and tabs begin a cluster
everywhere else. -/
namespace OutlineTable

namespace Unicode

theorem Ranges.mem_of_covers {ranges : Ranges} (covered : ranges.covers point = true) :
    ∃ range ∈ ranges, range.1 ≤ point ∧ point ≤ range.2 := by
  induction ranges with
  | nil => simp at covered
  | cons range rest ih =>
    obtain ⟨low, high⟩ := range
    simp only [Ranges.covers, Bool.and_eq_true, Bool.or_eq_true, decide_eq_true_eq] at covered
    obtain ⟨reached, inside | later⟩ := covered
    · exact ⟨(low, high), List.mem_cons_self, reached, inside⟩
    · obtain ⟨range, member, bounds⟩ := ih later
      exact ⟨range, List.mem_cons_of_mem _ member, bounds⟩

/-- A choice that came out as another than its first answer was made by the rest. -/
theorem passed_of_ite_eq [Decidable p] (found : (if p then first else rest) = result)
    (other : first ≠ result) : ¬p ∧ rest = result := by
  by_cases holds : p
  · rw [if_pos holds] at found
    contradiction
  · exact ⟨holds, by rwa [if_neg holds] at found⟩

theorem covers_of_breakClass_prepended (sign : breakClass c = .prepended) :
    BreakClass.prependedRanges.covers c.toNat = true := by
  obtain ⟨-, found⟩ := passed_of_ite_eq sign nofun
  obtain ⟨-, found⟩ := passed_of_ite_eq found nofun
  obtain ⟨-, found⟩ := passed_of_ite_eq found nofun
  obtain ⟨-, found⟩ := passed_of_ite_eq found nofun
  obtain ⟨-, found⟩ := passed_of_ite_eq found nofun
  obtain ⟨-, found⟩ := passed_of_ite_eq found nofun
  obtain ⟨-, found⟩ := passed_of_ite_eq found nofun
  obtain ⟨-, found⟩ := passed_of_ite_eq found nofun
  by_cases covered : BreakClass.prependedRanges.covers c.toNat = true
  · exact covered
  · rw [if_neg covered] at found
    obtain ⟨-, found⟩ := passed_of_ite_eq found nofun
    obtain ⟨-, found⟩ := passed_of_ite_eq found nofun
    obtain ⟨-, found⟩ := passed_of_ite_eq found nofun
    split at found
    · split at found <;> cases found
    · cases found

theorem uncovered_of_breakClass_other (other : breakClass c = .other) :
    c.toNat ≠ 0x200D ∧ ¬BreakClass.extendRanges.covers c.toNat = true ∧
      ¬BreakClass.regionalRanges.covers c.toNat = true := by
  obtain ⟨-, found⟩ := passed_of_ite_eq other nofun
  obtain ⟨-, found⟩ := passed_of_ite_eq found nofun
  obtain ⟨joiner, found⟩ := passed_of_ite_eq found nofun
  obtain ⟨-, found⟩ := passed_of_ite_eq found nofun
  obtain ⟨mark, found⟩ := passed_of_ite_eq found nofun
  obtain ⟨-, found⟩ := passed_of_ite_eq found nofun
  obtain ⟨-, found⟩ := passed_of_ite_eq found nofun
  obtain ⟨letter, -⟩ := passed_of_ite_eq found nofun
  exact ⟨joiner, mark, letter⟩

@[simp] theorem breakClass_tab : breakClass '\t' = .control := by decide

@[simp] theorem breakClass_space : breakClass ' ' = .other := by decide

end Unicode

namespace Display

open Unicode

/-- Prepended signs lie apart from all that makes pictures. -/
theorem not_picture_of_prepended (sign : breakClass c = .prepended) :
    isPictureMark c = false ∧ beginsPicture c = false := by
  have apart : ∀ range ∈ BreakClass.prependedRanges,
      range.2 < 0x200D ∨ 0xFE0F < range.1 ∧ range.2 < 0x1F000 := by decide
  obtain ⟨range, member, low, high⟩ := Ranges.mem_of_covers (covers_of_breakClass_prepended sign)
  have bounds := apart range member
  simp only [isPictureMark, beginsPicture, Bool.or_eq_false_iff, Bool.and_eq_false_iff,
    beq_eq_false_iff_ne, decide_eq_false_iff_not]
  omega

/-- Selectors, joiners, skin tones and flag letters have classes of their own. -/
theorem not_pictureMark_of_other (other : breakClass c = .other) : isPictureMark c = false := by
  have selector : BreakClass.extendRanges.covers 0xFE0F = true := by decide +kernel
  have tone : ∀ n : Fin 5, BreakClass.extendRanges.covers (0x1F3FB + n.val) = true := by decide +kernel
  have flag : ∀ n : Fin 26, BreakClass.regionalRanges.covers (0x1F1E6 + n.val) = true := by decide +kernel
  obtain ⟨joiner, mark, letter⟩ := uncovered_of_breakClass_other other
  cases picture : isPictureMark c with
  | false => rfl
  | true =>
    exfalso
    simp only [isPictureMark, Bool.or_eq_true, Bool.and_eq_true, beq_iff_eq, decide_eq_true_eq] at picture
    rcases picture with ((point | point) | bounds) | bounds
    · rw [point] at mark
      exact mark selector
    · exact joiner point
    · have covered := tone ⟨c.toNat - 0x1F3FB, by omega⟩
      have point : 0x1F3FB + (c.toNat - 0x1F3FB) = c.toNat := by omega
      rw [point] at covered
      exact mark covered
    · have covered := flag ⟨c.toNat - 0x1F1E6, by omega⟩
      have point : 0x1F1E6 + (c.toNat - 0x1F1E6) = c.toNat := by omega
      rw [point] at covered
      exact letter covered

/-- Characters that are drawn into the cluster before them, unless that is a control. -/
def isMark (c : Char) : Bool :=
  match breakClass c with
  | .extend | .spacingMark | .joiner => true
  | _ => false

theorem isMark_tab : isMark '\t' = false := by decide

theorem step_plain_of_mark (mark : isMark c = true) :
    Seam.plain.step (breakClass c) = (false, .plain) := by
  unfold isMark at mark
  split at mark
  next found => rw [found]; rfl
  next found => rw [found]; rfl
  next found => rw [found]; rfl
  next => contradiction

theorem step_plain_of_not_mark (other : isMark c = false) :
    (Seam.plain.step (breakClass c)).1 = true := by
  unfold isMark at other
  cases found : breakClass c <;> simp [found] at other <;> rfl

/-- At a plain seam the open cluster goes on as long as there are marks. -/
theorem resume_plain_fst (text : Text) : (resume .plain text).1 = text.takeWhile isMark := by
  induction text with
  | nil => rfl
  | cons c text ih =>
    cases mark : isMark c with
    | true => simp [resume, step_plain_of_mark mark, mark, ih]
    | false => simp [resume, step_plain_of_not_mark mark, mark]

theorem Seam.step_eq_prepended {seam : Seam} :
    (seam.step next).2 = .prepended ↔ next = .prepended := by
  cases seam <;> cases next <;> simp [Seam.step, Seam.start]

/-- Only a prepended sign takes another one into its cluster. -/
theorem Seam.eq_prepended_of_joins {seam : Seam} (joins : (seam.step .prepended).1 = false) :
    seam = .prepended := by
  cases seam <;> simp [Seam.step, Seam.start] at joins ⊢

theorem Seam.step_tab {seam : Seam} (other : seam ≠ .prepended) :
    seam.step .control = (true, .control) := by
  cases seam <;> first | contradiction | rfl

theorem Seam.step_space {seam : Seam} (other : seam ≠ .prepended) :
    seam.step .other = (true, .plain) := by
  cases seam <;> first | contradiction | rfl

theorem any_pictureMark_signs {signs : Text} (all : ∀ c ∈ signs, breakClass c = .prepended) :
    signs.any isPictureMark = false := by
  rw [List.any_eq_false]
  intro c member
  simp [(not_picture_of_prepended (all c member)).1]

/-- A cluster that begins with prepended signs is a picture if the rest has a picture mark,
and otherwise as wide as the first sign. -/
theorem clusterWidth_signs {sign : Char} {signs : Text}
    (all : ∀ c ∈ sign :: signs, breakClass c = .prepended) (rest : Text) :
    clusterWidth (sign :: (signs ++ rest)) = if rest.any isPictureMark then 2 else cellWidth sign := by
  have none := any_pictureMark_signs all
  have begins := (not_picture_of_prepended (all sign List.mem_cons_self)).2
  simp only [List.any_cons, Bool.or_eq_false_iff] at none
  cases long : signs ++ rest with
  | nil =>
    obtain ⟨-, rfl⟩ := List.append_eq_nil_iff.mp long
    rfl
  | cons second later => simp [clusterWidth, ← long, none, begins]

/-- A space drawn in by prepended signs takes no room. -/
theorem clusterWidth_signs_space {sign : Char} {signs : Text}
    (all : ∀ c ∈ sign :: signs, breakClass c = .prepended) :
    clusterWidth (sign :: (signs ++ [' '])) = clusterWidth (sign :: signs) := by
  have alone := clusterWidth_signs all []
  rw [List.append_nil] at alone
  rw [clusterWidth_signs all, alone]
  rfl

/-- What follows prepended signs in their cluster adds at most its own width. -/
theorem clusterWidth_signs_append_le {signs : Text} (all : ∀ d ∈ signs, breakClass d = .prepended)
    (other : breakClass c = .other) (rest : Text) :
    clusterWidth (signs ++ c :: rest) ≤ clusterWidth signs + clusterWidth (c :: rest) := by
  cases signs with
  | nil => simp
  | cons sign signs =>
    have alone := clusterWidth_signs all []
    rw [List.append_nil] at alone
    rw [List.cons_append, clusterWidth_signs all, alone]
    split
    next picture =>
      have wide : clusterWidth (c :: rest) = 2 := by
        cases rest with
        | nil => simp [not_pictureMark_of_other other] at picture
        | cons second rest => simp [clusterWidth, picture]
      omega
    next => simp

end Display

end OutlineTable
