import OutlineTable.Proofs.Display.Standalone

/-! Widths at seams. Each space behind a text adds a cell, unless the text ends in a prepended sign: the
sign takes the first space in, and the padded text ends one cell before the width it was padded to. The
classes of the characters on the two sides of a seam, with spaces in place of tabs, tell where two texts put
together are as wide as the two apart, and where they are no wider. -/
namespace OutlineTable.Display

open Unicode

variable {c : Char} {text before after : Text}

theorem after_eq_prepended (signed : ¬Closed text) : Seam.control.after (expandTabs text) = .prepended := by
  rcases List.eq_nil_or_concat text with rfl | ⟨front, c, rfl⟩
  · exact absurd nofun signed
  · have sign : breakClass c = .prepended := by simpa [Closed] using signed
    have other : c ≠ '\t' := by
      rintro rfl
      rw [breakClass_tab] at sign
      contradiction
    obtain ⟨seam, ends⟩ := exists_after_expandTabs front c
    rw [List.concat_eq_append, ends, if_neg other]
    exact Seam.step_eq_prepended.mpr sign

/-- The last cluster of a text that ends in a prepended sign holds such signs only. -/
theorem exists_last_signs (signed : ¬Closed text) :
    ∃ sign signs, (clusters (expandTabs text)).getLastD [] = sign :: signs ∧
      ∀ c ∈ sign :: signs, breakClass c = .prepended := by
  have ends := after_eq_prepended signed
  have all := (signs_of_after_prepended ends).1
  rw [resume_control] at all
  have some : clusters (expandTabs text) ≠ [] := by
    intro none
    have empty := clusters_flatten (expandTabs text)
    rw [none, List.flatten_nil] at empty
    rw [← empty] at ends
    contradiction
  have last : (clusters (expandTabs text)).getLastD [] ∈ clusters (expandTabs text) := by
    rw [List.getLastD_eq_getLast?, List.getLast?_eq_some_getLast some]
    exact List.getLast_mem some
  obtain ⟨sign, signs, parts⟩ := List.exists_cons_of_ne_nil (clusters_ne_nil _ _ last)
  exact ⟨sign, signs, parts, parts ▸ all⟩

/-- Spaces behind a prepended sign lose the first of them to it, and it grows by nothing. -/
theorem seamGain_spaces (signed : ¬Closed text) (count : Nat) :
    seamGain text (List.replicate (count + 1) ' ') = -1 := by
  have plain (count : Nat) : (List.replicate count ' ').all isPrintableAscii = true := plain_replicate rfl count
  have joins : Seam.prepended.step (breakClass ' ') = (false, .plain) := by rw [breakClass_space]; rfl
  have rest : cells ((List.replicate count ' ').map fun c => [c]) = count := by
    rw [← clusters_plain (plain count)]
    exact (clusterSum_plain (plain count)).trans List.length_replicate
  obtain ⟨sign, signs, last, all⟩ := exists_last_signs signed
  have grown := clusterWidth_signs_space all
  rw [seamGain, after_eq_prepended signed, expandTabs_plain (plain _), width_replicate rfl, last,
    List.replicate_succ, resume_of_joins joins, resume_plain (plain count)]
  simp only [List.cons_append, grown, rest]
  omega

/-- A padded text is as wide as was asked for, or as it was before if that is more. One cell is
missing where spaces were put behind a prepended sign. -/
theorem width_pad (text : Text) (target : Int) :
    (width (pad text target) : Int) =
      max target (width text) - if width text < target ∧ ¬Closed text then 1 else 0 := by
  by_cases short : width text < target
  · obtain ⟨count, missing⟩ : ∃ count : Nat, (target - (width text : Int)).toNat = count + 1 :=
      ⟨(target - (width text : Int)).toNat - 1, by omega⟩
    have spaces := width_replicate (c := ' ') rfl (count + 1)
    by_cases closed : Closed text
    · have detached : Detached (List.replicate (count + 1) ' ') :=
        (standalone_plain (plain_replicate rfl _)).detached
      rw [pad, missing, width_append_of_detached closed detached, spaces,
        if_neg (fun signed => signed.2 closed)]
      omega
    · have joined := width_append text (List.replicate (count + 1) ' ')
      rw [seamGain_spaces closed, spaces] at joined
      rw [pad, missing, joined, if_pos ⟨short, closed⟩]
      omega
  · have none : (target - (width text : Int)).toNat = 0 := by omega
    rw [pad, none, List.replicate_zero, List.append_nil, if_neg fun signed => short signed.1]
    omega

/-- Padding reaches its width exactly where no space has to be put behind a prepended sign. -/
theorem width_pad_eq_iff (text : Text) (target : Int) :
    (width (pad text target) : Int) = max target (width text) ↔ target ≤ width text ∨ Closed text := by
  rw [width_pad]
  by_cases short : width text < target
  · by_cases closed : Closed text
    · simp [closed]
    · simp only [short, closed, not_false_eq_true, and_self, if_true, or_false]
      omega
  · simp [short, Int.not_lt.mp short]

/-- A number sign of three spaces is two cells wide: the first space stands under the sign. -/
theorem padded_sign_short :
    pad ['\u0600'] 3 = ['\u0600', ' ', ' ', ' '] ∧ width (pad ['\u0600'] 3) = 2 ∧
      ¬∀ (text : Text) (target : Int), (width (pad text target) : Int) = max target (width text) := by
  have short : width (pad ['\u0600'] 3) = 2 := by decide +kernel
  refine ⟨by decide +kernel, short, fun reached => ?_⟩
  have three := reached ['\u0600'] 3
  rw [short] at three
  omega

/-- The class of the character that a text is shown to begin with. -/
def firstClass? (text : Text) : Option BreakClass :=
  (expandTabs text).head?.map breakClass

/-- The class of the character that a text is shown to end with. -/
def lastClass? (text : Text) : Option BreakClass :=
  (expandTabs text).getLast?.map breakClass

/-- The classes of the characters that are drawn into a cluster before them. -/
def markClasses : List BreakClass := [.extend, .spacingMark, .joiner]

/-- Seams that no cluster reaches over. -/
inductive Apart (before after : Text) : Prop
  | nothingBefore (none : before = [])
  | nothingAfter (none : after = [])
  | plainAfter (begins : firstClass? after = some .other) (ends : lastClass? before ≠ some .prepended)
  | plainBefore (ends : lastClass? before = some .other) (begins : ∀ mark ∈ markClasses, firstClass? after ≠ some mark)

/-- The class that a character is shown with: spaces are no controls, so a tab changes its class. -/
def shownClass (c : Char) : BreakClass :=
  if c = '\t' then .other else breakClass c

theorem shownClass_tab : shownClass '\t' = .other := if_pos rfl

theorem shownClass_of_ne (other : c ≠ '\t') : shownClass c = breakClass c := if_neg other

theorem shownClass_of_ne_control (other : breakClass c ≠ .control) : shownClass c = breakClass c := by
  apply shownClass_of_ne
  rintro rfl
  exact other breakClass_tab

theorem shownClass_eq_other_iff : shownClass c = .other ↔ breakClass c = .other ∨ c = '\t' := by
  by_cases tab : c = '\t'
  · exact iff_of_true (tab ▸ shownClass_tab) (.inr tab)
  · rw [shownClass_of_ne tab, or_iff_left tab]

theorem firstClass?_eq (text : Text) : firstClass? text = text.head?.map shownClass := by
  cases text with
  | nil => simp [firstClass?]
  | cons c text =>
    rw [firstClass?, List.head?_cons, Option.map_some]
    by_cases tab : c = '\t'
    · rw [tab, expandTabs_tab, List.head?_cons, Option.map_some, breakClass_space, shownClass_tab]
    · rw [expandTabs_of_ne tab, List.head?_cons, Option.map_some, shownClass_of_ne tab]

theorem lastClass?_eq (text : Text) : lastClass? text = text.getLast?.map shownClass := by
  rcases List.eq_nil_or_concat text with rfl | ⟨front, c, rfl⟩
  · simp [lastClass?]
  · rw [lastClass?, List.concat_eq_append, List.getLast?_concat, Option.map_some, expandTabs_append]
    by_cases tab : c = '\t'
    · have last : (expandTabs front ++ expandTabs ['\t']).getLast? = some ' ' := by simp [expandTabs_tab]
      rw [tab, last, Option.map_some, breakClass_space, shownClass_tab]
    · have last : (expandTabs front ++ expandTabs [c]).getLast? = some c := by simp [expandTabs_of_ne tab]
      rw [last, Option.map_some, shownClass_of_ne tab]

theorem breakClass_mem_markClasses (mark : isMark c = true) : breakClass c ∈ markClasses := by
  unfold isMark at mark
  split at mark
  next found => simp [markClasses, found]
  next found => simp [markClasses, found]
  next found => simp [markClasses, found]
  next => contradiction

theorem detached_of_firstClass? (begins : firstClass? text = some .other) : Detached text := by
  intro c first
  rw [firstClass?_eq, first] at begins
  exact shownClass_eq_other_iff.mp (Option.some.inj begins)

theorem endsPlain_of_lastClass? (ends : lastClass? text = some .other) : EndsPlain text := by
  intro c last
  rw [lastClass?_eq, last] at ends
  exact shownClass_eq_other_iff.mp (Option.some.inj ends)

theorem closed_of_lastClass? (ends : lastClass? text ≠ some .prepended) : Closed text := by
  intro c last sign
  apply ends
  rw [lastClass?_eq, last, Option.map_some, shownClass_of_ne_control (by simp [sign]), sign]

theorem beginsFresh_of_firstClass? (begins : ∀ mark ∈ markClasses, firstClass? text ≠ some mark) :
    BeginsFresh text := by
  intro c first
  cases mark : isMark c with
  | false => rfl
  | true =>
    have member := breakClass_mem_markClasses mark
    have other : breakClass c ≠ .control := fun control => by simp [control, markClasses] at member
    exfalso
    apply begins (breakClass c) member
    rw [firstClass?_eq, first, Option.map_some, shownClass_of_ne_control other]

/-- Whatever it is written behind, a text that no cluster takes in adds no more than its own width. -/
theorem width_append_le (before : Text) (detached : Detached after) :
    width (before ++ after) ≤ width before + width after := by
  have joined := width_append before after
  have gain := seamGain_le_zero before detached
  omega

/-- Widths add up where no cluster reaches over the seam. Where a sign that is prepended takes in the
character behind it, the two together are no wider than the two apart. -/
theorem width_append_at_seam (before after : Text) :
    (Apart before after → width (before ++ after) = width before + width after) ∧
    (firstClass? after = some .other → lastClass? before = some .prepended →
      width (before ++ after) ≤ width before + width after) := by
  constructor
  · intro apart
    cases apart with
    | nothingBefore none => simp [none]
    | nothingAfter none => simp [none]
    | plainAfter begins ends =>
      exact width_append_of_detached (closed_of_lastClass? ends) (detached_of_firstClass? begins)
    | plainBefore ends begins =>
      exact width_append_of_plain (endsPlain_of_lastClass? ends) (beginsFresh_of_firstClass? begins)
  · intro begins _
    exact width_append_le before (detached_of_firstClass? begins)

/-- A tab behind a joiner, a number sign behind a tab, and a letter with an accent behind a number sign. -/
theorem width_append_at_seam_signs :
    let joined : Text := ['👩', '\u200d']
    let tab : Text := ['日', '\t']
    let sign : Text := ['\u0600']
    let letter : Text := ['e', '\u0301']
    (Apart joined tab ∧ width (joined ++ tab) = width joined + width tab) ∧
      (Apart tab sign ∧ width (tab ++ sign) = width tab + width sign) ∧
      (firstClass? letter = some .other ∧ lastClass? sign = some .prepended) ∧
      width (sign ++ letter) ≤ width sign + width letter := by
  intro joined tab sign letter
  have plainAfter : Apart joined tab := .plainAfter (by decide +kernel) (by decide +kernel)
  have plainBefore : Apart tab sign := .plainBefore (by decide +kernel) (by decide +kernel)
  have begins : firstClass? letter = some .other := by decide +kernel
  have ends : lastClass? sign = some .prepended := by decide +kernel
  exact ⟨⟨plainAfter, (width_append_at_seam joined tab).1 plainAfter⟩,
    ⟨plainBefore, (width_append_at_seam tab sign).1 plainBefore⟩,
    ⟨begins, ends⟩, (width_append_at_seam sign letter).2 begins ends⟩

end OutlineTable.Display
