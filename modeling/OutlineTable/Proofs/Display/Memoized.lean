import OutlineTable.Display.Memo

/-! Runs of questions to a memo. A question leaves the memo alone or adds the width that was measured for
it, so a memo never holds more texts than it has room for, nor any width but the right one; and every
answer of a run is the measure of its text, whichever way it was found. -/
namespace OutlineTable.Display.Memo

open Unicode

variable {memo : Memo} {text : Text} {held : Nat}

/-- A memo within its capacity that holds each text once, with its width. -/
structure Sound (memo : Memo) : Prop where
  bounded : memo.entries.length ≤ capacity
  distinct : (memo.entries.map Prod.fst).Nodup
  measured : ∀ entry ∈ memo.entries, entry.2 = measure entry.1

theorem sound_empty : empty.Sound where
  bounded := Nat.zero_le capacity
  distinct := List.nodup_nil
  measured := nofun

theorem mem_of_get? (found : memo.get? text = some held) : (text, held) ∈ memo.entries := by
  obtain ⟨before, after, parts, -⟩ := List.lookup_eq_some_iff.mp found
  simp [parts]

theorem not_mem_of_get? (missing : memo.get? text = none) : text ∉ memo.entries.map Prod.fst := by
  intro member
  obtain ⟨entry, found, rfl⟩ := List.mem_map.mp member
  have different := List.lookup_eq_none_iff.mp missing entry found
  simp at different

/-- A full memo is emptied before it takes another text in. -/
theorem sound_insert (sound : memo.Sound) (missing : memo.get? text = none) :
    (memo.insert text (measure text)).Sound := by
  unfold insert
  split
  next full => exact ⟨by simp [capacity], by simp, by simp⟩
  next room =>
    refine ⟨Nat.lt_of_not_le room, List.nodup_cons.mpr ⟨not_mem_of_get? missing, sound.distinct⟩, ?_⟩
    intro entry member
    rcases List.mem_cons.mp member with rfl | older
    · rfl
    · exact sound.measured entry older

/-- What a question can do. The empty text and printable ASCII are answered without the memo; any other text
is found under its expansion, or it is measured and taken in. -/
theorem width_cases (memo : Memo) (text : Text) :
    memo.width text = (measure text, memo) ∨
    (∃ held, memo.get? (expandTabs text) = some held ∧ memo.width text = (held, memo)) ∨
    (memo.get? (expandTabs text) = none ∧
      memo.width text = (measure text, memo.insert (expandTabs text) (measure text))) := by
  cases text with
  | nil => exact .inl rfl
  | cons c text =>
    cases plain : (expandTabs (c :: text)).all isPrintableAscii with
    | true =>
      have short := clusterSum_plain plain
      exact .inl (by simp [width, plain, measure, short])
    | false =>
      cases found : memo.get? (expandTabs (c :: text)) with
      | some held => exact .inr (.inl ⟨held, rfl, by simp [width, plain, found]⟩)
      | none => exact .inr (.inr ⟨rfl, by simp [width, plain, found, measure]⟩)

/-- One question to a sound memo is answered rightly and leaves it sound. -/
theorem width_of_sound (sound : memo.Sound) (text : Text) :
    (memo.width text).1 = measure text ∧ (memo.width text).2.Sound := by
  rcases width_cases memo text with short | ⟨held, found, answer⟩ | ⟨missing, taken⟩
  · rw [short]
    exact ⟨rfl, sound⟩
  · rw [answer]
    have right : held = measure (expandTabs text) := sound.measured (expandTabs text, held) (mem_of_get? found)
    exact ⟨right.trans (measure_expandTabs text), sound⟩
  · rw [taken]
    have kept := sound_insert sound missing
    rw [measure_expandTabs] at kept
    exact ⟨rfl, kept⟩

theorem widths_of_sound (sound : memo.Sound) (texts : List Text) :
    (memo.widths texts).1 = texts.map measure ∧ (memo.widths texts).2.Sound := by
  induction texts generalizing memo with
  | nil => exact ⟨rfl, sound⟩
  | cons text texts ih =>
    obtain ⟨answer, next⟩ := width_of_sound sound text
    obtain ⟨answers, last⟩ := ih next
    exact ⟨List.cons_eq_cons.mpr ⟨answer, answers⟩, last⟩

/-- The memo cannot be told from measuring: every answer of a run is the measure of its text, and after any
number of questions the memo is within its capacity and holds nothing but texts with their measures. -/
theorem widths_empty (texts : List Text) :
    (empty.widths texts).1 = texts.map measure ∧
      ∀ asked, (empty.widths (texts.take asked)).2.Sound :=
  ⟨(widths_of_sound sound_empty texts).1, fun asked => (widths_of_sound sound_empty (texts.take asked)).2⟩

end OutlineTable.Display.Memo
