import Mathlib.Algebra.GroupWithZero.Nat
import OutlineTable.Proofs.Display.Segmentation

/-! Texts side by side. Widths add up where no cluster reaches over the seam: behind a closed
text that a detached one follows, and behind a plain character that no mark follows. A row of
texts that are closed and detached is as wide as its texts and the characters between them. -/
namespace OutlineTable.Display

open Unicode Text

/-- A text that takes in nothing behind it but marks. -/
def Closed (text : Text) : Prop :=
  ∀ c ∈ text.getLast?, breakClass c ≠ .prepended

/-- A text that ends with a character of no class of its own. -/
def EndsPlain (text : Text) : Prop :=
  ∀ c ∈ text.getLast?, breakClass c = .other ∨ c = '\t'

/-- A text that begins with no mark. -/
def BeginsFresh (text : Text) : Prop :=
  ∀ c ∈ text.head?, isMark c = false

-- Named, so that the one character at the end is tried and not every character there is.
instance (text : Text) : Decidable (Closed text) := Option.decidableForallMem text.getLast?

instance (text : Text) : Decidable (BeginsFresh text) := Option.decidableForallMem text.head?

theorem Seam.after_concat (seam : Seam) (text : Text) (c : Char) :
    seam.after (text ++ [c]) = ((seam.after text).step (breakClass c)).2 := by
  simp [Seam.after]

theorem Seam.step_other (seam : Seam) : (seam.step .other).2 = .plain := by
  cases seam <;> rfl

/-- The last character decides on the seam, a tab by its last space. -/
theorem exists_after_expandTabs (front : Text) (c : Char) :
    ∃ seam : Seam, Seam.control.after (expandTabs (front ++ [c])) =
      (seam.step (breakClass (if c = '\t' then ' ' else c))).2 := by
  by_cases tab : c = '\t'
  · have spaced : expandTabs (front ++ [c]) = expandTabs front ++ [' ', ' '] ++ [' '] := by
      simp [expandTabs, tab]
    rw [spaced, Seam.after_concat, if_pos tab]
    exact ⟨_, rfl⟩
  · have same : expandTabs (front ++ [c]) = expandTabs front ++ [c] := by
      simp [expandTabs, tab]
    rw [same, Seam.after_concat, if_neg tab]
    exact ⟨_, rfl⟩

theorem after_ne_prepended (closed : Closed text) : Seam.control.after (expandTabs text) ≠ .prepended := by
  rcases List.eq_nil_or_concat text with rfl | ⟨front, c, rfl⟩
  · exact nofun
  · obtain ⟨seam, ends⟩ := exists_after_expandTabs front c
    rw [List.concat_eq_append, ends]
    apply mt Seam.step_eq_prepended.mp
    split
    · rw [breakClass_space]
      exact nofun
    · exact closed c (by simp)

theorem after_eq_plain (some : text ≠ []) (plain : EndsPlain text) :
    Seam.control.after (expandTabs text) = .plain := by
  rcases List.eq_nil_or_concat text with rfl | ⟨front, c, rfl⟩
  · contradiction
  · obtain ⟨seam, ends⟩ := exists_after_expandTabs front c
    have other : breakClass (if c = '\t' then ' ' else c) = .other := by
      split
      next => exact breakClass_space
      next different => exact (plain c (by simp)).resolve_right different
    rw [List.concat_eq_append, ends, other, Seam.step_other]

/-- A text that is read behind another as it is read alone adds its own width. -/
theorem width_append_of_resume
    (read : resume (Seam.control.after (expandTabs before)) (expandTabs after) =
      ([], clusters (expandTabs after))) :
    width (before ++ after) = width before + width after := by
  have joined := width_append before after
  have none : seamGain before after = 0 := by
    rw [seamGain, read, width_eq_measure, measure, clusterSum]
    simp
  omega

theorem width_append_of_detached (closed : Closed before) (detached : Detached after) :
    width (before ++ after) = width before + width after := by
  cases after with
  | nil => simp
  | cons c after =>
    obtain ⟨first, rest, spaced, other⟩ := expandTabs_of_detached detached
    have ends : (Seam.control.after (expandTabs before)).step (breakClass first) = (true, .plain) := by
      rw [other, Seam.step_space (after_ne_prepended closed)]
    apply width_append_of_resume
    rw [spaced, resume_of_ends ends, clusters, other]
    rfl

theorem expandTabs_of_fresh (fresh : BeginsFresh (c :: text)) :
    ∃ first rest, expandTabs (c :: text) = first :: rest ∧ isMark first = false := by
  by_cases tab : c = '\t'
  · exact ⟨' ', ' ' :: ' ' :: expandTabs text, by rw [tab, expandTabs_tab], by decide⟩
  · exact ⟨c, expandTabs text, expandTabs_of_ne tab text, fresh c rfl⟩

theorem width_append_of_plain (plain : EndsPlain before) (fresh : BeginsFresh after) :
    width (before ++ after) = width before + width after := by
  by_cases none : before = []
  · simp [none]
  cases after with
  | nil => simp
  | cons c after =>
    obtain ⟨first, rest, spaced, other⟩ := expandTabs_of_fresh fresh
    have ends : Seam.plain.step (breakClass first) = (true, (Seam.start (breakClass first)).2) :=
      Prod.ext (step_plain_of_not_mark other) rfl
    apply width_append_of_resume
    rw [spaced, after_eq_plain none plain, resume_of_ends ends, clusters]

theorem detached_append (first : Detached before) (second : Detached after) : Detached (before ++ after) := by
  cases before with
  | nil => exact second
  | cons c before => exact first

theorem closed_append_of_ne_nil (some : after ≠ []) (second : Closed after) : Closed (before ++ after) := by
  intro c ends
  rw [List.getLast?_append, List.getLast?_eq_some_getLast some, Option.some_or] at ends
  exact second c (by rwa [List.getLast?_eq_some_getLast some])

/-- A text that keeps its clusters to itself wherever it stands between others of the kind. -/
structure Standalone (text : Text) : Prop where
  detached : Detached text
  closed : Closed text

theorem Standalone.append (first : Standalone before) (second : Standalone after) :
    Standalone (before ++ after) where
  detached := detached_append first.detached second.detached
  closed := by
    by_cases none : after = []
    · simpa [none] using first.closed
    · exact closed_append_of_ne_nil none second.closed

/-- Printable ASCII is counted by characters and stands alone. -/
theorem standalone_plain {text : Text} (plain : text.all isPrintableAscii = true) : Standalone text := by
  have other : ∀ c ∈ text, breakClass c = .other := fun c member =>
    breakClass_of_isPrintableAscii (List.all_eq_true.mp plain c member)
  constructor
  · intro c begins
    exact .inl (other c (List.mem_of_mem_head? begins))
  · intro c ends
    rw [other c (List.mem_of_mem_getLast? ends)]
    exact nofun

theorem expandTabs_plain {text : Text} (plain : text.all isPrintableAscii = true) :
    expandTabs text = text := by
  apply expandTabs_of_tabless
  intro tab
  have printable := List.all_eq_true.mp plain '\t' tab
  contradiction

theorem width_plain {text : Text} (plain : text.all isPrintableAscii = true) : width text = text.length := by
  rw [width_eq_measure, measure, expandTabs_plain plain, clusterSum_plain plain]

theorem plain_replicate (plain : isPrintableAscii c = true) (count : Nat) :
    (List.replicate count c).all isPrintableAscii = true := by
  apply List.all_eq_true.mpr
  intro d member
  rw [List.eq_of_mem_replicate member]
  exact plain

theorem width_replicate (plain : isPrintableAscii c = true) (count : Nat) :
    width (List.replicate count c) = count := by
  rw [width_plain (plain_replicate plain count), List.length_replicate]

theorem standalone_join {parts : List Text} (plain : isPrintableAscii mark = true)
    (alone : ∀ part ∈ parts, Standalone part) : Standalone (join mark parts) := by
  have single : Standalone [mark] := standalone_plain (by simp [plain])
  induction parts with
  | nil => exact ⟨nofun, nofun⟩
  | cons first rest ih =>
    have here := alone first List.mem_cons_self
    have later := ih fun part member => alone part (List.mem_cons_of_mem first member)
    cases rest with
    | nil => simpa [join] using here
    | cons second rest =>
      rw [join_two]
      exact here.append (single.append later)

/-- A row of texts takes their widths and a cell for the mark behind each but the last. -/
theorem width_join {parts : List Text} (plain : isPrintableAscii mark = true) (some : parts ≠ [])
    (alone : ∀ part ∈ parts, Standalone part) :
    width (join mark parts) + 1 = (parts.map (width · + 1)).sum := by
  have single : Standalone [mark] := standalone_plain (by simp [plain])
  have one : width [mark] = 1 := width_plain (by simp [plain])
  induction parts with
  | nil => contradiction
  | cons first rest ih =>
    have here := alone first List.mem_cons_self
    cases rest with
    | nil => simp [join]
    | cons second rest =>
      have apart : ∀ part ∈ second :: rest, Standalone part :=
        fun part member => alone part (List.mem_cons_of_mem first member)
      have later := ih (List.cons_ne_nil _ _) apart
      have tail := standalone_join plain apart
      have split : join mark (first :: second :: rest) =
          first ++ ([mark] ++ join mark (second :: rest)) := by
        rw [join_two]
        rfl
      rw [split, width_append_of_detached here.closed (single.append tail).detached,
        width_append_of_detached single.closed tail.detached, List.map_cons, List.sum_cons, ← later]
      omega

end OutlineTable.Display
