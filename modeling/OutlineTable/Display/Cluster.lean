import OutlineTable.Text.Basic
import OutlineTable.Unicode.BreakClass

/-! Visible clusters: the runs of characters that a terminal draws as one. A machine
reads the break class of each character and says whether a cluster ends before it;
the first character always begins a cluster. -/
namespace OutlineTable.Display

open Unicode

/-- What the machine remembers of the characters before the next one. -/
inductive Seam
  | plain
  | carriage
  | control
  | prepended
  | leading
  | vowel
  | trailing
  | pictograph
  | joined
  | regional
  deriving DecidableEq, Repr

/-- Whether a cluster ends before a character of this class, and the seam after it,
when nothing before the character ties it to what precedes. -/
def Seam.start : BreakClass → Bool × Seam
  | .other => (true, .plain)
  | .carriageReturn => (true, .carriage)
  | .lineFeed | .control => (true, .control)
  | .extend | .spacingMark | .joiner => (false, .plain)
  | .pictograph => (true, .pictograph)
  | .regional => (true, .regional)
  | .hangulL => (true, .leading)
  | .hangulLV | .hangulV => (true, .vowel)
  | .hangulLVT | .hangulT => (true, .trailing)
  | .prepended => (true, .prepended)

def Seam.step : Seam → BreakClass → Bool × Seam
  | .plain, next => start next
  | .carriage, .lineFeed => (false, .control)
  | .carriage, next => (true, (start next).2)
  | .control, next => (true, (start next).2)
  | .prepended, .control => (true, .plain)
  | .prepended, .lineFeed => (true, .plain)
  | .prepended, .carriageReturn => (true, .carriage)
  | .prepended, next => (false, (start next).2)
  | .leading, .hangulV => (false, .vowel)
  | .leading, .hangulLV => (false, .vowel)
  | .leading, .hangulLVT => (false, .trailing)
  | .leading, .hangulL => (false, .leading)
  | .leading, next => start next
  | .vowel, .hangulV => (false, .vowel)
  | .vowel, .hangulT => (false, .trailing)
  | .vowel, next => start next
  | .trailing, .hangulT => (false, .trailing)
  | .trailing, next => start next
  | .pictograph, .extend => (false, .pictograph)
  | .pictograph, .joiner => (false, .joined)
  | .pictograph, next => start next
  | .joined, .pictograph => (false, .pictograph)
  | .joined, next => start next
  | .regional, .regional => (false, .plain)
  | .regional, next => start next

/-- The rest of the cluster that is open at this seam, and the clusters after it. -/
def resume : Seam → Text → Text × List Text
  | _, [] => ([], [])
  | seam, c :: text =>
    let (ends, next) := seam.step (breakClass c)
    let (rest, later) := resume next text
    if ends then ([], (c :: rest) :: later) else (c :: rest, later)

def clusters : Text → List Text
  | [] => []
  | c :: text =>
    let (rest, later) := resume (Seam.start (breakClass c)).2 text
    (c :: rest) :: later

@[simp] theorem clusters_nil : clusters [] = [] := rfl

theorem resume_flatten (seam : Seam) (text : Text) :
    (resume seam text).1 ++ (resume seam text).2.flatten = text := by
  induction text generalizing seam with
  | nil => rfl
  | cons c text ih =>
    have rest := ih (seam.step (breakClass c)).2
    cases ends : (seam.step (breakClass c)).1 <;> simp [resume, ends, rest]

/-- Clusters only divide a text: nothing is lost, added or moved. -/
theorem clusters_flatten (text : Text) : (clusters text).flatten = text := by
  cases text with
  | nil => rfl
  | cons c text => simp [clusters, resume_flatten]

theorem resume_ne_nil (seam : Seam) (text : Text) :
    ∀ cluster ∈ (resume seam text).2, cluster ≠ [] := by
  induction text generalizing seam with
  | nil => simp [resume]
  | cons c text ih =>
    have later := ih (seam.step (breakClass c)).2
    cases ends : (seam.step (breakClass c)).1 <;> simp_all [resume]

theorem clusters_ne_nil (text : Text) : ∀ cluster ∈ clusters text, cluster ≠ [] := by
  cases text with
  | nil => simp
  | cons c text => simpa [clusters] using resume_ne_nil _ text

end OutlineTable.Display
