import Mathlib.Order.Bounds.Defs
import OutlineTable.Proofs.Display.Standalone
import OutlineTable.Proofs.Display.Tabs

/-! Cut texts. The clusters that are taken of a text are the longest leading run whose costs fit into the
room, and they stay clusters of the part that was taken. The cut charges clusters of the text as it stands;
the cut text is measured with spaces for its tabs and as one text with its marker. It stays in its limit
exactly if what the tabs and the seam gain is covered by what the cut left unspent. Without tabs no cluster
costs more than two cells, so the first one that finds no room leaves one cell at most. -/
namespace OutlineTable.Display

open Unicode

variable {groups : List Text} {text marker : Text} {limit : Int} {less room count : Nat}

/-- A leading run is within what is taken exactly if it fits: costs are added up from the first cluster on,
so no run that goes past the first misfit can fit. -/
theorem le_length_takeClusters_iff :
    count ≤ (takeClusters room groups).length ↔
      count ≤ groups.length ∧ charges (groups.take count) ≤ room := by
  induction groups generalizing room count with
  | nil => simp [takeClusters, charges]
  | cons cluster groups ih =>
    cases count with
    | zero => simp [charges]
    | succ count =>
      simp only [List.take_succ_cons, charges, List.length_cons, Nat.add_le_add_iff_right]
      unfold takeClusters
      split
      next fits =>
        have later : count ≤ (takeClusters (room - charge cluster) groups).length ↔
            count ≤ groups.length ∧ charges (groups.take count) ≤ room - charge cluster := ih
        simp only [List.length_cons, Nat.add_le_add_iff_right, later]
        omega
      next misfit =>
        simp only [List.length_nil]
        omega

theorem takeClusters_eq_take (room : Nat) (groups : List Text) :
    takeClusters room groups = groups.take (takeClusters room groups).length :=
  List.prefix_iff_eq_take.mp (takeClusters_isPrefix room groups)

theorem takeClusters_takeClusters (less room : Nat) (groups : List Text) :
    takeClusters less (takeClusters room groups) = takeClusters (min less room) groups := by
  induction groups generalizing less room with
  | nil => rfl
  | cons cluster groups ih =>
    by_cases fits : charge cluster ≤ min less room
    · obtain ⟨first, second⟩ := Nat.le_min.mp fits
      simp only [takeClusters, first, second, fits, if_true, ih, Nat.sub_min_sub_right]
    · by_cases second : charge cluster ≤ room
      · have first : ¬charge cluster ≤ less := fun first => fits (Nat.le_min.mpr ⟨first, second⟩)
        simp only [takeClusters, first, second, fits, if_true, if_false]
      · simp only [takeClusters, second, fits, if_false]

/-- What is taken of a text is its longest run of leading clusters whose costs fit into the room. The run
is cut off between clusters, and taking from it again gives what fits into both rooms. -/
theorem take_longest (text : Text) (room less : Nat) :
    ∃ count,
      IsGreatest {count | count ≤ (clusters text).length ∧ charges ((clusters text).take count) ≤ room} count ∧
      take room text = ((clusters text).take count).flatten ∧
      clusters (take room text) = (clusters text).take count ∧
      take less (take room text) = take (min less room) text := by
  have run := takeClusters_eq_take room (clusters text)
  refine ⟨(takeClusters room (clusters text)).length, ⟨?_, fun count fits => ?_⟩, ?_, ?_, ?_⟩
  · exact le_length_takeClusters_iff.mp (Nat.le_refl _)
  · exact le_length_takeClusters_iff.mpr fits
  · exact congrArg List.flatten run
  · exact (clusters_take room text).trans run
  · calc take less (take room text)
        = (takeClusters less (clusters (take room text))).flatten := rfl
      _ = (takeClusters less (takeClusters room (clusters text))).flatten := by rw [clusters_take]
      _ = take (min less room) text := by rw [takeClusters_takeClusters, take]

/-- The part of a room that no cluster was found for. -/
def spare (room : Nat) (text : Text) : Nat :=
  room - charges (takeClusters room (clusters text))

theorem width_take (room : Nat) (text : Text) :
    (width (take room text) : Int) = room - spare room text + tabGain false (take room text) := by
  have spent := charges_takeClusters_le room (clusters text)
  rw [width_eq_charges, clusters_take, spare]
  omega

theorem take_isPrefix (room : Nat) (text : Text) : take room text <+: text := by
  obtain ⟨left, whole⟩ := takeClusters_isPrefix room (clusters text)
  refine ⟨left.flatten, ?_⟩
  rw [take, ← List.flatten_append, whole, clusters_flatten]

/-- A text that is cut keeps its limit if tabs and seam gain no more than is spare. -/
def Fits (text : Text) (limit : Int) (marker : Text) : Prop :=
  0 < limit → limit < width text →
    if limit ≤ width marker then
      tabGain false (take limit.toNat marker) ≤ spare limit.toNat marker
    else
      tabGain false (take (limit - width marker).toNat text) +
          seamGain (take (limit - width marker).toNat text) marker ≤
        spare (limit - width marker).toNat text

theorem cut_of_nonpos (none : limit ≤ 0) : cut text limit marker = [] := by
  simp [cut, none]

theorem cut_of_width_le (some : 0 < limit) (short : (width text : Int) ≤ limit) :
    cut text limit marker = text := by
  simp [cut, Int.not_le.mpr some, short]

theorem cut_of_marker (some : 0 < limit) (long : limit < width text) (full : limit ≤ width marker) :
    cut text limit marker = take limit.toNat marker := by
  simp [cut, Int.not_le.mpr some, Int.not_le.mpr long, full]

theorem cut_of_room (some : 0 < limit) (long : limit < width text) (room : width marker < limit) :
    cut text limit marker = take (limit - width marker).toNat text ++ marker := by
  have left : ¬(limit - (width marker : Int) ≤ 0) := by omega
  rw [cut, if_neg (Int.not_le.mpr some), if_neg (Int.not_le.mpr long)]
  exact if_neg left

theorem width_cut_le_iff (text : Text) (limit : Int) (marker : Text) :
    (width (cut text limit marker) : Int) ≤ max 0 limit ↔ Fits text limit marker := by
  by_cases some : 0 < limit
  · by_cases long : limit < width text
    · have bound : max 0 limit = limit := by omega
      rw [bound]
      by_cases full : limit ≤ width marker
      · have taken := width_take limit.toNat marker
        rw [cut_of_marker some long full]
        simp only [Fits, some, long, full, forall_const, if_true]
        omega
      · have taken := width_take (limit - width marker).toNat text
        have joined := width_append (take (limit - width marker).toNat text) marker
        rw [cut_of_room some long (Int.not_le.mp full)]
        simp only [Fits, some, long, full, forall_const, if_false]
        omega
    · rw [cut_of_width_le some (Int.not_lt.mp long)]
      simp only [Fits, long, false_implies, implies_true, iff_true]
      omega
  · rw [cut_of_nonpos (Int.not_lt.mp some)]
    simp only [Fits, some, width_nil, false_implies, iff_true]
    omega

/-- Tabs gain nothing as long as no mark follows one, and a detached marker gains nothing
at the seam. -/
theorem fits_of_apart (text : TabsApart body) (mark : TabsApart marker) (detached : Detached marker)
    (limit : Int) : Fits body limit marker := by
  have taken {part : Text} (apart : TabsApart part) (room : Nat) : tabGain false (take room part) ≤ 0 := by
    have start := List.IsChain.prefix apart (take_isPrefix room part)
    exact tabGain_le_zero start false
  intro some long
  have seam := seamGain_le_zero (take (limit - width marker).toNat body) detached
  have ofText := taken text (limit - width marker).toNat
  have ofMarker := taken mark limit.toNat
  split <;> omega

theorem take_ne_nil (nonempty : text ≠ []) (narrow : ∀ cluster ∈ (clusters text).head?, charge cluster ≤ room) :
    take room text ≠ [] := by
  cases groups : clusters text with
  | nil =>
    have flat := clusters_flatten text
    rw [groups] at flat
    exact absurd flat.symm nonempty
  | cons cluster later =>
    have fits : charge cluster ≤ room := narrow cluster (by simp [groups])
    have some : cluster ≠ [] := clusters_ne_nil text cluster (by simp [groups])
    rw [take, groups, takeClusters, if_pos fits, List.flatten_cons]
    exact List.append_ne_nil_of_left_ne_nil some _

/-- With a marker that begins narrow, something is left of every text that has any room. -/
theorem cut_ne_nil_iff (some : marker ≠ []) (narrow : ∀ cluster ∈ (clusters marker).head?, charge cluster ≤ 1) :
    cut text limit marker ≠ [] ↔ text ≠ [] ∧ 1 ≤ limit := by
  by_cases positive : 0 < limit
  · have room : 1 ≤ limit := positive
    rw [and_iff_left room]
    by_cases short : (width text : Int) ≤ limit
    · rw [cut_of_width_le positive short]
    · have long : limit < width text := Int.not_le.mp short
      refine iff_of_true ?_ ?_
      · by_cases full : limit ≤ width marker
        · rw [cut_of_marker positive long full]
          exact take_ne_nil some fun cluster first => Nat.le_trans (narrow cluster first) (by omega)
        · rw [cut_of_room positive long (Int.not_le.mp full)]
          exact List.append_ne_nil_of_right_ne_nil _ some
      · rintro rfl
        rw [width_nil] at long
        omega
  · rw [cut_of_nonpos (Int.not_lt.mp positive)]
    exact iff_of_false (fun other => other rfl) fun both => positive both.2

theorem charge_le_two (other : '\t' ∉ cluster) : charge cluster ≤ 2 := by
  have different : cluster ≠ ['\t'] := by
    rintro rfl
    exact other List.mem_cons_self
  rw [charge, if_neg different]
  exact clusterWidth_le_two cluster

theorem charge_le_two_of_mem (tabless : '\t' ∉ text) (member : cluster ∈ clusters text) : charge cluster ≤ 2 := by
  apply charge_le_two
  intro inside
  apply tabless
  rw [← clusters_flatten text]
  exact List.mem_flatten_of_mem member inside

/-- Narrow clusters that would fill a room leave no more than one cell of it. -/
theorem le_charges_takeClusters {groups : List Text} (narrow : ∀ cluster ∈ groups, charge cluster ≤ 2)
    (enough : room ≤ charges groups) : room ≤ charges (takeClusters room groups) + 1 := by
  induction groups generalizing room with
  | nil => exact Nat.le_succ_of_le enough
  | cons cluster groups ih =>
    have here := narrow cluster List.mem_cons_self
    have rest (less : room - charge cluster ≤ charges groups) :=
      ih (fun other member => narrow other (List.mem_cons_of_mem cluster member)) less
    rw [charges] at enough
    unfold takeClusters
    split
    next fits =>
      have later := rest (by omega)
      rw [charges]
      omega
    next => omega

theorem tabGain_of_tabless (tabless : '\t' ∉ text) (signed : Bool) : tabGain signed text = 0 := by
  induction text generalizing signed with
  | nil => rfl
  | cons c text ih =>
    obtain ⟨other, later⟩ := List.ne_and_not_mem_of_not_mem_cons tabless
    rw [tabGain, if_neg (Ne.symm other), ih later, Int.add_zero]

/-- A text that is cut to less than its width fills the room up to one cell. -/
theorem width_take_of_tabless (tabless : '\t' ∉ text) (enough : room ≤ width text) :
    room ≤ width (take room text) + 1 ∧ width (take room text) ≤ room := by
  have measured := width_eq_charges text
  have taken := width_take room text
  have start : '\t' ∉ take room text := fun inside => tabless ((take_isPrefix room text).subset inside)
  rw [tabGain_of_tabless tabless] at measured
  rw [tabGain_of_tabless start, spare] at taken
  have filled := le_charges_takeClusters (fun _ member => charge_le_two_of_mem tabless member)
    (show room ≤ charges (clusters text) by omega)
  omega

theorem closed_take (unsigned : ∀ c ∈ text, breakClass c ≠ .prepended) (room : Nat) : Closed (take room text) :=
  fun c ends => unsigned c ((take_isPrefix room text).subset (List.mem_of_getLast? ends))

/-- A text is left alone if it fits. Otherwise it is cut between clusters, in front of the marker
or in the marker itself, and what is left reaches its limit or ends one cell before it. -/
theorem cut_tight (tabless : '\t' ∉ text) (unsigned : ∀ c ∈ text, breakClass c ≠ .prepended)
    (untabbed : '\t' ∉ marker) (plain : ∀ c ∈ marker.head?, breakClass c = .other)
    (limit : Int) (positive : 1 ≤ limit) :
    ((width text : Int) ≤ limit → cut text limit marker = text) ∧
    (limit < width text →
      limit - 1 ≤ width (cut text limit marker) ∧ (width (cut text limit marker) : Int) ≤ limit ∧
        ((∃ kept, kept <+: clusters text ∧ cut text limit marker = kept.flatten ++ marker) ∨
          ∃ kept, kept <+: clusters marker ∧ cut text limit marker = kept.flatten)) := by
  refine ⟨cut_of_width_le positive, fun long => ?_⟩
  by_cases full : limit ≤ width marker
  · obtain ⟨filled, within⟩ := width_take_of_tabless untabbed (show limit.toNat ≤ width marker by omega)
    rw [cut_of_marker positive long full]
    exact ⟨by omega, by omega, .inr ⟨_, takeClusters_isPrefix _ _, rfl⟩⟩
  · have room : (width marker : Int) < limit := Int.not_le.mp full
    obtain ⟨filled, within⟩ :=
      width_take_of_tabless tabless (show (limit - width marker).toNat ≤ width text by omega)
    have detached : Detached marker := fun c begins => .inl (plain c begins)
    rw [cut_of_room positive long room, width_append_of_detached (closed_take unsigned _) detached]
    exact ⟨by omega, by omega, .inl ⟨_, takeClusters_isPrefix _ _, rfl⟩⟩

/-- A wide character stands across the border, and one cell is left empty. -/
theorem cut_tight_wide :
    let text : Text := ['日', '本', '語']
    let marker : Text := ['…']
    ('\t' ∉ text ∧ ∀ c ∈ text, breakClass c ≠ .prepended) ∧
      ('\t' ∉ marker ∧ ∀ c ∈ marker.head?, breakClass c = .other) ∧
      (4 < width text ∧ 4 - 1 ≤ width (cut text 4 marker)) ∧ cut text 4 marker = ['日', '…'] := by
  intro text marker
  have tabless : '\t' ∉ text := by decide
  have signs : text.all (breakClass · != .prepended) = true := by decide +kernel
  have unsigned : ∀ c ∈ text, breakClass c ≠ .prepended := fun c member => by
    simpa using List.all_eq_true.mp signs c member
  have plain : ∀ c ∈ marker.head?, breakClass c = .other := by
    intro c begins
    obtain rfl : c = '…' := by simpa [marker, eq_comm] using begins
    decide +kernel
  have long : ((4 : Nat) : Int) < width text := by decide +kernel
  have tight := (cut_tight tabless unsigned (by decide) plain 4 (by decide)).2 long
  exact ⟨⟨tabless, unsigned⟩, ⟨by decide, plain⟩, ⟨by omega, by omega⟩, by decide +kernel⟩

end OutlineTable.Display
