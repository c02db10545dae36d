import OutlineTable.Display.Cluster
import OutlineTable.Unicode.CellWidth

/-! Display width: the number of terminal cells a text takes. A text is measured cluster by cluster
after each tab has become three spaces; `width` answers printable ASCII by its length and agrees with
`measure` everywhere. A text is fitted into a number of cells by cutting it at cluster borders, with a
marker for what was left out, or by filling it up with spaces. -/
namespace OutlineTable.Display

open Unicode

/-- Selectors, joiners, skin tones and flag letters, any of which makes a longer
cluster a picture of two cells. -/
def isPictureMark (c : Char) : Bool :=
  let point := c.toNat
  point == 0xFE0F || point == 0x200D ||
  (0x1F3FB ≤ point && point ≤ 0x1F3FF) ||
  (0x1F1E6 ≤ point && point ≤ 0x1F1FF)

/-- Characters that make a longer cluster a picture when they begin it. -/
def beginsPicture (c : Char) : Bool :=
  let point := c.toNat
  0x1F000 ≤ point || (0x2600 ≤ point && point ≤ 0x27BF)

/-- A cluster of one character is as wide as the character. A longer one is two cells
wide if it is a picture, and otherwise as wide as its first character. -/
def clusterWidth : Text → Nat
  | [] => 0
  | [c] => cellWidth c
  | c :: d :: rest =>
    if (c :: d :: rest).any isPictureMark || beginsPicture c then 2 else cellWidth c

def expandTabs (text : Text) : Text :=
  text.flatMap fun c => if c = '\t' then [' ', ' ', ' '] else [c]

/-- The width of a row of clusters. -/
def cells : List Text → Nat
  | [] => 0
  | cluster :: rest => clusterWidth cluster + cells rest

def clusterSum (text : Text) : Nat :=
  cells (clusters text)

def measure (text : Text) : Nat :=
  clusterSum (expandTabs text)

/-- The width of a text without tabs. -/
def expandedWidth (text : Text) : Nat :=
  if text.all isPrintableAscii then text.length else clusterSum text

def width (text : Text) : Nat :=
  if text.isEmpty then 0 else expandedWidth (expandTabs text)

theorem clusterWidth_le_two (cluster : Text) : clusterWidth cluster ≤ 2 := by
  match cluster with
  | [] => exact Nat.zero_le _
  | [c] => exact cellWidth_le_two c
  | c :: d :: rest =>
    simp only [clusterWidth]
    split
    · exact Nat.le_refl _
    · exact cellWidth_le_two c

@[simp] theorem expandTabs_nil : expandTabs [] = [] := rfl

@[simp] theorem expandTabs_append (first second : Text) :
    expandTabs (first ++ second) = expandTabs first ++ expandTabs second := by
  simp [expandTabs]

theorem expandTabs_tab (text : Text) : expandTabs ('\t' :: text) = ' ' :: ' ' :: ' ' :: expandTabs text := by
  simp [expandTabs]

theorem expandTabs_of_ne {c : Char} (other : c ≠ '\t') (text : Text) :
    expandTabs (c :: text) = c :: expandTabs text := by
  simp [expandTabs, other]

theorem tab_not_mem_expandTabs (text : Text) : '\t' ∉ expandTabs text := by
  intro member
  obtain ⟨c, -, inside⟩ := List.mem_flatMap.mp member
  split at inside
  next => simp at inside
  next other => exact other (List.mem_singleton.mp inside).symm

theorem expandTabs_of_tabless {text : Text} (tabless : '\t' ∉ text) : expandTabs text = text := by
  induction text with
  | nil => rfl
  | cons c text ih =>
    obtain ⟨other, later⟩ := List.ne_and_not_mem_of_not_mem_cons tabless
    rw [expandTabs_of_ne other.symm, ih later]

/-- Once the tabs are spaces, the measure has nothing left to expand. -/
@[simp] theorem measure_expandTabs (text : Text) : measure (expandTabs text) = measure text := by
  rw [measure, expandTabs_of_tabless (tab_not_mem_expandTabs text), measure]

theorem breakClass_of_isPrintableAscii {c : Char} (h : isPrintableAscii c = true) :
    breakClass c = .other := by
  have all : ∀ n : Fin 95, breakClass (Char.ofNat (0x20 + n.val)) = .other := by decide
  simp only [isPrintableAscii, Bool.and_eq_true, decide_eq_true_eq] at h
  have this := all ⟨c.toNat - 0x20, by omega⟩
  have value : 0x20 + (c.toNat - 0x20) = c.toNat := by omega
  rwa [value, Char.ofNat_toNat] at this

/-- Every printable ASCII character is a cluster of its own. -/
theorem resume_plain {text : Text} (h : text.all isPrintableAscii = true) :
    resume .plain text = ([], text.map fun c => [c]) := by
  induction text with
  | nil => rfl
  | cons c text ih =>
    obtain ⟨first, rest⟩ := Bool.and_eq_true_iff.mp h
    simp [resume, breakClass_of_isPrintableAscii first, Seam.step, Seam.start, ih rest]

theorem clusters_plain {text : Text} (h : text.all isPrintableAscii = true) :
    clusters text = text.map fun c => [c] := by
  cases text with
  | nil => rfl
  | cons c text =>
    obtain ⟨first, rest⟩ := Bool.and_eq_true_iff.mp h
    simp [clusters, breakClass_of_isPrintableAscii first, Seam.start, resume_plain rest]

theorem clusterSum_plain {text : Text} (h : text.all isPrintableAscii = true) :
    clusterSum text = text.length := by
  rw [clusterSum, clusters_plain h]
  induction text with
  | nil => rfl
  | cons c text ih =>
    obtain ⟨first, rest⟩ := Bool.and_eq_true_iff.mp h
    simp only [List.map_cons, cells, clusterWidth, cellWidth_of_isPrintableAscii first, ih rest,
      List.length_cons]
    omega

theorem expandedWidth_eq (text : Text) : expandedWidth text = clusterSum text := by
  unfold expandedWidth
  split
  · next plain => exact (clusterSum_plain plain).symm
  · rfl

/-- The short answer for printable ASCII is the right one. -/
theorem width_eq_measure (text : Text) : width text = measure text := by
  cases text with
  | nil => rfl
  | cons c text => exact expandedWidth_eq _

@[simp] theorem width_nil : width [] = 0 := rfl

/-- What a cluster costs while cutting; a tab costs the three spaces it is shown as. -/
def charge (cluster : Text) : Nat :=
  if cluster = ['\t'] then 3 else clusterWidth cluster

/-- What a row of clusters costs while cutting. -/
def charges : List Text → Nat
  | [] => 0
  | cluster :: rest => charge cluster + charges rest

/-- The leading clusters that fit into a room; the first that does not fit ends them. -/
def takeClusters : Nat → List Text → List Text
  | _, [] => []
  | room, cluster :: rest =>
    if charge cluster ≤ room then cluster :: takeClusters (room - charge cluster) rest
    else []

def take (room : Nat) (text : Text) : Text :=
  (takeClusters room (clusters text)).flatten

/-- A text that fits its limit is left alone. Otherwise the marker is counted first:
where it leaves no room, as much of the marker is shown as fits. -/
def cut (text : Text) (limit : Int) (marker : Text) : Text :=
  if limit ≤ 0 then []
  else if (width text : Int) ≤ limit then text
  else
    let room := limit - (width marker : Int)
    if room ≤ 0 then take limit.toNat marker
    else take room.toNat text ++ marker

def pad (text : Text) (cells : Int) : Text :=
  text ++ List.replicate (cells - (width text : Int)).toNat ' '

theorem takeClusters_isPrefix (room : Nat) (groups : List Text) :
    List.IsPrefix (takeClusters room groups) groups := by
  induction groups generalizing room with
  | nil => exact List.prefix_refl _
  | cons cluster rest ih =>
    unfold takeClusters
    split
    · exact List.prefix_cons_inj cluster |>.mpr (ih _)
    · exact List.nil_prefix

theorem charges_takeClusters_le (room : Nat) (groups : List Text) :
    charges (takeClusters room groups) ≤ room := by
  induction groups generalizing room with
  | nil => exact Nat.zero_le _
  | cons cluster rest ih =>
    unfold takeClusters
    split
    · have later := ih (room - charge cluster)
      simp only [charges]
      omega
    · exact Nat.zero_le _

end OutlineTable.Display
