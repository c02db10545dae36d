import OutlineTable.Proofs.Files.Obstacles
import OutlineTable.Proofs.Workspace.Saving

/-! Saves that fail. They change no file, and what is loaded after them is what was loaded before,
but for one fault: a name that is too long, behind a directory that was missing, stops loading once
the save has made the directory. -/
namespace OutlineTable

namespace Text

theorem byteCount_append (first second : Text) : byteCount (first ++ second) = byteCount first + byteCount second := by
  induction first with
  | nil => simp [byteCount]
  | cons c first ih => simp [byteCount, ih, Nat.add_assoc]

theorem byteCount_join_concat (mark : Char) (parts : List Text) (last : Text) :
    byteCount (join mark parts) ≤ byteCount (join mark (parts ++ [last])) := by
  induction parts with
  | nil => simp [join, byteCount]
  | cons first rest ih =>
    cases rest with
    | nil => simp [join, List.intercalate, byteCount_append]
    | cons second rest =>
      simp only [List.cons_append, join_two, byteCount_append, byteCount] at ih ⊢
      omega

end Text

namespace Workspace

variable {w after : Workspace} {defaults : Defaults} {failure : FileError} {location : Location} {fault : Fault}

/-- The defaults that a run uses, whatever warning comes with them. -/
def inForce (w : Workspace) : Except FileError Defaults :=
  w.load.map Prod.fst

/-- The fault of a path to the defaults that is too long, or holds a name that is. -/
def tooLong (w : Workspace) : FileError :=
  ⟨.nameTooLong, w.configPath⟩

theorem isLong_iff (text : Text) : Path.isLong text = true ↔ Path.limit < text.byteCount := by
  simp [Path.isLong]

/-- The path to the defaults is no shorter than the path to their directory. -/
theorem isLong_configPath (long : Path.isLong w.configDirectory.toText = true) :
    Path.isLong w.configPath.toText = true := by
  rw [isLong_iff] at long ⊢
  have names := Text.byteCount_join_concat '/' w.configDirectory.names configName
  have whole : w.configPath.toText =
      w.configDirectory.slashes ++ Text.join '/' (w.configDirectory.names ++ [configName]) := by
    simp [configPath, Path.child, Path.toText]
  rw [Path.toText] at long
  rw [whole, Text.byteCount_append]
  split at long
  next =>
    have dot : Text.byteCount ['.'] = 1 := rfl
    simp only [dot, Path.limit] at long
    omega
  next =>
    rw [Text.byteCount_append] at long
    omega

theorem inForce_of_long (long : Path.isLong w.configPath.toText = true) : w.inForce = .error w.tooLong := by
  simp only [inForce, load, find, long, if_true]
  rfl

theorem inForce_of_found (short : Path.isLong w.configPath.toText = false)
    (found : w.tree.find (w.origin w.configPath) w.configPath.names = .ok entry)
    (other : ∀ content, entry ≠ some (.file content)) : w.inForce = .ok {} := by
  have found : w.find w.configPath = .ok entry := by rw [find, short, if_neg (by simp), found]
  simp only [inForce, load, found]
  rcases entry with _ | _ | content
  · rfl
  · rfl
  · exact absurd rfl (other content)

theorem inForce_of_stopped (short : Path.isLong w.configPath.toText = false)
    (stopped : w.tree.follow (w.origin w.configPath) w.configPath.names = .error fault) :
    w.inForce = if fault = .nameTooLong then .error w.tooLong else .ok {} := by
  have nothing (found : w.tree.find (w.origin w.configPath) w.configPath.names = .ok none) : w.inForce = .ok {} :=
    inForce_of_found short found (by simp)
  rcases Tree.follow_eq_error stopped with rfl | rfl | ⟨rfl, -⟩
  · exact nothing (by rw [Tree.find, stopped])
  · exact nothing (by rw [Tree.find, stopped])
  · simp only [inForce, load, find, short, Tree.find, stopped]
    rfl

/-- Why a save fails: the path is too long, something bars the directory, or a directory stands
where the file should be. -/
inductive Refused (w after : Workspace) (fault : Fault) : Prop
  | long : Path.isLong w.configPath.toText = true → Refused w after fault
  | barred : Path.isLong w.configPath.toText = false →
      Tree.Bars after.tree (w.origin w.configDirectory) w.configDirectory.names fault → Refused w after fault
  | occupied : Path.isLong w.configPath.toText = false → fault = .isDirectory →
      Tree.LeadsToDirectory after.tree (w.origin w.configPath) w.configPath.names → Refused w after fault

theorem makeConfigDirectory_eq_none (made : w.makeConfigDirectory = (grown, none)) :
    Tree.LeadsToDirectory grown (w.origin w.configDirectory) w.configDirectory.names := by
  simp only [makeConfigDirectory] at made
  split at made
  next => simp at made
  next =>
    split at made
    next => simp at made
    next ready =>
      rw [(Prod.mk.inj made).1] at ready
      simpa using Tree.leadsToDirectory_of_ensureDirectories ready

theorem refused_of_makeConfigDirectory (refused : w.makeConfigDirectory = (grown, some failure)) :
    Refused w { w with tree := grown } failure.fault := by
  cases long : Path.isLong w.configPath.toText with
  | true => exact .long long
  | false =>
    simp only [makeConfigDirectory] at refused
    split at refused
    next tooLong => simp [isLong_configPath tooLong] at long
    next =>
      split at refused
      next stopped =>
        obtain ⟨rfl, rfl⟩ : _ = grown ∧ ⟨_, _⟩ = failure := by simpa using refused
        have bars := Tree.bars_of_ensureDirectories stopped
        rw [List.reverse_reverse] at bars
        exact .barred long bars
      next => simp at refused

/-- In its directory the file of the defaults can only be in the way of itself. -/
theorem refused_of_write (leads : Tree.LeadsToDirectory w.tree (w.origin w.configDirectory) w.configDirectory.names)
    (refused : w.write w.configPath content = .error fault) : Refused w w fault := by
  cases long : Path.isLong w.configPath.toText with
  | true => exact .long long
  | false =>
    obtain ⟨location, reached, directory⟩ := leads
    have path : w.tree.follow (w.origin w.configPath) w.configPath.names = .ok (location ++ [configName]) := by
      have start : w.tree.follow (w.origin w.configPath) w.configDirectory.names = .ok location := reached
      have last : Tree.isLong configName = false := rfl
      have name : configName ≠ Tree.parentName := by decide
      have names : w.configPath.names = w.configDirectory.names ++ [configName] := rfl
      rw [names, Tree.follow_append, start]
      simp [Except.bind, Tree.follow, directory, last, name]
    rw [write, long, if_neg (by simp)] at refused
    rcases Tree.write_eq_error refused with stopped | ⟨rfl, there⟩
    · rw [path] at stopped
      contradiction
    · exact .occupied long rfl there

theorem save_eq_error (failed : w.save defaults = (after, some failure)) :
    Tree.Untouched w.tree after.tree ∧ after = { w with tree := after.tree } ∧ Refused w after failure.fault := by
  have paves := paves_makeConfigDirectory w
  unfold save at failed
  split at failed
  next stopped =>
    obtain ⟨rfl, rfl⟩ : _ = after ∧ _ = failure := by simpa using failed
    rw [stopped] at paves
    exact ⟨Tree.untouched_of_paves paves, rfl, refused_of_makeConfigDirectory stopped⟩
  next grown made =>
    rw [made] at paves
    simp only at failed
    split at failed
    next => simp at failed
    next fault stopped =>
      obtain ⟨rfl, rfl⟩ : _ = after ∧ ⟨fault, _⟩ = failure := by simpa using failed
      have leads := makeConfigDirectory_eq_none made
      have refused := refused_of_write (w := { w with tree := grown }) leads stopped
      refine ⟨Tree.untouched_of_paves paves, rfl, ?_⟩
      cases refused with
      | long long => exact .long long
      | barred short bars => exact .barred short bars
      | occupied short same leads => exact .occupied short same leads

/-- What was loaded before a failed save is loaded after it, or loading stops at a name that is
too long. -/
theorem inForce_of_refused {grown : Tree} (untouched : Tree.Untouched w.tree grown)
    (refused : Refused w { w with tree := grown } fault) :
    (fault ≠ .nameTooLong → inForce { w with tree := grown } = w.inForce) ∧
    (fault = .nameTooLong → inForce { w with tree := grown } = .error w.tooLong) := by
  have way : w.tree.follow (w.origin w.configPath) w.configPath.names = .error .notFound ∨
      grown.follow (w.origin w.configPath) w.configPath.names =
        w.tree.follow (w.origin w.configPath) w.configPath.names := Tree.follow_of_untouched untouched
  have missing (short : Path.isLong w.configPath.toText = false)
      (stopped : w.tree.follow (w.origin w.configPath) w.configPath.names = .error .notFound) :
      w.inForce = .ok {} := inForce_of_stopped short stopped
  cases refused with
  | long long =>
    have before : w.inForce = .error w.tooLong := inForce_of_long long
    have after : inForce { w with tree := grown } = .error w.tooLong := inForce_of_long long
    exact ⟨fun _ => after.trans before.symm, fun _ => after⟩
  | barred short bars =>
    have stopped := bars [configName] (List.cons_ne_nil _ _)
    have after := inForce_of_stopped (w := { w with tree := grown }) short stopped
    constructor
    · intro other
      simp only [if_neg other] at stopped after
      refine after.trans ?_
      rcases way with vacant | same
      · exact (missing short vacant).symm
      · exact (inForce_of_stopped short (same.symm.trans stopped)).symm
    · rintro rfl
      exact after
  | occupied short same leads =>
    obtain ⟨location, reached, directory⟩ := leads
    have found : grown.find (w.origin w.configPath) w.configPath.names = .ok (some .directory) := by
      rw [Tree.find, reached]
      exact congrArg Except.ok directory
    have after : inForce { w with tree := grown } = .ok {} :=
      inForce_of_found (w := { w with tree := grown }) short found (by simp)
    refine ⟨fun _ => after.trans ?_, fun other => by simp [same] at other⟩
    rcases way with vacant | again
    · exact (missing short vacant).symm
    · have before : w.tree.find (w.origin w.configPath) w.configPath.names = .ok (w.tree.get? location) := by
        rw [Tree.find, ← again, reached]
      refine (inForce_of_found short before fun content file => ?_).symm
      rw [(untouched.files location content).mpr file] at directory
      simp at directory

theorem inForce_eq_error (failed : w.inForce = .error problem) : problem = w.tooLong := by
  cases long : Path.isLong w.configPath.toText with
  | true => simpa [inForce_of_long long] using failed.symm
  | false =>
    cases way : w.tree.follow (w.origin w.configPath) w.configPath.names with
    | error fault =>
      rw [inForce_of_stopped long way] at failed
      split at failed
      next => exact (Except.error.inj failed).symm
      next => contradiction
    | ok location =>
      have found : w.find w.configPath = .ok (w.tree.get? location) := by
        rw [find, long, if_neg (by simp), Tree.find, way]
      cases there : w.tree.get? location with
      | none => simp [inForce, load, found, there, Except.map] at failed
      | some entry => cases entry <;> simp [inForce, load, found, there, Except.map] at failed

/-- A save that stops at a name that is too long, where loading did not: a directory before the
name was missing, and the save made it. -/
def MeetsLongName (w : Workspace) (defaults : Defaults) : Prop :=
  (∃ stored, w.inForce = .ok stored) ∧
    ∃ failure, (w.save defaults).2 = some failure ∧ failure.fault = .nameTooLong

theorem inForce_save_iff (failed : (w.save defaults).2 = some failure) :
    (w.save defaults).1.inForce = w.inForce ↔ ¬w.MeetsLongName defaults := by
  obtain ⟨untouched, same, refused⟩ := save_eq_error (Prod.ext rfl failed)
  rw [same] at refused
  obtain ⟨equal, stops⟩ := inForce_of_refused untouched refused
  rw [← same] at equal stops
  by_cases tooLong : failure.fault = .nameTooLong
  · rw [stops tooLong]
    constructor
    · rintro still ⟨⟨stored, loaded⟩, -⟩
      rw [loaded] at still
      contradiction
    · intro apart
      cases before : w.inForce with
      | error problem => rw [inForce_eq_error before]
      | ok stored => exact absurd ⟨⟨stored, before⟩, failure, failed, tooLong⟩ apart
  · refine iff_of_true (equal tooLong) ?_
    rintro ⟨-, other, failed', fault⟩
    obtain rfl : failure = other := Option.some.inj (failed.symm.trans failed')
    exact tooLong fault

/-- Names that a directory can have never lead to such a save. -/
theorem exists_isLong_of_meetsLongName (meets : w.MeetsLongName defaults) :
    ∃ name ∈ w.configDirectory.names, Tree.isLong name := by
  obtain ⟨⟨stored, loaded⟩, failure, failed, fault⟩ := meets
  obtain ⟨-, same, refused⟩ := save_eq_error (Prod.ext rfl failed)
  rw [same] at refused
  cases refused with
  | long long =>
    have stopped : w.inForce = .error w.tooLong := inForce_of_long long
    rw [loaded] at stopped
    contradiction
  | occupied short directory => simp [directory] at fault
  | barred short bars =>
    have stopped := bars [configName] (List.cons_ne_nil _ _)
    rw [if_pos fault] at stopped
    rcases Tree.follow_eq_error stopped with other | other | ⟨-, name, inside, long⟩
    · contradiction
    · contradiction
    · rcases List.mem_append.mp inside with within | last
      · exact ⟨name, within, long⟩
      · rw [List.mem_singleton.mp last] at long
        exact absurd long (by decide)

end Workspace

end OutlineTable
