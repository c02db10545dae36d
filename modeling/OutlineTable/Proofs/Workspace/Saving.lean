import OutlineTable.Proofs.Files.Growth
import OutlineTable.Proofs.Json.Reading
import OutlineTable.Workspace

/-! Stored defaults read back. A save writes one file and makes the directories that were missing
on the way to it; what it wrote is what the next run loads. -/
namespace OutlineTable

namespace Defaults

/-- The stored members with their values. -/
def members (defaults : Defaults) : List (Text × Json) := [
  (columnsName, .string defaults.columns),
  (ellipsisName, .string defaults.ellipsis),
  (alignName, .bool defaults.align)]

theorem parse?_print (defaults : Defaults) : Json.parse? defaults.print = some (.object defaults.members) := by
  apply Json.parse?_of_reads
  refine Json.reads_printObject ?_ (List.cons_ne_nil _ _)
  exact .cons ⟨rfl, Json.reads_quote _⟩ (.cons ⟨rfl, Json.reads_quote _⟩
    (.cons ⟨rfl, Json.reads_printBool _⟩ .nil))

theorem ofMembers_members (defaults : Defaults) : ofMembers defaults.members = defaults := rfl

end Defaults

namespace Workspace

theorem readStored_print (defaults : Defaults) :
    readStored defaults.print.utf8 = (defaults, none) := by
  rw [readStored, Text.ofUtf8?_utf8, Option.bind_some, defaults.parse?_print]
  simp only [defaults.ofMembers_members]

theorem paves_makeConfigDirectory (w : Workspace) : Tree.Paves (w.origin w.configDirectory)
    w.configDirectory.names w.tree w.makeConfigDirectory.1 := by
  have paves := Tree.paves_ensureDirectories w.tree (w.origin w.configDirectory)
    w.configDirectory.names.reverse
  rw [List.reverse_reverse] at paves
  simp only [makeConfigDirectory]
  split
  next => exact Tree.paves_refl _ _ _
  next =>
    split
    next grown failure made =>
      rw [made] at paves
      exact paves
    next grown made =>
      rw [made] at paves
      exact paves

theorem write_eq_ok (done : write w path content = .ok written) :
    Path.isLong path.toText = false ∧ w.tree.write (w.origin path) path.names content = .ok written := by
  unfold write at done
  split at done
  next => contradiction
  next short => exact ⟨eq_false_of_ne_true short, done⟩

/-- A save makes directories first and then the file. -/
theorem save_eq_ok {w after : Workspace} (saved : w.save defaults = (after, none)) :
    ∃ grown written, Tree.Paves (w.origin w.configDirectory) w.configDirectory.names w.tree grown ∧
      write { w with tree := grown } w.configPath defaults.print.utf8 = .ok written ∧
      after = { w with tree := written } := by
  unfold save at saved
  have paves := paves_makeConfigDirectory w
  split at saved
  next => simp at saved
  next grown made =>
    rw [made] at paves
    simp only at saved
    split at saved
    next written done => exact ⟨grown, written, paves, done, (Prod.mk.inj saved).1.symm⟩
    next => simp at saved

theorem load_of_leads {w : Workspace} (short : Path.isLong w.configPath.toText = false)
    (leads : w.tree.follow (w.origin w.configPath) w.configPath.names = .ok target)
    (content : w.tree.get? target = some (.file stored)) : w.load = .ok (readStored stored) := by
  have found : w.find w.configPath = .ok (some (.file stored)) := by
    rw [find, if_neg (by simp [short]), Tree.find, leads]
    exact congrArg Except.ok content
  rw [load, found]

/-- What a save has done where the path of the defaults leads to `target`. -/
structure SavedAt (target : Location) (defaults : Defaults) (before after : Workspace) : Prop where
  leads : after.tree.follow (before.origin before.configPath) before.configPath.names = .ok target
  content : after.tree.get? target = some (.file defaults.print.utf8)
  fresh : before.tree.get? target ≠ some .directory
  others : ∀ location ≠ target, Tree.Paved (before.origin before.configDirectory)
    before.configDirectory.names before.tree after.tree location

theorem savedAt_of_save (saved : w.save defaults = (after, none)) :
    Path.isLong w.configPath.toText = false ∧ after = { w with tree := after.tree } ∧
      ∃ target, SavedAt target defaults w after := by
  obtain ⟨grown, written, paves, done, rfl⟩ := save_eq_ok saved
  obtain ⟨short, done⟩ := write_eq_ok done
  obtain ⟨target, reached, other, rfl⟩ := Tree.write_eq_ok done
  have keeps := Tree.keeps_put other (.file defaults.print.utf8)
  have below := Tree.ne_nil_of_get?_ne other
  have leads := Tree.follow_mono keeps reached
  have content : (grown.put target (.file defaults.print.utf8)).get? target =
      some (.file defaults.print.utf8) := by
    rw [Tree.get?_put _ _ _ below, if_pos rfl]
  refine ⟨short, rfl, target, leads, content, ?_, ?_⟩
  · exact fun directory => other (Tree.keeps_of_paves paves target directory)
  · exact fun location apart => (paves location).put other apart

theorem load_saved {w after : Workspace} (saved : w.save defaults = (after, none)) :
    after.load = .ok (defaults, none) := by
  obtain ⟨short, same, target, held⟩ := savedAt_of_save saved
  rw [← readStored_print defaults, same]
  exact load_of_leads short held.leads held.content

/-- Saved defaults are loaded again without a warning. Apart from their file, a save changes only
vacant locations on the way to their directory, which become directories. -/
theorem load_of_save (saved : w.save defaults = (after, none)) :
    after.load = .ok (defaults, none) ∧ after = { w with tree := after.tree } ∧
      ∃ target, SavedAt target defaults w after :=
  ⟨load_saved saved, (savedAt_of_save saved).2⟩

/-- A directory behind one that is still missing. -/
def roundabout : Workspace where
  tree := Tree.empty.put ["work".toList] .directory
  place := ["work".toList]
  home := "/home".toList
  configDir := some "x/../cfg".toList

/-- One character for each way of writing one. -/
def escapes : Defaults where
  columns := ['\x22', '\\', '\n', '\x01', '~', '\x7f', 'é', '😀']
  ellipsis := []
  align := true

theorem load_of_save_roundabout :
    (roundabout.save escapes).2 = none ∧
      (roundabout.save escapes).1.load = .ok (escapes, none) ∧
      (roundabout.save escapes).1 = { roundabout with tree := (roundabout.save escapes).1.tree } ∧
      ∃ target, SavedAt target escapes roundabout (roundabout.save escapes).1 := by
  have done : (roundabout.save escapes).2 = none := by decide +kernel
  exact ⟨done, load_of_save (Prod.ext rfl done)⟩

end Workspace

end OutlineTable
