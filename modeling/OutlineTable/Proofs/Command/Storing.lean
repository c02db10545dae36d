import OutlineTable.Command.Run
import OutlineTable.Proofs.Workspace.Refusing

/-! What a run does to the stored defaults. Only `config set-columns` touches them: it loads them,
puts its spec in and saves the rest again. -/
namespace OutlineTable.Command

variable {w : Workspace} {console : Console} {words : List Text} {spec : Text}

/-- The code that a run ends with. -/
def exitCode : Except Refusal Output → Nat
  | .ok output => output.code
  | .error refusal => refusal.code

/-- The spec that a command line asks to store. -/
def storedSpec? (words : List Text) : Option Text :=
  match Request.read words with
  | .ok ⟨_, .setColumns spec⟩ => some spec
  | _ => none

theorem storedSpec?_eq_some (asks : storedSpec? words = some spec) :
    ∃ level, Request.read words = .ok ⟨level, .setColumns spec⟩ := by
  unfold storedSpec? at asks
  split at asks
  next level stored read => exact ⟨level, read.trans (by rw [Option.some.inj asks])⟩
  next => contradiction

theorem run_eq (read : Request.read words = .ok request) : run w console words =
    ((perform w console.stdin request.action).1,
      (perform w console.stdin request.action).2.map (Report.print · console request.level)) := by
  rw [run, read]

theorem perform_other {action : Action} (other : ∀ spec, action ≠ .setColumns spec) :
    (perform w stdin action).1 = w := by
  cases action with
  | setColumns spec => exact absurd rfl (other spec)
  | help | render | columns | showConfig => rfl

/-- A run that stores nothing changes nothing. -/
theorem run_of_storedSpec?_eq_none (other : storedSpec? words = none) : (run w console words).1 = w := by
  cases read : Request.read words with
  | error problem => rw [run, read]
  | ok request =>
    rw [run_eq read]
    refine perform_other fun spec asks => ?_
    obtain ⟨level, action⟩ := request
    obtain rfl : action = .setColumns spec := asks
    simp [storedSpec?, read] at other

/-- The ways in which a run that stores a spec can end. -/
inductive Storing (w : Workspace) (spec : Text) (after : Workspace) (code : Nat) : Prop
  | unloaded (problem : FileError) : w.load = .error problem → after = w → code = 1 → Storing w spec after code
  | stored (defaults : Defaults) (warning : Option Warning) : w.load = .ok (defaults, warning) →
      w.save { defaults with columns := spec } = (after, none) → code = 0 → Storing w spec after code
  | refused (defaults : Defaults) (warning : Option Warning) (failure : FileError) :
      w.load = .ok (defaults, warning) → w.save { defaults with columns := spec } = (after, some failure) →
      code = 1 → Storing w spec after code

theorem storing_setColumns (level : Level) : Storing w spec (setColumns w spec).1
    (exitCode ((setColumns w spec).2.map (Report.print · console level))) := by
  cases loaded : w.load with
  | error problem =>
    have ends : setColumns w spec = (w, .error (.lostDefaults problem)) := by
      simp only [setColumns, loadDefaults, loaded]
    rw [ends]
    exact .unloaded problem loaded rfl rfl
  | ok found =>
    obtain ⟨defaults, warning⟩ := found
    cases saved : w.save { defaults with columns := spec } with
    | mk after fault =>
      cases fault with
      | none =>
        refine .stored defaults warning loaded ?_ ?_
        · simp only [setColumns, loadDefaults, loaded, saved]
        · simp only [setColumns, loadDefaults, loaded, saved]
          rfl
      | some failure =>
        refine .refused defaults warning failure loaded ?_ ?_
        · simp only [setColumns, loadDefaults, loaded, saved]
        · simp only [setColumns, loadDefaults, loaded, saved]
          rfl

theorem storing_run (w : Workspace) (console : Console) (asks : storedSpec? words = some spec) :
    Storing w spec (run w console words).1 (exitCode (run w console words).2) := by
  obtain ⟨level, read⟩ := storedSpec?_eq_some asks
  rw [run_eq read]
  exact storing_setColumns level

/-- A save that fails changes no file and removes no directory, and the defaults in force stay as
they were unless a name was too long that loading did not come to. A run that could not store its
spec leaves no more behind. -/
theorem inForce_after_failure (w : Workspace) :
    (∀ defaults after failure, w.save defaults = (after, some failure) →
      Tree.Untouched w.tree after.tree ∧ after = { w with tree := after.tree } ∧
        (after.inForce = w.inForce ↔ ¬w.MeetsLongName defaults)) ∧
    (∀ console words spec, storedSpec? words = some spec → exitCode (run w console words).2 = 1 →
      Tree.Untouched w.tree (run w console words).1.tree ∧
        ((run w console words).1.inForce = w.inForce ↔
          ∀ defaults, w.inForce = .ok defaults → ¬w.MeetsLongName { defaults with columns := spec })) ∧
    ∀ defaults, w.MeetsLongName defaults → ∃ name ∈ w.configDirectory.names, Tree.isLong name := by
  refine ⟨fun defaults after failure failed => ?_, fun console words spec asks stopped => ?_,
    fun defaults => Workspace.exists_isLong_of_meetsLongName⟩
  · obtain ⟨untouched, same, -⟩ := Workspace.save_eq_error failed
    have kept := Workspace.inForce_save_iff (w := w) (congrArg Prod.snd failed)
    rw [failed] at kept
    exact ⟨untouched, same, kept⟩
  · cases storing_run w console asks with
    | stored defaults warning loaded saved done =>
      rw [stopped] at done
      contradiction
    | unloaded problem failed same =>
      have nothing : w.inForce = .error problem := by rw [Workspace.inForce, failed]; rfl
      rw [same]
      refine ⟨Tree.untouched_refl _, iff_of_true rfl fun defaults loaded => ?_⟩
      rw [nothing] at loaded
      contradiction
    | refused defaults warning failure loaded failed =>
      have before : w.inForce = .ok defaults := by rw [Workspace.inForce, loaded]; rfl
      have kept := Workspace.inForce_save_iff (w := w) (congrArg Prod.snd failed)
      rw [failed] at kept
      refine ⟨(Workspace.save_eq_error failed).1, kept.trans ?_⟩
      constructor
      · intro clear other again
        obtain rfl : defaults = other := Except.ok.inj (before.symm.trans again)
        exact clear
      · exact fun clear => clear defaults before

/-- A directory stands where the file of the defaults should be, behind one that is missing. -/
def crossed : Workspace where
  tree := ((Tree.empty.put ["work".toList] .directory).put ["work".toList, "cfg".toList] .directory).put
    ["work".toList, "cfg".toList, "config.json".toList] .directory
  place := ["work".toList]
  home := "/home".toList
  configDir := some "x/../cfg".toList

/-- A name that is too long, behind a directory that is missing. -/
def cramped : Workspace where
  tree := Tree.empty.put ["work".toList] .directory
  place := ["work".toList]
  home := "/home".toList
  configDir := some ("nope/".toList ++ List.replicate 256 'a')

def quiet : Console := ⟨[], ByteArray.empty, false⟩

def storeA : List Text := ["config".toList, "set-columns".toList, "a".toList]

theorem inForce_after_failure_crossed :
    ((crossed.save {}).2 = some ⟨.isDirectory, crossed.configPath⟩ ∧
      Tree.Untouched crossed.tree (crossed.save {}).1.tree ∧
      (crossed.save {}).1 = { crossed with tree := (crossed.save {}).1.tree } ∧
      ((crossed.save {}).1.inForce = crossed.inForce ↔ ¬crossed.MeetsLongName {})) ∧
    (storedSpec? storeA = some "a".toList ∧ exitCode (run crossed quiet storeA).2 = 1 ∧
      Tree.Untouched crossed.tree (run crossed quiet storeA).1.tree ∧
      ((run crossed quiet storeA).1.inForce = crossed.inForce ↔
        ∀ defaults, crossed.inForce = .ok defaults →
          ¬crossed.MeetsLongName { defaults with columns := "a".toList })) ∧
    cramped.MeetsLongName {} ∧ ∃ name ∈ cramped.configDirectory.names, Tree.isLong name := by
  have failed : (crossed.save {}).2 = some ⟨.isDirectory, crossed.configPath⟩ := by decide +kernel
  have asks : storedSpec? storeA = some "a".toList := by decide +kernel
  have stopped : exitCode (run crossed quiet storeA).2 = 1 := by decide +kernel
  have meets : cramped.MeetsLongName {} :=
    ⟨⟨{}, by decide +kernel⟩, ⟨.nameTooLong, cramped.configDirectory⟩, by decide +kernel, rfl⟩
  obtain ⟨saves, runs, -⟩ := inForce_after_failure crossed
  obtain ⟨-, -, long⟩ := inForce_after_failure cramped
  exact ⟨⟨failed, saves _ _ _ (Prod.ext rfl failed)⟩, ⟨asks, stopped, runs quiet storeA _ asks stopped⟩,
    meets, long {} meets⟩

/-- The directory that the failed save made lets the next run come to the name that is too long. -/
theorem inForce_lost :
    cramped.inForce = .ok {} ∧
      (cramped.save {}).2 = some ⟨.nameTooLong, cramped.configDirectory⟩ ∧
      (cramped.save {}).1.inForce = .error ⟨.nameTooLong, cramped.configPath⟩ ∧
      exitCode (run cramped quiet storeA).2 = 1 ∧
      (run cramped quiet storeA).1.inForce = .error ⟨.nameTooLong, cramped.configPath⟩ := by
  decide +kernel

end OutlineTable.Command
