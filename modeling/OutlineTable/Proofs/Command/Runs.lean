import OutlineTable.Proofs.Command.Storing

/-! Runs one after another on the same files. -/
namespace OutlineTable.Command

/-- A command line, and what surrounds it when it is run. -/
structure Invocation where
  console : Console
  words : List Text

def Invocation.spec? (invocation : Invocation) : Option Text :=
  storedSpec? invocation.words

/-- One run of a sequence, with the files as it finds them. -/
structure Turn where
  before : Workspace
  invocation : Invocation

variable {w : Workspace} {invocations : List Invocation} {spec : Text}

namespace Turn

def result (turn : Turn) : Workspace × Except Refusal Output :=
  run turn.before turn.invocation.console turn.invocation.words

def after (turn : Turn) : Workspace := turn.result.1

def code (turn : Turn) : Nat := exitCode turn.result.2

theorem after_of_spec?_eq_none (turn : Turn) (other : turn.invocation.spec? = none) : turn.after = turn.before :=
  run_of_storedSpec?_eq_none other

/-- What a run that stores its spec does to the defaults. -/
theorem load_after {turn : Turn} (asks : turn.invocation.spec? = some spec) (done : turn.code = 0) :
    ∃ stored warning, turn.before.load = .ok (stored, warning) ∧
      turn.after.load = .ok ({ stored with columns := spec }, none) := by
  cases storing_run turn.before turn.invocation.console asks with
  | stored stored warning loaded saved => exact ⟨stored, warning, loaded, Workspace.load_saved saved⟩
  | unloaded problem failed same stopped => simp [code, result, stopped] at done
  | refused stored warning failure loaded failed stopped => simp [code, result, stopped] at done

end Turn

/-- The runs of a sequence: each finds the files as the one before it left them. -/
def turns (w : Workspace) : List Invocation → List Turn
  | [] => []
  | invocation :: later => ⟨w, invocation⟩ :: turns (Turn.mk w invocation).after later

def runAll (w : Workspace) : List Invocation → Workspace
  | [] => w
  | invocation :: later => runAll (Turn.mk w invocation).after later

/-- The specs that a sequence asks to store, in order. -/
def specs (invocations : List Invocation) : List Text :=
  invocations.filterMap Invocation.spec?

/-- Every run that asks to store a spec does so. -/
def AllStore (w : Workspace) (invocations : List Invocation) : Prop :=
  ∀ turn ∈ turns w invocations, turn.invocation.spec? ≠ none → turn.code = 0

theorem AllStore.head (done : AllStore w (invocation :: later)) (asks : invocation.spec? = some spec) :
    (Turn.mk w invocation).code = 0 :=
  done _ List.mem_cons_self (by simp [asks])

theorem AllStore.tail (done : AllStore w (invocation :: later)) : AllStore (Turn.mk w invocation).after later :=
  fun turn later => done turn (List.mem_cons_of_mem _ later)

theorem specs_cons_of_none (other : invocation.spec? = none) : specs (invocation :: later) = specs later :=
  List.filterMap_cons_none other

theorem specs_cons_of_some (asks : invocation.spec? = some spec) : specs (invocation :: later) = spec :: specs later :=
  List.filterMap_cons_some asks

theorem runAll_of_specs_eq_nil (nothing : specs invocations = []) : runAll w invocations = w := by
  induction invocations with
  | nil => rfl
  | cons invocation later ih =>
    cases asks : invocation.spec? with
    | none =>
      rw [specs_cons_of_none asks] at nothing
      rw [runAll, Turn.after_of_spec?_eq_none _ asks]
      exact ih nothing
    | some spec =>
      rw [specs_cons_of_some asks] at nothing
      contradiction

/-- The columns are those stored last, and all else is as the first run found it. -/
theorem load_runAll (done : AllStore w invocations) (last : (specs invocations).getLast? = some spec) :
    ∃ stored warning, w.load = .ok (stored, warning) ∧
      (runAll w invocations).load = .ok ({ stored with columns := spec }, none) := by
  induction invocations generalizing w with
  | nil => simp [specs] at last
  | cons invocation later ih =>
    cases asks : invocation.spec? with
    | none =>
      rw [specs_cons_of_none asks] at last
      have same := Turn.after_of_spec?_eq_none ⟨w, invocation⟩ asks
      have rest := done.tail
      rw [same] at rest
      rw [runAll, same]
      exact ih rest last
    | some first =>
      rw [specs_cons_of_some asks, List.getLast?_cons] at last
      obtain ⟨stored, warning, found, left⟩ := Turn.load_after asks (done.head asks)
      refine ⟨stored, warning, found, ?_⟩
      cases final : (specs later).getLast? with
      | none =>
        obtain rfl : first = spec := by simpa [final] using last
        rw [runAll, runAll_of_specs_eq_nil (List.getLast?_eq_none_iff.mp final)]
        exact left
      | some other =>
        obtain rfl : other = spec := by simpa [final] using last
        -- what the rest finds is what the first one left
        obtain ⟨next, warning', again, ends⟩ := ih done.tail final
        have same : next = { stored with columns := first } :=
          congrArg Prod.fst (Except.ok.inj (again.symm.trans left))
        rw [runAll, ends, same]

/-- Where every spec is stored, a sequence of runs changes nothing but the columns of the defaults,
and a run that asks for no such thing changes no file. -/
theorem runs_store_columns_only (w : Workspace) (invocations : List Invocation) :
    (∀ turn ∈ turns w invocations, turn.invocation.spec? = none → turn.after = turn.before) ∧
    ∀ spec, AllStore w invocations → (specs invocations).getLast? = some spec →
      ∃ stored warning, w.load = .ok (stored, warning) ∧
        (runAll w invocations).load = .ok ({ stored with columns := spec }, none) :=
  ⟨fun turn _ other => turn.after_of_spec?_eq_none other, fun _ => load_runAll⟩

/-- Stored defaults of which only the ellipsis can be used. -/
def mistyped : Workspace where
  tree := ((Tree.empty.put ["work".toList] .directory).put ["work".toList, "cfg".toList] .directory).put
    ["work".toList, "cfg".toList, "config.json".toList]
    (.file (Text.utf8 "\x7b\"columns\": 3, \"ellipsis\": \"~\"\x7d".toList))
  place := ["work".toList]
  home := "/home".toList
  configDir := some "cfg".toList

def session : List Invocation := [
  ⟨quiet, ["config".toList]⟩,
  ⟨quiet, storeA⟩,
  ⟨quiet, ["render".toList, "-".toList]⟩,
  ⟨quiet, ["config".toList, "set-columns".toList, "b:5".toList]⟩,
  ⟨quiet, ["columns".toList, "--normalize".toList, "c".toList]⟩]

theorem runs_store_columns_only_mistyped :
    (∃ turn ∈ turns mistyped session, turn.invocation.spec? = none ∧ turn.after = turn.before) ∧
      AllStore mistyped session ∧ (specs session).getLast? = some "b:5".toList ∧
      ∃ stored warning, mistyped.load = .ok (stored, warning) ∧
        (runAll mistyped session).load = .ok ({ stored with columns := "b:5".toList }, none) := by
  obtain ⟨others, stores⟩ := runs_store_columns_only mistyped session
  have done : AllStore mistyped session := by
    unfold AllStore
    decide +kernel
  have last : (specs session).getLast? = some "b:5".toList := by decide +kernel
  have shows : Turn.mk mistyped ⟨quiet, ["config".toList]⟩ ∈ turns mistyped session := List.mem_cons_self
  have other : (Turn.mk mistyped ⟨quiet, ["config".toList]⟩).invocation.spec? = none := by decide +kernel
  exact ⟨⟨_, shows, other, others _ shows other⟩, done, last, stores _ done last⟩

end OutlineTable.Command
