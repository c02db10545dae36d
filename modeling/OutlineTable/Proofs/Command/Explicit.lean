import Mathlib.Data.List.Forall2
import OutlineTable.Command.Run
import OutlineTable.Proofs.Text.Parts
import OutlineTable.Proofs.Workspace.Saving

/-! Runs with every option given. A command line written out for a request to render is read back: each
option is one word, its value behind an equals sign, and two dashes keep the source from being taken for an
option. An option and a stored default are two ways to say the same thing to a run that renders. -/
namespace OutlineTable.Command

variable {g : Grammar α} {name value word : Text} {words others later : List Text} {w : Workspace} {console : Console}
  {request : RenderRequest} {stored : Defaults}

/-- A word that says one option and awaits nothing. -/
structure Spells (g : Grammar α) (word : Text) (option : α) : Prop where
  marked : isOption word = true
  apart : word ≠ ['-', '-']
  read : g.readWord word = .ok ⟨[option], none⟩

theorem readAfter_append (spelled : List.Forall₂ (Spells g) words options)
    (rest : g.readAfter none later = .ok parsed) :
    g.readAfter none (words ++ later) = .ok { parsed with options := options ++ parsed.options } := by
  induction spelled with
  | nil => exact rest
  | cons first spelled ih =>
    rw [List.cons_append, Grammar.readAfter, if_neg first.apart, if_pos first.marked, first.read]
    simp only [bind, Except.bind, ih]
    rfl

/-- The name of an option as a word of its own. -/
structure LongName (name : Text) : Prop where
  marked : isOption name = true
  apart : name ≠ ['-', '-']
  plain : '=' ∉ name

theorem LongName.bne (long : LongName name) : ∀ c ∈ name, (c != '=') = true := by
  intro c inside
  rw [bne_iff_ne]
  rintro rfl
  exact long.plain inside

theorem isOption_append (marked : isOption name = true) : isOption (name ++ value) = true := by
  unfold isOption at marked
  split at marked
  next => rfl
  next => contradiction

theorem spells_flag (long : LongName name) (known : g.long? name = some (.flag option)) : Spells g name option := by
  have first : name.takeWhile (· != '=') = name := List.takeWhile_eq_self_iff.mpr long.bne
  have rest : name.dropWhile (· != '=') = [] := List.dropWhile_eq_nil_iff.mpr long.bne
  refine ⟨long.marked, long.apart, ?_⟩
  simp only [Grammar.readWord, first, rest, known]

theorem spells_value (long : LongName name) (known : g.long? name = some (.value option)) :
    Spells g (name ++ '=' :: value) (option value) := by
  have first : (name ++ '=' :: value).takeWhile (· != '=') = name := by
    rw [List.takeWhile_append_of_pos long.bne]
    simp
  have rest : (name ++ '=' :: value).dropWhile (· != '=') = '=' :: value :=
    Text.dropWhile_append_of_head long.bne (by simp)
  refine ⟨isOption_append long.marked, fun dashes => ?_, ?_⟩
  · have inside : '=' ∈ ['-', '-'] := dashes ▸ List.mem_append_right name List.mem_cons_self
    exact absurd inside (by decide)
  · simp only [Grammar.readWord, first, rest, known]

def RenderOption.toWord : RenderOption → Text
  | .columns spec => "--columns".toList ++ '=' :: spec
  | .ellipsis marker => "--ellipsis".toList ++ '=' :: marker
  | .align true => "--align".toList
  | .align false => "--no-align".toList
  | .help => "--help".toList

theorem spells_toWord (option : RenderOption) : Spells renderGrammar option.toWord option := by
  cases option with
  | columns spec => exact spells_value ⟨rfl, by decide, by decide⟩ rfl
  | ellipsis marker => exact spells_value ⟨rfl, by decide, by decide⟩ rfl
  | align value =>
    cases value with
    | true => exact spells_flag ⟨rfl, by decide, by decide⟩ rfl
    | false => exact spells_flag ⟨rfl, by decide, by decide⟩ rfl
  | help => exact spells_flag ⟨rfl, by decide, by decide⟩ rfl

namespace RenderRequest

variable (request : RenderRequest) (level : Level)

def options : List RenderOption :=
  (request.columns.map .columns).toList ++ (request.ellipsis.map .ellipsis).toList ++
    (request.align.map .align).toList

def renderWords : List Text :=
  request.options.map RenderOption.toWord ++ ['-', '-'] :: request.source.toList

/-- A command line for the request. -/
def commandLine : List Text :=
  ("--log-level".toList ++ '=' :: level.name) :: "render".toList :: request.renderWords

theorem parsed_options : .help ∉ request.options ∧
    last? RenderOption.columns? request.options = request.columns ∧
    last? RenderOption.ellipsis? request.options = request.ellipsis ∧
    last? RenderOption.align? request.options = request.align := by
  obtain ⟨source, columns, ellipsis, align⟩ := request
  refine ⟨by simp [options], ?_, ?_, ?_⟩ <;> cases columns <;> cases ellipsis <;> cases align <;> rfl

theorem sourceArgument_source : sourceArgument request.source.toList = .ok request.source := by
  cases request.source <;> rfl

theorem readRender_renderWords : readRender request.renderWords = .ok (.render request) := by
  have spelled : List.Forall₂ (Spells renderGrammar) (request.options.map RenderOption.toWord) request.options := by
    rw [List.forall₂_map_left_iff]
    exact List.forall₂_same.mpr fun option _ => spells_toWord option
  have rest : renderGrammar.readAfter none (['-', '-'] :: request.source.toList) = .ok ⟨[], request.source.toList⟩ := by
    simp [Grammar.readAfter]
  have parsed : renderGrammar.read request.renderWords = .ok ⟨request.options, request.source.toList⟩ :=
    (readAfter_append spelled rest).trans (by simp)
  obtain ⟨other, columns, ellipsis, align⟩ := request.parsed_options
  simp only [readRender, parsed, bind, Except.bind, if_neg other, request.sourceArgument_source, columns,
    ellipsis, align]
  rfl

theorem read_commandLine : Request.read (request.commandLine level) = .ok ⟨level, .render request⟩ := by
  have spelled : Spells mainGrammar ("--log-level".toList ++ '=' :: level.name) (.logLevel level.name) :=
    spells_value ⟨rfl, by decide, by decide⟩ rfl
  have rest : mainGrammar.readAfter none ("render".toList :: request.renderWords) =
      .ok ⟨[], "render".toList :: request.renderWords⟩ := rfl
  have parsed : mainGrammar.read (request.commandLine level) =
      .ok ⟨[.logLevel level.name], "render".toList :: request.renderWords⟩ :=
    readAfter_append (.cons spelled .nil) rest
  have known : readLevel [.logLevel level.name] = .ok level := by cases level <;> rfl
  have command : readCommand "render".toList request.renderWords = .ok (.render request) := by
    rw [readCommand, if_pos rfl]
    exact request.readRender_renderWords
  have other : MainOption.help ∉ [MainOption.logLevel level.name] := by simp
  simp only [Request.read, parsed, bind, Except.bind, if_neg other, known, command]
  rfl

end RenderRequest

/-- The request with every option given: where it leaves one out, the stored default. -/
def RenderRequest.explicit (request : RenderRequest) (stored : Defaults) : RenderRequest where
  source := request.source
  columns := some (request.columns.getD stored.columns)
  ellipsis := some (request.ellipsis.getD stored.ellipsis)
  align := some (request.align.getD stored.align)

theorem render_explicit (loaded : w.load = .ok (stored, warning)) :
    render w stdin request = render w stdin (request.explicit stored) := by
  have found : loadDefaults w = .ok (stored, warningEvents w.configPath warning) := by
    rw [loadDefaults, loaded]
  simp only [render, found, RenderRequest.explicit, Option.getD_some, bind, Except.bind]
  rfl

theorem run_render (read : Request.read words = .ok ⟨level, .render request⟩) : run w console words =
    (w, (render w console.stdin request).map (Report.print · console level)) := by
  rw [run, read]
  rfl

theorem run_eq_run_explicit (loaded : w.load = .ok (stored, warning))
    (read : Request.read words = .ok ⟨level, .render request⟩)
    (explicit : Request.read others = .ok ⟨level, .render (request.explicit stored)⟩) :
    run w console words = run w console others := by
  rw [run_render read, run_render explicit, render_explicit loaded]

/-- A run that renders with some of the options left out is the run with all of them given, those
that were left out as they are stored; and there is a command line that gives them all. -/
theorem run_explicit (w : Workspace) (console : Console) :
    (∀ stored warning words others level request, w.load = .ok (stored, warning) →
      Request.read words = .ok ⟨level, .render request⟩ →
      Request.read others = .ok ⟨level, .render (request.explicit stored)⟩ →
      run w console words = run w console others) ∧
    (∀ level request, Request.read (request.commandLine level) = .ok ⟨level, .render request⟩) ∧
    (∀ (stored : Defaults) after level source, w.save stored = (after, none) →
      run after console (RenderRequest.commandLine ⟨source, none, none, none⟩ level) =
        run after console (RenderRequest.commandLine
          ⟨source, some stored.columns, some stored.ellipsis, some stored.align⟩ level)) := by
  refine ⟨?_, fun level request => request.read_commandLine level, ?_⟩
  · intro stored warning words others level request loaded read explicit
    exact run_eq_run_explicit loaded read explicit
  · intro stored after level source saved
    have loaded := Workspace.load_saved saved
    exact run_eq_run_explicit loaded (RenderRequest.read_commandLine _ level)
      (RenderRequest.read_commandLine (RenderRequest.explicit ⟨source, none, none, none⟩ stored) level)

/-- A place where nothing is stored yet. -/
def vacant : Workspace where
  tree := Tree.empty.put ["work".toList] .directory
  place := ["work".toList]
  home := "/home".toList
  configDir := some "cfg".toList

def reading : Console := ⟨[], Text.utf8 "* first :a:".toList, false⟩

/-- Some options, one of them empty. -/
def brief : List Text := ["render".toList, "-c".toList, [], "--align".toList]

/-- All options, in other spellings. -/
def lengthy : List Text :=
  ["render".toList, "--columns=".toList, "--align".toList, "--ellipsis".toList, "...".toList]

theorem run_explicit_vacant :
    (vacant.load = .ok ({}, none) ∧
      Request.read brief = .ok ⟨.warning, .render ⟨none, some [], none, some true⟩⟩ ∧
      Request.read lengthy = .ok ⟨.warning, .render (RenderRequest.explicit ⟨none, some [], none, some true⟩ {})⟩ ∧
      run vacant reading brief = run vacant reading lengthy) ∧
    (vacant.save ⟨"a".toList, [], true⟩).2 = none ∧
      run (vacant.save ⟨"a".toList, [], true⟩).1 reading (RenderRequest.commandLine ⟨none, none, none, none⟩ .info) =
        run (vacant.save ⟨"a".toList, [], true⟩).1 reading
          (RenderRequest.commandLine ⟨none, some "a".toList, some [], some true⟩ .info) := by
  have loaded : vacant.load = .ok ({}, none) := by decide +kernel
  have read : Request.read brief = .ok ⟨.warning, .render ⟨none, some [], none, some true⟩⟩ := by decide +kernel
  have explicit : Request.read lengthy =
      .ok ⟨.warning, .render (RenderRequest.explicit ⟨none, some [], none, some true⟩ {})⟩ := by decide +kernel
  have saved : (vacant.save ⟨"a".toList, [], true⟩).2 = none := by decide +kernel
  obtain ⟨spelled, _, stored⟩ := run_explicit vacant reading
  exact ⟨⟨loaded, read, explicit, spelled _ _ _ _ _ _ loaded read explicit⟩, saved, stored _ _ _ _ (Prod.ext rfl saved)⟩

end OutlineTable.Command
