import OutlineTable.Command.Report
import OutlineTable.Command.Request
import OutlineTable.Table
import OutlineTable.Workspace

/-! A run of the program: the words of its command line and its input lead to an output
and, for `config set-columns` alone, to other files. -/
namespace OutlineTable.Command

/-- Why a run ends without an output. -/
inductive Refusal
  | usage (error : UsageError)
  | undecodable
  | impossibleName
  | lostDefaults (error : FileError)
  | badSpec (error : SpecError)
  deriving DecidableEq, Repr

def Refusal.message : Refusal → Text
  | .usage error => error.message
  | .undecodable => "The source is not UTF-8.".toList
  | .impossibleName => "A file name cannot hold a null character.".toList
  | .lostDefaults error => error.message
  | .badSpec error => error.message

/-- A command line that asks for nothing possible ends with 2, any other fault with 1. -/
def Refusal.code : Refusal → Nat
  | .usage _ => 2
  | _ => 1

/-- An opened source of headings. -/
structure Source where
  name : Text
  content : ByteArray

def Source.standard (stdin : ByteArray) : Source := ⟨"<stdin>".toList, stdin⟩

def Source.text? (source : Source) : Option Text :=
  (Text.ofUtf8? source.content).map Text.unifyLineEnds

/-- Opens the source. A dash stands for standard input. -/
def openSource (w : Workspace) (stdin : ByteArray) : Option Text → Except Refusal Source
  | none => .ok (.standard stdin)
  | some name =>
    if name = ['-'] then .ok (.standard stdin)
    else if name.contains '\x00' then .error .impossibleName
    else match w.openFile name with
      | .ok content => .ok ⟨name, content⟩
      | .error _ => .error (.usage (.unreadableSource name))

def warningEvents (path : Path) : Option Warning → List Event
  | none => []
  | some .unreadable => [.configUnreadable path.toText]
  | some .notObject => [.configIgnored path.toText]

/-- The defaults in force, and the events of loading them. -/
def loadDefaults (w : Workspace) : Except Refusal (Defaults × List Event) :=
  match w.load with
  | .ok (defaults, warning) => .ok (defaults, warningEvents w.configPath warning)
  | .error failure => .error (.lostDefaults failure)

def readSpec (text : Text) : Except Refusal Spec :=
  match Spec.parse text with
  | .ok spec => .ok spec
  | .error problem => .error (.badSpec problem)

def skippedEvents (text : Text) (spec : Spec) : List Event :=
  List.replicate spec.skipped (.descriptorSkipped text)

def noSpec : Text :=
  "No column spec. Pass --columns or run 'tagtable config set-columns <spec>'.\n".toList

/-- Renders headings as a table. The source is opened first and read only once there is
a spec. -/
def render (w : Workspace) (stdin : ByteArray) (request : RenderRequest) :
    Except Refusal Report := do
  let source ← openSource w stdin request.source
  let (defaults, warnings) ← loadDefaults w
  let text := request.columns.getD defaults.columns
  if text.isEmpty then return { code := 1, events := warnings, complaint := noSpec }
  let outline ← source.text?.elim (.error .undecodable) .ok
  let headings := Outline.headings outline
  let spec ← readSpec text
  let table := Table.ofHeadings spec.columns (request.ellipsis.getD defaults.ellipsis) headings
  let rendered :=
    if request.align.getD defaults.align then Aligned.align table.render else table.render
  return {
    output := rendered ++ ['\n']
    events := warnings ++ .headingsRead headings.length source.name :: skippedEvents text spec ++
      [.tableGenerated table.rows.length headings.length table.columns.length] }

def columnLine (column : Column) : Text :=
  column.tag ++ '\t' :: column.title ++ '\t' :: Text.ofInt column.limit ++ ['\n']

def showColumns (text : Text) (normalize : Bool) : Except Refusal Report := do
  let spec ← readSpec text
  return {
    output :=
      if normalize then Spec.print spec.columns ++ ['\n'] else spec.columns.flatMap columnLine
    events := skippedEvents text spec }

def showConfig (w : Workspace) : Except Refusal Report := do
  let (defaults, warnings) ← loadDefaults w
  let columns := if defaults.columns.isEmpty then "(none)".toList else defaults.columns
  return {
    output :=
      "Config: ".toList ++ w.configPath.toText ++
      "\n  columns:  ".toList ++ columns ++
      "\n  ellipsis: ".toList ++ defaults.ellipsis ++
      "\n  align:    ".toList ++ (if defaults.align then "yes\n" else "no\n").toList
    events := warnings }

def setColumns (w : Workspace) (spec : Text) : Workspace × Except Refusal Report :=
  match loadDefaults w with
  | .error refusal => (w, .error refusal)
  | .ok (defaults, warnings) =>
    match w.save { defaults with columns := spec } with
    | (saved, none) =>
      (saved, .ok { output := "Default columns: ".toList ++ spec ++ ['\n'], events := warnings })
    | (changed, some failure) =>
      (changed, .ok {
        code := 1
        events := warnings
        complaint := "Error: Error saving config: ".toList ++ failure.message ++ ['\n'] })

def perform (w : Workspace) (stdin : ByteArray) : Action → Workspace × Except Refusal Report
  | .help page => (w, .ok { output := page.text })
  | .render request => (w, render w stdin request)
  | .columns spec normalize => (w, showColumns spec normalize)
  | .showConfig => (w, showConfig w)
  | .setColumns spec => setColumns w spec

/-- One run of the program. -/
def run (w : Workspace) (console : Console) (words : List Text) :
    Workspace × Except Refusal Output :=
  match Request.read words with
  | .error problem => (w, .error (.usage problem))
  | .ok request =>
    let (after, report) := perform w console.stdin request.action
    (after, report.map fun report => report.print console request.level)

end OutlineTable.Command
