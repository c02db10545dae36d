import OutlineTable.Command.Help
import OutlineTable.Command.Report

/-! What the words of a command line ask for. A grammar says which options there are; reading turns the
words into options in the order given and arguments. Each command reads its own options from the words after
its name; asking for help comes before every other fault of its command but a misspelt option. -/
namespace OutlineTable.Command

inductive UsageError
  | unknownOption (name : Text)
  | missingValue (name : Text)
  | unexpectedValue (name : Text)
  | missingArgument (name : Text)
  | unexpectedArgument (word : Text)
  | unknownCommand (name : Text)
  | badLevel (value : Text)
  | unreadableSource (name : Text)
  deriving DecidableEq, Repr

def UsageError.message : UsageError → Text
  | .unknownOption name => "No such option: ".toList ++ name
  | .missingValue name => "Option '".toList ++ name ++ "' requires an argument.".toList
  | .unexpectedValue name => "Option '".toList ++ name ++ "' does not take a value.".toList
  | .missingArgument name => "Missing argument '".toList ++ name ++ "'.".toList
  | .unexpectedArgument word => "Got unexpected extra argument (".toList ++ word ++ ")".toList
  | .unknownCommand name => "No such command '".toList ++ name ++ "'.".toList
  | .badLevel value => "No such log level: ".toList ++ value
  | .unreadableSource name => "Cannot open '".toList ++ name ++ "'.".toList

/-- What an option asks for: nothing, or a value. -/
inductive Handler (α : Type)
  | flag (option : α)
  | value (option : Text → α)

/-- The options by their names, and whether they may stand after arguments. -/
structure Grammar (α : Type) where
  long? : Text → Option (Handler α)
  short? : Char → Option (Handler α)
  mixed : Bool

/-- What one word of options says; the last of its options may take the next word. -/
structure Reading (α : Type) where
  options : List α
  awaits : Option (Text × (Text → α))

structure Parsed (α : Type) where
  options : List α
  arguments : List Text

def isOption : Text → Bool
  | '-' :: _ :: _ => true
  | _ => false

/-- The letters of a word of short options. A value may follow its letter in the word. -/
def Grammar.readShort (g : Grammar α) : Text → Except UsageError (Reading α)
  | [] => .ok ⟨[], none⟩
  | c :: rest =>
    match g.short? c with
    | none => .error (.unknownOption ['-', c])
    | some (.flag option) => do
      let later ← g.readShort rest
      return { later with options := option :: later.options }
    | some (.value option) =>
      if rest.isEmpty then .ok ⟨[], some (['-', c], option)⟩ else .ok ⟨[option rest], none⟩

/-- A word of options is looked up as a whole first; a value may follow its name after an
equals sign. -/
def Grammar.readWord (g : Grammar α) (word : Text) : Except UsageError (Reading α) :=
  let name := word.takeWhile (· != '=')
  match g.long? name, word.dropWhile (· != '=') with
  | some (.flag option), [] => .ok ⟨[option], none⟩
  | some (.flag _), _ :: _ => .error (.unexpectedValue name)
  | some (.value option), [] => .ok ⟨[], some (name, option)⟩
  | some (.value option), _ :: value => .ok ⟨[option value], none⟩
  | none, _ =>
    match word with
    | '-' :: '-' :: _ => .error (.unknownOption name)
    | _ => g.readShort word.tail

/-- Reads the words after an option that may await its value. The value is the next
word, whatever it looks like; two dashes end the options. -/
def Grammar.readAfter (g : Grammar α) :
    Option (Text × (Text → α)) → List Text → Except UsageError (Parsed α)
  | some (name, _), [] => .error (.missingValue name)
  | some (_, option), value :: words => do
    let later ← g.readAfter none words
    return { later with options := option value :: later.options }
  | none, [] => .ok ⟨[], []⟩
  | none, word :: words =>
    if word = ['-', '-'] then .ok ⟨[], words⟩
    else if isOption word then do
      let reading ← g.readWord word
      let later ← g.readAfter reading.awaits words
      return { later with options := reading.options ++ later.options }
    else if g.mixed then do
      let later ← g.readAfter none words
      return { later with arguments := word :: later.arguments }
    else .ok ⟨[], word :: words⟩

def Grammar.read (g : Grammar α) (words : List Text) : Except UsageError (Parsed α) :=
  g.readAfter none words

structure RenderRequest where
  source : Option Text
  columns : Option Text
  ellipsis : Option Text
  align : Option Bool
  deriving DecidableEq, Repr

inductive Action
  | help (page : Page)
  | render (request : RenderRequest)
  | columns (spec : Text) (normalize : Bool)
  | showConfig
  | setColumns (spec : Text)
  deriving DecidableEq, Repr

structure Request where
  level : Level
  action : Action
  deriving DecidableEq, Repr

inductive MainOption
  | logLevel (value : Text)
  | help
  deriving DecidableEq, Repr

inductive RenderOption
  | columns (spec : Text)
  | ellipsis (marker : Text)
  | align (value : Bool)
  | help
  deriving DecidableEq, Repr

inductive ColumnsOption
  | normalize
  | help
  deriving DecidableEq, Repr

inductive HelpOption
  | help
  deriving DecidableEq, Repr

def mainGrammar : Grammar MainOption where
  long? name :=
    if name = "--log-level".toList then some (.value .logLevel)
    else if name = "--help".toList then some (.flag .help)
    else none
  short? _ := none
  mixed := false

def renderGrammar : Grammar RenderOption where
  long? name :=
    if name = "--columns".toList then some (.value .columns)
    else if name = "--ellipsis".toList then some (.value .ellipsis)
    else if name = "--align".toList then some (.flag (.align true))
    else if name = "--no-align".toList then some (.flag (.align false))
    else if name = "--help".toList then some (.flag .help)
    else none
  short? c := if c = 'c' then some (.value .columns) else none
  mixed := true

def columnsGrammar : Grammar ColumnsOption where
  long? name :=
    if name = "--normalize".toList then some (.flag .normalize)
    else if name = "--help".toList then some (.flag .help)
    else none
  short? _ := none
  mixed := true

/-- The grammar of a command that has no option but help. -/
def helpGrammar (mixed : Bool) : Grammar HelpOption where
  long? name := if name = "--help".toList then some (.flag .help) else none
  short? _ := none
  mixed := mixed

/-- Of options that say the same thing the last counts. -/
def last? (meaning : α → Option β) (options : List α) : Option β :=
  options.reverse.findSome? meaning

def MainOption.level? : MainOption → Option Text
  | .logLevel value => some value
  | _ => none

def RenderOption.columns? : RenderOption → Option Text
  | .columns spec => some spec
  | _ => none

def RenderOption.ellipsis? : RenderOption → Option Text
  | .ellipsis marker => some marker
  | _ => none

def RenderOption.align? : RenderOption → Option Bool
  | .align value => some value
  | _ => none

def noArgument : List Text → Except UsageError Unit
  | [] => .ok ()
  | word :: _ => .error (.unexpectedArgument word)

def oneArgument (name : Text) : List Text → Except UsageError Text
  | [] => .error (.missingArgument name)
  | [word] => .ok word
  | _ :: word :: _ => .error (.unexpectedArgument word)

/-- At most one source. A name that no file can have is left to be refused when it is
opened, before a second argument is. -/
def sourceArgument : List Text → Except UsageError (Option Text)
  | [] => .ok none
  | [word] => .ok (some word)
  | word :: other :: _ =>
    if word.contains '\x00' then .ok (some word) else .error (.unexpectedArgument other)

def readRender (words : List Text) : Except UsageError Action := do
  let parsed ← renderGrammar.read words
  if .help ∈ parsed.options then return .help .render
  return .render {
    source := ← sourceArgument parsed.arguments
    columns := last? RenderOption.columns? parsed.options
    ellipsis := last? RenderOption.ellipsis? parsed.options
    align := last? RenderOption.align? parsed.options }

def readColumns (words : List Text) : Except UsageError Action := do
  let parsed ← columnsGrammar.read words
  if .help ∈ parsed.options then return .help .columns
  return .columns (← oneArgument "SPEC".toList parsed.arguments)
    (decide (.normalize ∈ parsed.options))

def readShow (words : List Text) : Except UsageError Action := do
  let parsed ← (helpGrammar true).read words
  if .help ∈ parsed.options then return .help .configShow
  noArgument parsed.arguments
  return .showConfig

def readSetColumns (words : List Text) : Except UsageError Action := do
  let parsed ← (helpGrammar true).read words
  if .help ∈ parsed.options then return .help .configSetColumns
  return .setColumns (← oneArgument "SPEC".toList parsed.arguments)

/-- Without a command of its own `config` shows the defaults. -/
def readConfig (words : List Text) : Except UsageError Action := do
  let parsed ← (helpGrammar false).read words
  if .help ∈ parsed.options then return .help .config
  match parsed.arguments with
  | [] => return .showConfig
  | name :: words =>
    if name = "show".toList then readShow words
    else if name = "set-columns".toList then readSetColumns words
    else throw (.unknownCommand name)

def readCommand (name : Text) (words : List Text) : Except UsageError Action :=
  if name = "render".toList then readRender words
  else if name = "columns".toList then readColumns words
  else if name = "config".toList then readConfig words
  else .error (.unknownCommand name)

def readLevel (options : List MainOption) : Except UsageError Level :=
  match last? MainOption.level? options with
  | none => .ok .warning
  | some value => (Level.ofName? value).elim (.error (.badLevel value)) .ok

/-- Without a command the main help page is asked for. -/
def Request.read (words : List Text) : Except UsageError Request := do
  let parsed ← mainGrammar.read words
  if .help ∈ parsed.options then return ⟨.warning, .help .main⟩
  let level ← readLevel parsed.options
  match parsed.arguments with
  | [] => return ⟨level, .help .main⟩
  | name :: words => return ⟨level, ← readCommand name words⟩

end OutlineTable.Command
