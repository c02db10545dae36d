import OutlineTable.Text.Encoding

/-! What a run reports: the events of its work, of which it shows those of a level, and its output. A control
sequence, by which a text steers the terminal that shows it, is an escape, an opening bracket, any number of
parameters and a letter. Where there is no terminal they are left out, in one pass from left to right: a
sequence that is never finished stays, and so does one that only the leaving out brings together. -/
namespace OutlineTable

inductive Level
  | debug
  | info
  | warning
  | error
  deriving DecidableEq, Repr

namespace Level

def rank : Level → Nat
  | .debug => 10
  | .info => 20
  | .warning => 30
  | .error => 40

def name : Level → Text
  | .debug => "debug".toList
  | .info => "info".toList
  | .warning => "warning".toList
  | .error => "error".toList

def all : List Level := [.debug, .info, .warning, .error]

def ofName? (text : Text) : Option Level :=
  all.find? fun level => level.name == text

def label : Level → Text
  | .debug => "DEBUG".toList
  | .info => "INFO".toList
  | .warning => "WARNING".toList
  | .error => "ERROR".toList

end Level

inductive Event
  | headingsRead (count : Nat) (source : Text)
  | descriptorSkipped (spec : Text)
  | tableGenerated (rows headings columns : Nat)
  | configUnreadable (path : Text)
  | configIgnored (path : Text)
  deriving DecidableEq, Repr

namespace Event

def level : Event → Level
  | .headingsRead .. => .info
  | .descriptorSkipped .. | .tableGenerated .. => .debug
  | .configUnreadable .. | .configIgnored .. => .warning

def channel : Event → Text
  | .headingsRead .. => "tagtable.cli".toList
  | .descriptorSkipped .. => "tagtable.columns".toList
  | .tableGenerated .. => "tagtable.table".toList
  | .configUnreadable .. | .configIgnored .. => "tagtable.config".toList

def message : Event → Text
  | .headingsRead count source =>
    "Read ".toList ++ Text.ofNat count ++ " headings from ".toList ++ source
  | .descriptorSkipped spec => "Skipping empty column descriptor in ".toList ++ spec.quoted
  | .tableGenerated rows headings columns =>
    "Generated ".toList ++ Text.ofNat rows ++ " of ".toList ++ Text.ofNat headings ++
    " rows for ".toList ++ Text.ofNat columns ++ " columns".toList
  | .configUnreadable path => "Error reading config ".toList ++ path
  | .configIgnored path =>
    "Ignoring config ".toList ++ path ++ ": expected a JSON object".toList

def line (stamp : Text) (event : Event) : Text :=
  stamp ++ " [".toList ++ event.level.label ++ "] ".toList ++ event.channel ++ ": ".toList ++
  event.message ++ ['\n']

end Event

/-- The lines of the events that a run at this level shows. -/
def logText (stamp : Text) (least : Level) (events : List Event) : Text :=
  (events.filter fun event => least.rank ≤ event.level.rank).flatMap (Event.line stamp)

namespace Text

/-- A parameter is a semicolon, a question mark or a decimal digit. -/
def isParameter (c : Char) : Bool :=
  let point := c.toNat
  point == 0x3B || point == 0x3F || (0x30 ≤ point && point ≤ 0x39)

def isLetter (c : Char) : Bool :=
  let point := c.toNat
  (0x41 ≤ point && point ≤ 0x5A) || (0x61 ≤ point && point ≤ 0x7A)

/-- How much of a control sequence has been read, its parameters last first. -/
inductive Opening
  | none
  | escape
  | bracket (parameters : Text)
  deriving DecidableEq, Repr

namespace Opening

def text : Opening → Text
  | .none => []
  | .escape => ['\x1b']
  | .bracket parameters => '\x1b' :: '[' :: parameters.reverse

/-- The text that one more character shows to stay, and the opening after it. -/
def next (opening : Opening) (c : Char) : Text × Opening :=
  if c = '\x1b' then (opening.text, .escape)
  else match opening with
    | .none => ([c], .none)
    | .escape => if c = '[' then ([], .bracket []) else (['\x1b', c], .none)
    | .bracket parameters =>
      if isParameter c then ([], .bracket (c :: parameters))
      else if isLetter c then ([], .none)
      else (Opening.text (.bracket parameters) ++ [c], .none)

/-- What stays of a text before which an opening has been read. -/
def rest : Opening → Text → Text
  | opening, [] => opening.text
  | opening, c :: text => (opening.next c).1 ++ rest (opening.next c).2 text

end Opening

/-- A text without its control sequences. -/
def withoutSequences (text : Text) : Text :=
  Opening.none.rest text

end Text

namespace Command

/-- What an action says before its events are written out. -/
structure Report where
  code : Nat := 0
  output : Text := []
  events : List Event := []
  complaint : Text := []
  deriving DecidableEq, Repr

structure Output where
  code : Nat
  stdout : Text
  stderr : Text
  deriving DecidableEq, Repr

/-- What surrounds a run besides the files: the time as the log writes it, the standard
input, and whether a terminal shows the output. -/
structure Console where
  stamp : Text
  stdin : ByteArray
  terminal : Bool

/-- Control sequences reach a terminal only, and the log leaves them as they are. -/
def Report.print (report : Report) (console : Console) (least : Level) : Output where
  code := report.code
  stdout := if console.terminal then report.output else Text.withoutSequences report.output
  stderr := logText console.stamp least report.events ++ report.complaint

end Command

end OutlineTable
