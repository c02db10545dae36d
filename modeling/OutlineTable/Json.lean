import OutlineTable.Text.Encoding

/-! JSON. A number keeps its literal, and an object keeps every member in the order in which it was
written. Values are written in printable ASCII: short escapes where JSON has them, and the UTF-16 units
of every other character outside 0x20 to 0x7e. The scanner reads one character at a time and fails only
inside a string; a word is any run of characters that no other token can hold, and its meaning is decided
later. The reader takes one token at a time; the arrays and objects that are still open wait on a stack. -/
namespace OutlineTable

inductive Json
  | null
  | bool (value : Bool)
  | number (literal : Text)
  | string (text : Text)
  | array (items : List Json)
  | object (members : List (Text × Json))
  deriving Inhabited, Repr

namespace Json

/-- The value under a name; of members of one name the last counts. -/
def member? (members : List (Text × Json)) (name : Text) : Option Json :=
  members.reverse.lookup name

def escape (c : Char) : Text :=
  if c = '\x22' then ['\\', '\x22']
  else if c = '\\' then ['\\', '\\']
  else if c = '\n' then ['\\', 'n']
  else if c = '\r' then ['\\', 'r']
  else if c = '\t' then ['\\', 't']
  else if c = '\x08' then ['\\', 'b']
  else if c = '\x0c' then ['\\', 'f']
  else if 0x20 ≤ c.toNat ∧ c.toNat ≤ 0x7E then [c]
  else (Text.unitsOf c).flatMap fun unit => '\\' :: 'u' :: Text.hex 4 unit

def quote (text : Text) : Text :=
  '\x22' :: text.flatMap escape ++ ['\x22']

def printBool : Bool → Text
  | true => ['t', 'r', 'u', 'e']
  | false => ['f', 'a', 'l', 's', 'e']

def printMember (member : Text × Text) : Text :=
  ' ' :: ' ' :: quote member.1 ++ ':' :: ' ' :: member.2

/-- An object over several lines, its members indented by two spaces; each member is a
name and a value already written. -/
def printObject (members : List (Text × Text)) : Text :=
  '{' :: '\n' :: List.intercalate [',', '\n'] (members.map printMember) ++ ['\n', '}']

inductive Mark
  | openBrace
  | closeBrace
  | openBracket
  | closeBracket
  | comma
  | colon
  deriving DecidableEq, Repr

def Mark.ofChar? : Char → Option Mark
  | '{' => some .openBrace
  | '}' => some .closeBrace
  | '[' => some .openBracket
  | ']' => some .closeBracket
  | ',' => some .comma
  | ':' => some .colon
  | _ => none

inductive Token
  | mark (mark : Mark)
  | word (letters : Text)
  | string (text : Text)
  deriving DecidableEq, Repr

namespace Token

/-- Where the scanner stands. Letters and UTF-16 units are held last first. -/
inductive Mode
  | between
  | word (letters : Text)
  | string (units : List Nat)
  | escape (units : List Nat)
  | code (units : List Nat) (digits : Text)
  deriving DecidableEq, Repr

/-- The tokens read so far, last first, and where the scanner stands. -/
structure Scanner where
  tokens : List Token
  mode : Mode
  deriving DecidableEq, Repr

def isSpace (c : Char) : Bool :=
  c == ' ' || c == '\t' || c == '\n' || c == '\r'

/-- The character that a short escape stands for. -/
def unescape? : Char → Option Char
  | '\x22' => some '\x22'
  | '\\' => some '\\'
  | '/' => some '/'
  | 'b' => some '\x08'
  | 'f' => some '\x0c'
  | 'n' => some '\n'
  | 'r' => some '\r'
  | 't' => some '\t'
  | _ => none

/-- Ends the word that is being read. -/
def Scanner.settle (s : Scanner) : List Token :=
  match s.mode with
  | .word letters => .word letters.reverse :: s.tokens
  | _ => s.tokens

/-- A character outside strings. -/
def Scanner.outside (s : Scanner) (c : Char) : Scanner :=
  if c = '\x22' then ⟨s.settle, .string []⟩
  else if isSpace c then ⟨s.settle, .between⟩
  else match Mark.ofChar? c with
    | some found => ⟨.mark found :: s.settle, .between⟩
    | none => match s.mode with
      | .word letters => ⟨s.tokens, .word (c :: letters)⟩
      | _ => ⟨s.tokens, .word [c]⟩

def Scanner.step (s : Scanner) (c : Char) : Option Scanner :=
  match s.mode with
  | .between => some (s.outside c)
  | .word _ => some (s.outside c)
  | .string units =>
    if c = '\x22' then some ⟨.string (Text.ofUnits units.reverse) :: s.tokens, .between⟩
    else if c = '\\' then some ⟨s.tokens, .escape units⟩
    else if c.toNat < 0x20 then none
    else some ⟨s.tokens, .string ((Text.unitsOf c).reverse ++ units)⟩
  | .escape units =>
    if c = 'u' then some ⟨s.tokens, .code units []⟩
    else (unescape? c).map fun meant => ⟨s.tokens, .string (meant.toNat :: units)⟩
  | .code units digits =>
    if digits.length < 3 then some ⟨s.tokens, .code units (digits ++ [c])⟩
    else (Text.hexNumber? (digits ++ [c])).map fun unit => ⟨s.tokens, .string (unit :: units)⟩

/-- A text may not end inside a string. -/
def Scanner.finish (s : Scanner) : Option (List Token) :=
  match s.mode with
  | .between | .word _ => some s.settle.reverse
  | _ => none

def scan? (text : Text) : Option (List Token) := do
  let scanned ← text.foldlM Scanner.step ⟨[], .between⟩
  scanned.finish

end Token

def isAsciiDigit (c : Char) : Bool :=
  0x30 ≤ c.toNat && c.toNat ≤ 0x39

/-- The most digits of an integer that is still read. -/
def maxIntegerDigits : Nat := 4300

/-- Drops one digit or more. -/
def afterDigits? (text : Text) : Option Text :=
  let rest := text.dropWhile isAsciiDigit
  if rest.length = text.length then none else some rest

def afterFraction? : Text → Option Text
  | '.' :: text => afterDigits? text
  | text => some text

def afterSign : Text → Text
  | '+' :: text => text
  | '-' :: text => text
  | text => text

def afterExponent? : Text → Option Text
  | 'e' :: text => afterDigits? (afterSign text)
  | 'E' :: text => afterDigits? (afterSign text)
  | text => some text

def afterMinus : Text → Text
  | '-' :: text => text
  | text => text

/-- A number has no needless zero before its integer part. Only integers are limited in
their digits: a fraction or an exponent may follow any number of them. -/
def isNumber (word : Text) : Bool :=
  let unsigned := afterMinus word
  let digits := unsigned.takeWhile isAsciiDigit
  let rest := unsigned.dropWhile isAsciiDigit
  if digits.isEmpty || (digits.head? == some '0' && digits.length != 1) then false
  else if rest.isEmpty then digits.length ≤ maxIntegerDigits
  else (afterFraction? rest).bind afterExponent? == some []

def ofWord? (word : Text) : Option Json :=
  if word = ['n', 'u', 'l', 'l'] then some .null
  else if word = ['t', 'r', 'u', 'e'] then some (.bool true)
  else if word = ['f', 'a', 'l', 's', 'e'] then some (.bool false)
  else if word = ['N', 'a', 'N'] ∨ word = ['I', 'n', 'f', 'i', 'n', 'i', 't', 'y'] ∨
      word = ['-', 'I', 'n', 'f', 'i', 'n', 'i', 't', 'y'] ∨ isNumber word then
    some (.number word)
  else none

/-- An open array or object, its content last first. An object waits for the value of a
name. -/
inductive Frame
  | array (items : List Json)
  | object (members : List (Text × Json)) (name : Text)

/-- What may come next. -/
inductive Goal
  | value
  | firstItem
  | firstName
  | name (members : List (Text × Json))
  | colon (members : List (Text × Json)) (name : Text)
  | after (value : Json)

structure Reader where
  stack : List Frame
  goal : Goal

namespace Reader

/-- A token that begins a value. -/
def start (stack : List Frame) : Token → Option Reader
  | .word letters => (ofWord? letters).map fun value => ⟨stack, .after value⟩
  | .string text => some ⟨stack, .after (.string text)⟩
  | .mark .openBracket => some ⟨stack, .firstItem⟩
  | .mark .openBrace => some ⟨stack, .firstName⟩
  | .mark _ => none

/-- A token after a value: the container that holds the value goes on or closes. -/
def continue? (value : Json) : List Frame → Token → Option Reader
  | .array items :: stack, .mark .comma => some ⟨.array (value :: items) :: stack, .value⟩
  | .array items :: stack, .mark .closeBracket =>
    some ⟨stack, .after (.array (value :: items).reverse)⟩
  | .object members name :: stack, .mark .comma => some ⟨stack, .name ((name, value) :: members)⟩
  | .object members name :: stack, .mark .closeBrace =>
    some ⟨stack, .after (.object ((name, value) :: members).reverse)⟩
  | _, _ => none

def step (r : Reader) (token : Token) : Option Reader :=
  match r.goal, token with
  | .value, token => start r.stack token
  | .firstItem, .mark .closeBracket => some ⟨r.stack, .after (.array [])⟩
  | .firstItem, token => start (.array [] :: r.stack) token
  | .firstName, .mark .closeBrace => some ⟨r.stack, .after (.object [])⟩
  | .firstName, .string name => some ⟨r.stack, .colon [] name⟩
  | .name members, .string name => some ⟨r.stack, .colon members name⟩
  | .colon members name, .mark .colon => some ⟨.object members name :: r.stack, .value⟩
  | .after value, token => continue? value r.stack token
  | _, _ => none

/-- A text is one value and nothing after it. -/
def finish (r : Reader) : Option Json :=
  match r.stack, r.goal with
  | [], .after value => some value
  | _, _ => none

end Reader

def parse? (text : Text) : Option Json := do
  let tokens ← Token.scan? text
  let read ← tokens.foldlM Reader.step ⟨[], .value⟩
  read.finish

end Json

end OutlineTable
