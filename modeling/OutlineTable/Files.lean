import OutlineTable.Text.Encoding

/-! Files. A path is in normal form: `.` parts and empty parts are dropped, `..` parts are kept. A file
tree says what stands at each location. Names are followed one by one, and every name but the last must
lead through a directory. A name that is too long is refused where a directory is asked for it, whether
or not anything could stand there. -/
namespace OutlineTable

/-- The slashes that begin an absolute path, none for a relative one, and the names. -/
structure Path where
  slashes : Text
  names : List Text
  deriving DecidableEq, Repr

namespace Path

/-- Exactly two slashes are kept apart from one; three or more are as good as one. -/
def leadingSlashes : Text → Text
  | '/' :: '/' :: '/' :: _ => ['/']
  | '/' :: '/' :: _ => ['/', '/']
  | '/' :: _ => ['/']
  | _ => []

def isName (part : Text) : Bool :=
  !part.isEmpty && part != ['.']

def ofText (text : Text) : Path where
  slashes := leadingSlashes text
  names := (text.split '/').filter isName

/-- The path of nothing is a single dot. -/
def toText (path : Path) : Text :=
  if path.slashes.isEmpty && path.names.isEmpty then ['.']
  else path.slashes ++ Text.join '/' path.names

/-- The text of a path takes at most so many bytes. -/
def limit : Nat := 4095

def isLong (text : Text) : Bool :=
  limit < text.byteCount

def child (path : Path) (name : Text) : Path :=
  { path with names := path.names ++ [name] }

def isRelative (path : Path) : Bool :=
  path.slashes.isEmpty

end Path

/-- The names from the root to a place. -/
abbrev Location := List Text

inductive Entry
  | directory
  | file (content : ByteArray)

/-- Why a file operation failed. -/
inductive Fault
  | notFound
  | notDirectory
  | isDirectory
  | alreadyExists
  | nameTooLong
  deriving DecidableEq, Repr

/-- Of two entries at one location the first counts; a location without one is vacant. -/
structure Tree where
  entries : List (Location × Entry)

namespace Tree

def empty : Tree := ⟨[]⟩

/-- The root is always a directory. -/
def get? (tree : Tree) : Location → Option Entry
  | [] => some .directory
  | location => tree.entries.lookup location

def put (tree : Tree) (location : Location) (entry : Entry) : Tree :=
  ⟨(location, entry) :: tree.entries⟩

/-- Removes a place and all that is below it. -/
def remove (tree : Tree) (location : Location) : Tree :=
  ⟨tree.entries.filter fun entry => !location.isPrefixOf entry.1⟩

def parentName : Text := ['.', '.']

/-- A name takes at most so many bytes. -/
def nameLimit : Nat := 255

def isLong (name : Text) : Bool :=
  nameLimit < name.byteCount

/-- Where a path leads. What stands there is not looked at. -/
def follow (tree : Tree) (place : Location) : List Text → Except Fault Location
  | [] => .ok place
  | name :: names =>
    match tree.get? place with
    | some .directory =>
      if isLong name then .error .nameTooLong
      else tree.follow (if name = parentName then place.dropLast else place ++ [name]) names
    | some (.file _) => .error .notDirectory
    | none => .error .notFound

/-- What stands where a path leads, nothing if it leads nowhere. -/
def find (tree : Tree) (place : Location) (names : List Text) : Except Fault (Option Entry) :=
  match tree.follow place names with
  | .ok location => .ok (tree.get? location)
  | .error .notFound => .ok none
  | .error .notDirectory => .ok none
  | .error fault => .error fault

def isDirectory (tree : Tree) (place : Location) (names : List Text) : Bool :=
  match tree.find place names with
  | .ok (some .directory) => true
  | _ => false

def read (tree : Tree) (place : Location) (names : List Text) : Except Fault ByteArray := do
  match tree.get? (← tree.follow place names) with
  | some (.file content) => return content
  | some .directory => throw .isDirectory
  | none => throw .notFound

/-- Makes a file or replaces its content. -/
def write (tree : Tree) (place : Location) (names : List Text) (content : ByteArray) :
    Except Fault Tree := do
  let location ← tree.follow place names
  match tree.get? location with
  | some .directory => throw .isDirectory
  | _ => return tree.put location (.file content)

def makeDirectory (tree : Tree) (place : Location) (names : List Text) : Except Fault Tree := do
  let location ← tree.follow place names
  match tree.get? location with
  | some _ => throw .alreadyExists
  | none => return tree.put location .directory

/-- Makes a directory unless it is there. -/
def ensureDirectory (tree : Tree) (place : Location) (names : List Text) : Except Fault Tree :=
  match tree.makeDirectory place names with
  | .ok made => .ok made
  | .error fault => if tree.isDirectory place names then .ok tree else .error fault

/-- A fault, and the names it was met at. -/
structure Failure where
  fault : Fault
  names : List Text
  deriving DecidableEq, Repr

/-- Makes a directory and those above it, the names given last first. The directories
made before a failure stay. -/
def ensureDirectories (tree : Tree) (place : Location) : List Text → Tree × Option Failure
  | [] =>
    match tree.ensureDirectory place [] with
    | .ok made => (made, none)
    | .error fault => (tree, some ⟨fault, []⟩)
  | name :: above =>
    let names := (name :: above).reverse
    match tree.ensureDirectory place names with
    | .ok made => (made, none)
    | .error .notFound =>
      match tree.ensureDirectories place above with
      | (grown, some failure) => (grown, some failure)
      | (grown, none) =>
        match grown.ensureDirectory place names with
        | .ok made => (made, none)
        | .error fault => (grown, some ⟨fault, names⟩)
    | .error fault => (tree, some ⟨fault, names⟩)

theorem get?_put (tree : Tree) (location : Location) (entry : Entry) (below : location ≠ []) :
    (tree.put location entry).get? other =
      if other = location then some entry else tree.get? other := by
  cases other with
  | nil => simp [get?, below.symm]
  | cons name names =>
    by_cases same : name :: names = location
    · simp [get?, put, same]
    · simp [get?, put, same, List.lookup_cons, beq_eq_false_iff_ne.mpr same]

end Tree

end OutlineTable
