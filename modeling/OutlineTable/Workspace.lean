import OutlineTable.Files
import OutlineTable.Json

/-! The surroundings of a run: the files, the directory it runs in, the home directory and the
directory set for the stored defaults. Defaults that cannot be read leave a warning and the standard ones
in their place; a path to them that is too long is an error. -/
namespace OutlineTable

/-- What a run uses for the options it is not given. -/
structure Defaults where
  columns : Text := []
  ellipsis : Text := ['.', '.', '.']
  align : Bool := false
  deriving DecidableEq, Repr

namespace Defaults

def columnsName : Text := ['c', 'o', 'l', 'u', 'm', 'n', 's']
def ellipsisName : Text := ['e', 'l', 'l', 'i', 'p', 's', 'i', 's']
def alignName : Text := ['a', 'l', 'i', 'g', 'n']

def textOr (other : Text) : Option Json → Text
  | some (.string text) => text
  | _ => other

def boolOr (other : Bool) : Option Json → Bool
  | some (.bool value) => value
  | _ => other

/-- A member of the wrong type counts as absent. -/
def ofMembers (members : List (Text × Json)) : Defaults :=
  let standard : Defaults := {}
  { columns := textOr standard.columns (Json.member? members columnsName)
    ellipsis := textOr standard.ellipsis (Json.member? members ellipsisName)
    align := boolOr standard.align (Json.member? members alignName) }

def print (defaults : Defaults) : Text :=
  Json.printObject [
    (columnsName, Json.quote defaults.columns),
    (ellipsisName, Json.quote defaults.ellipsis),
    (alignName, Json.printBool defaults.align)]

end Defaults

structure Workspace where
  tree : Tree
  place : Location
  home : Text
  configDir : Option Text

/-- What is wrong with a file of stored defaults. -/
inductive Warning
  | unreadable
  | notObject
  deriving DecidableEq, Repr

structure FileError where
  fault : Fault
  path : Path
  deriving DecidableEq, Repr

def Fault.number : Fault → Nat
  | .notFound => 2
  | .alreadyExists => 17
  | .notDirectory => 20
  | .isDirectory => 21
  | .nameTooLong => 36

def Fault.description : Fault → String
  | .notFound => "No such file or directory"
  | .alreadyExists => "File exists"
  | .notDirectory => "Not a directory"
  | .isDirectory => "Is a directory"
  | .nameTooLong => "File name too long"

def FileError.message (e : FileError) : Text :=
  s!"[Errno {e.fault.number}] {e.fault.description}: ".toList ++ e.path.toText.quoted

namespace Workspace

def configDirectory (w : Workspace) : Path :=
  match w.configDir with
  | some directory => Path.ofText directory
  | none => (Path.ofText w.home).child ".tagtable".toList

def configName : Text := "config.json".toList

def configPath (w : Workspace) : Path :=
  w.configDirectory.child configName

/-- Where the names of a path are followed from. -/
def origin (w : Workspace) (path : Path) : Location :=
  if path.isRelative then w.place else []

def find (w : Workspace) (path : Path) : Except Fault (Option Entry) :=
  if Path.isLong path.toText then .error .nameTooLong
  else w.tree.find (w.origin path) path.names

def readStored (content : ByteArray) : Defaults × Option Warning :=
  match (Text.ofUtf8? content).bind Json.parse? with
  | some (.object members) => (Defaults.ofMembers members, none)
  | some _ => ({}, some .notObject)
  | none => ({}, some .unreadable)

/-- The defaults in force. A file that is not there is no fault. -/
def load (w : Workspace) : Except FileError (Defaults × Option Warning) :=
  match w.find w.configPath with
  | .ok (some (.file content)) => .ok (readStored content)
  | .ok (some .directory) => .ok ({}, some .unreadable)
  | .ok none => .ok ({}, none)
  | .error fault => .error ⟨fault, w.configPath⟩

/-- Makes the directory for the stored defaults where it is missing. -/
def makeConfigDirectory (w : Workspace) : Tree × Option FileError :=
  let directory := w.configDirectory
  if Path.isLong directory.toText then (w.tree, some ⟨.nameTooLong, directory⟩)
  else match w.tree.ensureDirectories (w.origin directory) directory.names.reverse with
    | (grown, some failure) => (grown, some ⟨failure.fault, ⟨directory.slashes, failure.names⟩⟩)
    | (grown, none) => (grown, none)

/-- Makes a file or replaces its content. -/
def write (w : Workspace) (path : Path) (content : ByteArray) : Except Fault Tree :=
  if Path.isLong path.toText then .error .nameTooLong
  else w.tree.write (w.origin path) path.names content

/-- Stores defaults in their directory. -/
def save (w : Workspace) (defaults : Defaults) : Workspace × Option FileError :=
  match w.makeConfigDirectory with
  | (grown, some failure) => ({ w with tree := grown }, some failure)
  | (grown, none) =>
    let w : Workspace := { w with tree := grown }
    match w.write w.configPath defaults.print.utf8 with
    | .ok written => ({ w with tree := written }, none)
    | .error fault => (w, some ⟨fault, w.configPath⟩)

/-- The content of a named file, opened by its text as given: a name that ends in a
slash or a dot part names no file. -/
def openFile (w : Workspace) (name : Text) : Except Fault ByteArray :=
  let path := Path.ofText name
  let last := ((name.split '/').getLast?).getD []
  if Path.isLong name then .error .nameTooLong
  else if Path.isName last && last != Tree.parentName then
    w.tree.read (w.origin path) path.names
  else .error .isDirectory

end Workspace

end OutlineTable
