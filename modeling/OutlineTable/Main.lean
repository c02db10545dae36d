import OutlineTable.Command.Run
import Std.Time.Format

/-! The program. The part of the file system that a run can touch is laid out as a tree,
the run is made on the tree, and what it added is written back. -/
namespace OutlineTable.Surroundings

/-- Every place that a path leads through. -/
def places (here : Location) : List Text → List Location
  | [] => [here]
  | name :: names =>
    here :: places (if name = Tree.parentName then here.dropLast else here ++ [name]) names

def systemPath (location : Location) : String :=
  String.ofList ('/' :: Text.join '/' location)

/-- Reading a directory as a file fails with the error number 21. -/
def look (location : Location) : IO (Option Entry) := do
  try
    return some (.file (← IO.FS.readBinFile (systemPath location)))
  catch
    | .inappropriateType _ 21 _ => return some .directory
    | _ => return none

def source? (words : List Text) : Option (Option Text) :=
  match Command.Request.read words with
  | .ok ⟨_, .render request⟩ => some request.source
  | _ => none

def readsInput (words : List Text) : Bool :=
  match source? words with
  | some none => true
  | some (some name) => name == ['-']
  | none => false

/-- Adds what stands at every place that a path leads through. -/
def survey (w : Workspace) (path : Path) : IO Workspace := do
  let mut tree := w.tree
  for location in places (w.origin path) path.names do
    if let some entry ← look location then tree := tree.put location entry
  return { w with tree := tree }

def surroundings (words : List Text) : IO Workspace := do
  let place := (Path.ofText (toString (← IO.currentDir)).toList).names
  let home := (← IO.getEnv "HOME").getD "/"
  let configDir ← IO.getEnv "TAGTABLE_CONFIG_DIR"
  let w : Workspace := ⟨Tree.empty, place, home.toList, configDir.map String.toList⟩
  let w ← survey w w.configPath
  match source? words with
  | some (some name) => survey w (Path.ofText name)
  | _ => return w

/-- Writes back what a run added to the tree, oldest first. -/
def settle (before after : Tree) : IO Unit := do
  let added := after.entries.take (after.entries.length - before.entries.length)
  for (location, entry) in added.reverse do
    match entry with
    | .directory => IO.FS.createDir (systemPath location)
    | .file content => IO.FS.writeBinFile (systemPath location) content

def stamp : IO Text := do
  return ((← Std.Time.DateTime.now).format "uuuu-MM-dd HH:mm:ss,SSS").toList

end OutlineTable.Surroundings

open OutlineTable in
def main (args : List String) : IO UInt32 := do
  let words := args.map String.toList
  let w ← Surroundings.surroundings words
  let stdin ← if Surroundings.readsInput words then (← IO.getStdin).readBinToEnd
    else pure ByteArray.empty
  let console := ⟨← Surroundings.stamp, stdin, ← (← IO.getStdout).isTty⟩
  let (after, result) := Command.run w console words
  Surroundings.settle w.tree after.tree
  match result with
  | .ok output =>
    IO.print (String.ofList output.stdout)
    IO.eprint (String.ofList output.stderr)
    return output.code.toUInt32
  | .error refusal =>
    IO.eprintln ("Error: " ++ String.ofList refusal.message)
    return refusal.code.toUInt32
