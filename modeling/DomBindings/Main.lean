import DomBindings.Program.Run
import DomBindings.Shell.Runner

/-!
# The command line

The outer layer of the program. It looks up what the run may ask for in the file system, which is
what lies along the paths that are named in the arguments, and the configurations of the formatter
in the directories above; the run is then a function of that, and what it has changed is written
back.
-/

namespace DomBindings

namespace CommandLine

/-- The string of a text. -/
def stringOf (s : Text) : String :=
  String.ofList s

/-- What is at a path in the file system. Every file may be run. -/
def lookAt (path : Text) : IO (Option FileNode) := do
  let here := (← IO.currentDir) / stringOf path
  try
    match (← here.symlinkMetadata).type with
    | .dir => return some .directory
    | .file => return some (.file (← IO.FS.readBinFile here).toList true)
    | .symlink => return some (.link (← IO.FS.realPath here).toString.toList)
    | .other => return some .sink
  catch _ => return none

/-- Adds what is at a place to a tree, and the configurations in it if it is a directory. Where a
link leads is returned. -/
def gatherPlace (t : FileTree) (place : Place) : IO (FileTree × List Path) := do
  if (t.nodes.lookup place).isSome then return (t, [])
  match ← lookAt place.path.text with
  | none => return (t, [])
  | some (.link target) => return (t.put place (.link target), [.ofText target])
  | some .directory => do
    let mut t := if place.isEmpty then t else t.put place .directory
    for candidate in ConfigSearch.candidatesIn place do
      if let some node ← lookAt candidate.path.text then t := t.put candidate node
    return (t, [])
  | some node => return (t.put place node, [])

/-- The place that a path leads to when links are left out of account, and those above it. -/
def placesAlong (t : FileTree) (p : Path) : List Place :=
  (ConfigSearch.upward ((t.start p).descend p.parts)).reverse

/-- Adds what lies along paths to a tree, links followed. -/
partial def gather (t : FileTree) : List Path → IO FileTree
  | [] => return t
  | p :: rest => do
    let mut t := t
    let mut links := []
    for place in placesAlong t p do
      let (larger, more) ← gatherPlace t place
      t := larger
      links := links ++ more
    gather t (links ++ rest)

/-- The paths that arguments may name: each of them, its value, and the words in it. -/
def pathsIn (arguments : List Text) : List Path :=
  (arguments.flatMap fun s =>
    let value := (Arguments.splitValue s).2.getD []
    let wordsOf (s : Text) : List Text := match words s with | .ok ws => ws | .error _ => []
    s :: value :: wordsOf s ++ wordsOf value).map Path.ofText

/-- The files that a run with these arguments may ask for. -/
def gatherFor (arguments : List Text) : IO FileTree := do
  let working := (Path.ofText (← IO.currentDir).toString.toList).parts
  let defaults := Arguments.initial.spec.toList ++ [Config.defaultOutput, .ofText ['.']]
  gather ⟨[], working⟩ (defaults ++ pathsIn arguments)

/-- Writes what is at a place to the file system. -/
def writeBack (place : Place) : FileNode → IO Unit
  | .directory => IO.FS.createDirAll (stringOf place.path.text)
  | .file bytes _ => IO.FS.writeBinFile (stringOf place.path.text) ⟨bytes.toArray⟩
  | .link _ | .sink => return

/-- Writes what has changed to the file system. -/
def writeChanges (before after : FileTree) : IO Unit := do
  for (place, node) in after.nodes do
    if before.node? place ≠ some node then writeBack place node
  for (place, node) in before.nodes do
    match node, after.node? place with
    | .file _ _, none => IO.FS.removeFile (stringOf place.path.text)
    | _, _ => pure ()

end CommandLine

end DomBindings

/-- Runs the program with its arguments. -/
def main (arguments : List String) : IO UInt32 := do
  let arguments := arguments.map String.toList
  let before ← DomBindings.CommandLine.gatherFor arguments
  let program := DomBindings.Program.run DomBindings.Shell.runner arguments
  let (result, s) := program.run.run (.ofTree before)
  DomBindings.CommandLine.writeChanges before s.tree
  IO.print (DomBindings.CommandLine.stringOf s.printed)
  IO.eprint (DomBindings.CommandLine.stringOf s.complaints)
  match result with
  | .ok () => return 0
  | .error (.exit status) => return status.toUInt32
  | .error fault =>
    IO.eprintln (DomBindings.CommandLine.stringOf fault.message)
    return 1
