import DomBindings.FileSystem.Resolve
import DomBindings.Program.Session
import DomBindings.Report.GenerationSummary

/-!
# Writing the module

The directories above the file are made where they are missing, the file is written, and what is
said about it is read off the file that has been written.
-/

namespace DomBindings

/-- Writes the directories above a file and the file. What has been made stays when it fails. -/
def FileTree.writeWithParents (t : FileTree) (p : Path) (bytes : List UInt8) :
    Except FileError Unit × FileTree :=
  match t.makeDirectories p.parent with
  | (.error e, t) => (.error e, t)
  | (.ok (), t) =>
    match t.write p bytes with
    | .error e => (.error e, t)
    | .ok written => (.ok (), written)

namespace WrittenFile

/-- What is said about the file at a path to which a text has been written. -/
def ofTree (t : FileTree) (p : Path) (content : Text) : Except FileError WrittenFile := do
  let place ← t.resolve p
  let bytes ← t.read place.path
  return ⟨p.name, place.path.text, Text.countOf '\n' content, bytes.length⟩

end WrittenFile

namespace Action

/-- Does something to the files that may fail on the way. -/
def change {α : Type} (f : FileTree → Except FileError α × FileTree) : Action α := do
  let (result, t) := f (← get).tree
  modify fun x => { x with tree := t }
  orFail .file result

end Action

/-- Writes a text to the file at a path. -/
def writeModule (p : Path) (content : Text) : Action WrittenFile := do
  Action.change fun t => t.writeWithParents p (Text.encode content)
  Action.orFail .file (WrittenFile.ofTree (← get).tree p content)

end DomBindings
