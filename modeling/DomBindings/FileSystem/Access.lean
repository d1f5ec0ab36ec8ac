import DomBindings.FileSystem.Tree

/-!
# Access to file trees

Asking what a path leads to, reading and writing files, making directories. Reading gives a value
and writing a new tree, so that what leaves a tree alone is seen from its type.
-/

namespace DomBindings

namespace FileTree

/-- The outcome of an access through a path of this text. -/
def through {α : Type} (text : Text) : Except FileCause α → Except FileError α
  | .ok x => .ok x
  | .error cause => .error (.refused cause text)

/-- Whether the text of a path has a null character. -/
def hasNull (p : Path) : Bool :=
  p.text.contains '\x00'

/-- The place that a path leads to and what is there, if anything. -/
def locate (t : FileTree) (p : Path) : Except FileError (Place × Option FileNode) :=
  if hasNull p then .error .nullCharacter else through p.text (t.follow p)

/-! ### Questions -/

/-- What a path leads to, if anything. -/
def probe (t : FileTree) (p : Path) : Except FileError (Option FileNode) :=
  if hasNull p then .ok none
  else
    match t.follow p with
    | .ok (_, node) => .ok node
    | .error cause =>
      if cause.leadsNowhere then .ok none else .error (.refused cause p.text)

/-- Whether a path leads to something. -/
def leadsSomewhere (t : FileTree) (p : Path) : Except FileError Bool :=
  Option.isSome <$> t.probe p

/-- Whether a path leads to a file. -/
def isFile (t : FileTree) (p : Path) : Except FileError Bool := do
  match ← t.probe p with
  | some (.file _ _) => return true
  | _ => return false

/-- Whether a path leads to a directory. -/
def isDirectory (t : FileTree) (p : Path) : Except FileError Bool := do
  match ← t.probe p with
  | some .directory => return true
  | _ => return false

/-! ### Files -/

/-- The bytes of the file that a path leads to. -/
def read (t : FileTree) (p : Path) : Except FileError (List UInt8) := do
  let (_, node) ← t.locate p
  through p.text <|
    match node with
    | some (.file bytes _) => .ok bytes
    | some .sink => .ok []
    | some .directory => .error .isDirectory
    | _ => .error .missing

/-- The tree in which the file that a path leads to has these bytes; a new one is no program. -/
def write (t : FileTree) (p : Path) (bytes : List UInt8) : Except FileError FileTree := do
  let (place, node) ← t.locate p
  through p.text <|
    match node with
    | some (.file _ executable) => .ok (t.put place (.file bytes executable))
    | some .sink => .ok t
    | some .directory => .error .isDirectory
    | _ => .ok (t.put place (.file bytes false))

/-! ### Directories -/

/-- Makes a directory where a path leads, in a directory that is there. -/
def addDirectory (t : FileTree) (p : Path) : Except FileCause FileTree := do
  match p.parts.getLast? with
  | none => .error .present
  | some name =>
    match ← t.follow p.parent with
    | (place, some .directory) =>
      if Path.leadsUp name then .error .present
      else if maxNameBytes < (Text.encode name).length then .error .nameTooLong
      else
        match t.node? (place ++ [name]) with
        | some _ => .error .present
        | none => .ok (t.put (place ++ [name]) .directory)
    | (_, some _) => .error .notDirectory
    | (_, none) => .error .missing

/-- Makes a directory. -/
def makeDirectory (t : FileTree) (p : Path) : Except FileError FileTree :=
  if hasNull p then .error .nullCharacter
  else if maxPathBytes < (Text.encode p.text).length then .error (.refused .nameTooLong p.text)
  else through p.text (t.addDirectory p)

/-- Forgives the failure to make a directory that is there. -/
def unlessDirectory (t : FileTree) (p : Path) (e : FileError) : Except FileError Unit := do
  if e = .nullCharacter then .error e
  else if ← t.isDirectory p then .ok () else .error e

/-- Makes the directory of the names, the last name first, and those above it that are missing.
What has been made stays when it fails after that. -/
def makeDirectoriesAlong (anchor : Anchor) : List Text → FileTree → Except FileError Unit × FileTree
  | names, t =>
    let p : Path := ⟨anchor, names.reverse⟩
    match t.makeDirectory p with
    | .ok made => (.ok (), made)
    | .error e =>
      if e = .refused .missing p.text then
        match names with
        | [] => (.error e, t)
        | _ :: above =>
          match makeDirectoriesAlong anchor above t with
          | (.error e, t) => (.error e, t)
          | (.ok (), t) =>
            match t.makeDirectory p with
            | .ok made => (.ok (), made)
            | .error e =>
              if e = .refused .missing p.text then (.error e, t) else (t.unlessDirectory p e, t)
      else (t.unlessDirectory p e, t)

/-- Makes the directory of a path, unless it is there, and those above it that are missing. -/
def makeDirectories (t : FileTree) (p : Path) : Except FileError Unit × FileTree :=
  makeDirectoriesAlong p.anchor p.parts.reverse t

end FileTree

end DomBindings
