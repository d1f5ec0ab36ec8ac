import DomBindings.FileSystem.Path
import DomBindings.Text.Literal
import DomBindings.Text.Utf8

/-!
# File trees

What a file system holds, as a value: the nodes by their places, and the working directory. A place
is the list of names from the root downward, without links and dots in it. `FileTree.follow` takes
a path to the place that it leads to, and every access goes through it.
-/

namespace DomBindings

/-- A place in a file tree: the names from the root downward. -/
abbrev Place := List Text

/-- What may be at a place. -/
inductive FileNode where
  /-- a file with its bytes, which may be a program -/
  | file (bytes : List UInt8) (executable : Bool)
  /-- a directory -/
  | directory
  /-- a link to what a path leads to -/
  | link (target : Text)
  /-- a device that reads as empty and keeps nothing of what is written to it -/
  | sink
deriving DecidableEq, Repr

/-- What a file system holds. -/
structure FileTree where
  /-- the nodes by their places, the root left out -/
  nodes : List (Place × FileNode)
  /-- the place of the working directory -/
  working : Place
deriving Repr

/-- Why the file system refuses something. -/
inductive FileCause where
  /-- there is nothing at the path -/
  | missing
  /-- the file is no program -/
  | unsuitable
  /-- the file may not be run -/
  | denied
  /-- there is something at the path already -/
  | present
  /-- something on the way is no directory -/
  | notDirectory
  /-- there is a directory at the path -/
  | isDirectory
  /-- a name on the path is too long, or the path is -/
  | nameTooLong
  /-- there are too many links on the way -/
  | tooManyLinks
deriving DecidableEq, Repr

/-- The number under which the file system reports a cause. -/
def FileCause.number : FileCause → Nat
  | .missing => 2
  | .unsuitable => 8
  | .denied => 13
  | .present => 17
  | .notDirectory => 20
  | .isDirectory => 21
  | .nameTooLong => 36
  | .tooManyLinks => 40

/-- The wording of a cause. -/
def FileCause.message : FileCause → Text
  | .missing => "No such file or directory".toList
  | .unsuitable => "Exec format error".toList
  | .denied => "Permission denied".toList
  | .present => "File exists".toList
  | .notDirectory => "Not a directory".toList
  | .isDirectory => "Is a directory".toList
  | .nameTooLong => "File name too long".toList
  | .tooManyLinks => "Too many levels of symbolic links".toList

/-- Whether a cause means that a path leads nowhere, and no more. -/
def FileCause.leadsNowhere : FileCause → Bool
  | .missing | .notDirectory | .tooManyLinks => true
  | _ => false

/-- Why an access to a path fails. -/
inductive FileError where
  /-- the file system refuses it -/
  | refused (cause : FileCause) (path : Text)
  /-- the path has a null character, so the file system cannot be asked -/
  | nullCharacter
  /-- the links on the way lead in a circle -/
  | linkLoop (path : Text)
deriving DecidableEq, Repr

/-- The wording of an error. -/
def FileError.message : FileError → Text
  | .refused cause path =>
    "[Errno ".toList ++ Text.numeral cause.number ++ "] ".toList ++ cause.message ++ ": ".toList
      ++ Text.literal path
  | .nullCharacter => "embedded null byte".toList
  | .linkLoop path => "Symlink loop from ".toList ++ Text.literal path

namespace Place

/-- The path that leads from the root to a place. -/
def path (place : Place) : Path :=
  ⟨.root, place⟩

end Place

namespace FileTree

/-! ### Nodes -/

/-- What is at a place. The root is a directory. -/
def node? (t : FileTree) (place : Place) : Option FileNode :=
  if place.isEmpty then some .directory else t.nodes.lookup place

/-- Puts a node at a place, in the stead of the one that is there. -/
def putNode (place : Place) (node : FileNode) : List (Place × FileNode) → List (Place × FileNode)
  | [] => [(place, node)]
  | (other, old) :: rest =>
    if place = other then (place, node) :: rest else (other, old) :: putNode place node rest

/-- The tree with a node at a place. -/
def put (t : FileTree) (place : Place) (node : FileNode) : FileTree :=
  { t with nodes := putNode place node t.nodes }

/-- The tree without what is at a place. -/
def erase (t : FileTree) (place : Place) : FileTree :=
  { t with nodes := t.nodes.filter fun (other, _) => other ≠ place }

/-- What is put at a place is found there in the list of nodes, and all else stays. -/
theorem lookup_putNode (place other : Place) (node : FileNode)
    (nodes : List (Place × FileNode)) :
    (putNode place node nodes).lookup other
      = if other = place then some node else nodes.lookup other := by
  induction nodes with
  | nil =>
    by_cases h : other = place
    · simp [putNode, h]
    · have hb : (other == place) = false := by simpa using h
      simp [putNode, List.lookup_cons, h, hb]
  | cons entry rest ih =>
    obtain ⟨there, old⟩ := entry
    by_cases hp : place = there
    · subst hp
      by_cases h : other = place
      · simp [putNode, h]
      · have hb : (other == place) = false := by simpa using h
        simp [putNode, List.lookup_cons, h, hb]
    · by_cases h : other = there
      · subst h
        have hn : ¬ other = place := fun e => hp e.symm
        simp [putNode, hp, hn]
      · have hb : (other == there) = false := by simpa using h
        simp [putNode, List.lookup_cons, hp, hb, ih]

/-- What is put at a place is found there, and all else stays. -/
theorem node?_put (t : FileTree) {place : Place} (other : Place) (node : FileNode)
    (h : place ≠ []) :
    (t.put place node).node? other = if other = place then some node else t.node? other := by
  cases other with
  | nil => simp [node?, Ne.symm h]
  | cons name rest => simp [node?, put, lookup_putNode]

/-! ### Following paths -/

/-- The most bytes that a name may have. -/
def maxNameBytes : Nat := 255

/-- The most bytes that the text of a path may have. -/
def maxPathBytes : Nat := 4095

/-- The most links that are followed on one way. -/
def maxLinks : Nat := 40

/-- Where the way along a path stops. -/
inductive Stop where
  /-- at the node at a place -/
  | found (place : Place) (node : FileNode)
  /-- at a place where nothing is, in a directory that is there -/
  | free (place : Place)
  /-- at a link in a directory, with the rest of the way -/
  | atLink (directory : Place) (target : Text) (rest : List Text)
  /-- where the file system refuses to go on -/
  | refused (cause : FileCause)
deriving Repr

/-- Goes from a directory along names until there are none left or there is a link. -/
def advance (t : FileTree) (here : Place) : List Text → Stop
  | [] => .found here .directory
  | part :: rest =>
    if Path.staysInPlace part then t.advance here rest
    else if Path.leadsUp part then t.advance here.dropLast rest
    else if maxNameBytes < (Text.encode part).length then .refused .nameTooLong
    else
      match t.node? (here ++ [part]) with
      | none => if rest.isEmpty then .free (here ++ [part]) else .refused .missing
      | some .directory => t.advance (here ++ [part]) rest
      | some (.link target) => .atLink here target rest
      | some node =>
        if rest.isEmpty then .found (here ++ [part]) node else .refused .notDirectory

/-- The place where a text begins that is read in a directory. -/
def startOf (directory : Place) (target : Text) : Place :=
  if target.head? = some '/' then [] else directory

/-- Goes on through at most so many links: to a place, and to what is there, if anything. -/
def throughLinks (t : FileTree) : Nat → Stop → Except FileCause (Place × Option FileNode)
  | _, .found place node => .ok (place, some node)
  | _, .free place => .ok (place, none)
  | _, .refused cause => .error cause
  | 0, .atLink _ _ _ => .error .tooManyLinks
  | links + 1, .atLink directory target rest =>
    t.throughLinks links (t.advance (startOf directory target) (Text.splitOn '/' target ++ rest))

/-- The place where a path begins. -/
def start (t : FileTree) (p : Path) : Place :=
  if p.anchor = .working then t.working else []

/-- The place that a path leads to, all links followed, and what is there, if anything. -/
def follow (t : FileTree) (p : Path) : Except FileCause (Place × Option FileNode) :=
  if maxPathBytes < (Text.encode p.text).length then .error .nameTooLong
  else t.throughLinks maxLinks (t.advance (t.start p) p.parts)

end FileTree

end DomBindings
