import DomBindings.Text.Layout

/-!
# Paths

A path names a place in a file tree, from the working directory or from the root. Its text is
normal as far as that needs no look at the tree: repeated slashes and single dots are dropped, and
double dots are kept, since what they lead to depends on links.
-/

namespace DomBindings

/-- Where a path begins. -/
inductive Anchor where
  /-- at the working directory -/
  | working
  /-- at the root -/
  | root
  /-- at the root, written with two slashes -/
  | doubleRoot
deriving DecidableEq, Repr

/-- A path: where it begins, and the names along it. -/
structure Path where
  /-- where the path begins -/
  anchor : Anchor
  /-- the names along the path, double dots among them -/
  parts : List Text
deriving DecidableEq, Repr

namespace Anchor

/-- The text of the beginning. -/
def text : Anchor → Text
  | .working => []
  | .root => ['/']
  | .doubleRoot => ['/', '/']

/-- The beginning of a text. Three slashes and more are one; exactly two are kept. -/
def ofText : Text → Anchor
  | '/' :: '/' :: '/' :: _ => .root
  | '/' :: '/' :: _ => .doubleRoot
  | '/' :: _ => .root
  | _ => .working

end Anchor

namespace Path

/-- Whether a name between slashes leads nowhere else. -/
def staysInPlace (part : Text) : Bool :=
  part.isEmpty || part = ['.']

/-- Whether a name between slashes leads up. -/
def leadsUp (part : Text) : Bool :=
  part = ['.', '.']

/-- The path that a text writes. -/
def ofText (s : Text) : Path :=
  ⟨.ofText s, (Text.splitOn '/' s).filter fun part => !staysInPlace part⟩

/-- The text of a path; the working directory itself is a dot. -/
def text (p : Path) : Text :=
  if p.anchor = .working && p.parts.isEmpty then ['.']
  else p.anchor.text ++ List.intercalate ['/'] p.parts

/-- The last name of a path, empty where there is none. -/
def name (p : Path) : Text :=
  p.parts.getLastD []

/-- The path without its last name. -/
def parent (p : Path) : Path :=
  { p with parts := p.parts.dropLast }

end Path

end DomBindings
