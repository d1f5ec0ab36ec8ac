import DomBindings.Program.Fault

/-!
# Sessions

What a run of the program works on: a file tree, what it has printed and what it has complained
about. A part of a run is an action on that. When it fails, what it has done until then remains.
-/

namespace DomBindings

/-- What a run works on. -/
structure Session where
  /-- the files -/
  tree : FileTree
  /-- what has been printed -/
  printed : Text
  /-- what has been complained about -/
  complaints : Text
deriving Repr

/-- A part of a run: it may fail, and what it has done to the session remains. -/
abbrev Action (α : Type) := ExceptT Fault (StateM Session) α

namespace Session

/-- A session that begins with these files. -/
def ofTree (t : FileTree) : Session :=
  ⟨t, [], []⟩

end Session

namespace Action

/-- Prints a text. -/
def print (s : Text) : Action Unit :=
  modify fun x => { x with printed := x.printed ++ s }

/-- Prints a line. -/
def printLine (s : Text) : Action Unit :=
  print (s ++ ['\n'])

/-- Complains in a line. -/
def complainLine (s : Text) : Action Unit :=
  modify fun x => { x with complaints := x.complaints ++ s ++ ['\n'] }

/-- Fails. -/
def fail {α : Type} (f : Fault) : Action α :=
  throw f

/-- Goes on with a result, or fails as the given function says. -/
def orFail {α ε : Type} (fault : ε → Fault) : Except ε α → Action α
  | .ok x => pure x
  | .error e => throw (fault e)

/-- Goes on with what is found in the files. -/
def ask {α : Type} (question : FileTree → Except Fault α) : Action α := do
  orFail id (question (← get).tree)

end Action

end DomBindings
