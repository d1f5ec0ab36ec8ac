import DomBindings.Program.Fault

/-!
# The formatter

The formatter is a command that is given a module as its input and the formatted one is its output.
How commands are run is a parameter: a `CommandRunner` takes the files, the words of the command and
its input, and says what came of it.
-/

namespace DomBindings

/-- What came of a command. -/
structure CommandResult where
  /-- the files after it -/
  tree : FileTree
  /-- its status, which is zero if it succeeded -/
  status : Nat
  /-- its output -/
  output : List UInt8
  /-- what it complained about -/
  errors : List UInt8
deriving Repr

/-- A way to run commands: given the files, the words of a command and its input. It fails if the
command cannot be started. -/
abbrev CommandRunner := FileTree → List Text → List UInt8 → Except FileError CommandResult

namespace Formatter

/-- The words of the formatter's command for a file and its configuration. -/
def invocation (command : List Text) (config target : Path) : List Text :=
  command ++ ["--config".toList, config.text, "--stdin-filepath".toList, target.text]

/-- What the formatter makes of a module, given what came of its command. -/
def outcome (target : Path) (r : CommandResult) : Except Fault Text :=
  match Text.ofFileBytes r.output with
  | .error e => .error (.encoding e)
  | .ok formatted =>
    match Text.ofFileBytes r.errors with
    | .error e => .error (.encoding e)
    | .ok complaints =>
      if r.status = 0 then .ok formatted
      else .error (.formatter (.commandFailed target.text (Text.trim complaints)))

/-- Why the formatter's command cannot be started. -/
def startFault (command : List Text) : FileError → Fault
  | .refused .missing _ =>
    match command with
    | [] => .noCommand
    | name :: _ => .formatter (.commandNotFound name)
  | e => .file e

/-- Formats a module as the file at a path, and returns the files after that. -/
def format (run : CommandRunner) (t : FileTree) (source : Text) (target config : Path)
    (command : List Text) : Except Fault Text × FileTree :=
  match run t (invocation command config target) (Text.encode source) with
  | .error e => (.error (startFault command e), t)
  | .ok r => (outcome target r, r.tree)

end Formatter

end DomBindings
