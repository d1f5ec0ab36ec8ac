import DomBindings.Program.Discovery
import DomBindings.Program.Generation

/-!
# Runs of the program

A run reads the arguments, makes a configuration and does what it says. Errors of the
configuration, the vocabulary, the formatter, the file system and the form of the document are
reported, and the run then ends with status one; other faults end it without a report.
-/

namespace DomBindings

namespace Program

/-- The fault that is reported to the user as this text, if it is one of those that are. -/
def report? : Fault → Option Text
  | .schema e =>
    match e.message with
    | .ok message =>
      some ("Schema error [".toList ++ e.code.name ++ "]: ".toList ++ message)
    | .error _ => none
  | .formatter e => some ("Format error: ".toList ++ e.message)
  | .file (.refused cause path) =>
    some ("Error: ".toList ++ (FileError.refused cause path).message)
  | .document (.format stage) => some ("Error: <".toList ++ stage.title ++ ['>'])
  | _ => none

/-- The report of an error of the configuration. -/
def configReport (e : ConfigError) : Text :=
  Text.joinLines
    ["Config error [".toList ++ e.code.name ++ "]: ".toList ++ e.message,
     "Hint: ".toList ++ e.advice]

/-- Reads the arguments of a run. -/
def readArguments (arguments : List Text) : Action Arguments :=
  match Arguments.ofTexts arguments with
  | .ok a => return a
  | .error .help => do
    Action.print Arguments.explanation
    Action.fail (.exit 0)
  | .error (.error e) => do
    modify fun x => { x with complaints := x.complaints ++ Arguments.complaint e }
    Action.fail (.exit 2)

/-- Makes the configuration of a run. -/
def configure (arguments : List Text) : Action Config := do
  let a ← readArguments arguments
  Action.ask fun t => (Config.ofArguments t a).mapError Fault.ofConfig

/-- Makes the configuration of a run, and reports what is wrong with it. -/
def configureOrReport (arguments : List Text) : Action Config :=
  tryCatch (configure arguments) fun
    | .config e => do
      Action.printLine (configReport e)
      Action.fail (.exit 1)
    | fault => Action.fail fault

/-- Does what a configuration says. -/
def perform (run : CommandRunner) : Config → Action Unit
  | .discovery c => discover c
  | .generate c => do let _ ← generate run c

/-- Does what a configuration says, and reports the faults that are reported. -/
def performOrReport (run : CommandRunner) (c : Config) : Action Unit :=
  tryCatch (perform run c) fun fault =>
    match report? fault with
    | some report => do
      Action.printLine report
      Action.fail (.exit 1)
    | none => Action.fail fault

/-- A run of the program with its arguments. -/
def run (runner : CommandRunner) (arguments : List Text) : Action Unit := do
  performOrReport runner (← configureOrReport arguments)

end Program

end DomBindings
