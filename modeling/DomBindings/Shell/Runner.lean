import DomBindings.Shell.Evaluation

/-!
# The shell as a runner of commands

A command is a utility, the shell itself, or a file that may be run and whose first line says what
runs it. How deep commands may run commands is bounded.

The shell, its scripts and the utilities stand for programs that are not part of this one, but that the
command of the formatter may name. A run takes the way in which commands are run as a parameter, and
what is stated of runs is stated for every `CommandRunner`, or for one with a property that is named.
So no result reaches the modules of the shell: only the outermost layer asks for `Shell.runner`, to have
a runner when it runs the program.
-/

namespace DomBindings.Shell

/-! ### The shell -/

/-- The letters of the options of the shell. -/
def optionLetters : Text :=
  "abcefhimnpsuvxCEIV".toList

/-- What the shell is asked to do. -/
structure ShellCall where
  /-- whether its first argument is a script -/
  inArgument : Bool
  /-- whether a script is left when a command fails -/
  strict : Bool
  /-- the arguments behind the options -/
  arguments : List Text

/-- Reads the arguments of the shell, up to a letter that is no option. -/
def readShellCall (c : ShellCall) : List Text → Except Char ShellCall
  | [] => .ok { c with arguments := [] }
  | s :: rest =>
    if s = ['-', '-'] then .ok { c with arguments := rest }
    else if s.head? = some '-' && 1 < s.length then
      match (s.drop 1).find? fun x => !optionLetters.contains x with
      | some x => .error x
      | none =>
        readShellCall
          { c with
            inArgument := c.inArgument || s.contains 'c'
            strict := c.strict || s.contains 'e' }
          rest
    else .ok { c with arguments := s :: rest }

/-- What a script prints that is written in a word; so many may be written in each other. -/
def outputOfScript (runner : CommandRunner) : Nat → OutputOf
  | 0, _ => return []
  | depth + 1, s =>
    match Script.ofText s with
    | .error (line, fault) => do
      complainOn line ⟨0, .store 1, .store 2⟩ fault.message
      setStatus 2
      return []
    | .ok script => do
      let store ← newStore []
      separately
        (script.eval runner (outputOfScript runner depth) false ⟨0, .store store, .store 2⟩)
      contentOf store

/-- How deep scripts may be written in the words of scripts. -/
def maxDepth : Nat := 16

/-- Runs the text of a script. -/
def runText (runner : CommandRunner) (t : FileTree) (strict : Bool) (name : Text)
    (parameters : List Text) (s : Text) (input : List UInt8) : CommandResult :=
  match Script.ofText s with
  | .error (line, fault) =>
    ⟨t, 2, [], Text.encode
      (name ++ ": ".toList ++ Text.numeral line ++ ": ".toList ++ fault.message ++ ['\n'])⟩
  | .ok script =>
    let start : State := ⟨t, [input, [], []], 0, [], name, parameters, false, strict⟩
    let ((), s) :=
      (script.eval runner (outputOfScript runner maxDepth) false ⟨0, .store 1, .store 2⟩).run start
    ⟨s.tree, s.status, s.stores.getD 1 [], s.stores.getD 2 []⟩

/-- What the shell complains about before it runs anything. -/
def refuse (t : FileTree) (name what : Text) : CommandResult :=
  ⟨t, 2, [], Text.encode (name ++ ": 0: ".toList ++ what ++ ['\n'])⟩

/-- The text of the file of a script; bytes that are no text make an empty one. -/
def scriptText (bytes : List UInt8) : Text :=
  match Text.decode bytes with
  | .ok s => s
  | .error _ => []

/-- Runs the shell under a name. -/
def runShell (runner : CommandRunner) (t : FileTree) (name : Text) (arguments : List Text)
    (input : List UInt8) : CommandResult :=
  match readShellCall ⟨false, false, []⟩ arguments with
  | .error letter => refuse t name ("Illegal option -".toList ++ [letter])
  | .ok c =>
    match c.inArgument, c.arguments with
    | true, [] => refuse t name "-c requires an argument".toList
    | true, script :: rest =>
      runText runner t c.strict (rest.headD name) (rest.drop 1) script input
    | false, [] => runText runner t c.strict name [] (scriptText input) []
    | false, file :: rest =>
      match t.read (.ofText file) with
      | .ok bytes => runText runner t c.strict file rest (scriptText bytes) input
      | .error (.refused cause _) => refuse t name (openComplaint false file cause)
      | .error e => refuse t name e.message

/-! ### Commands -/

/-- The names of the shell. -/
def shellNames : List Text :=
  ["sh", "dash", "bash"].map String.toList

/-- The directories of the utilities. -/
def programDirectories : List Text :=
  ["/bin/", "/usr/bin/"].map String.toList

/-- The name of the utility that a command may mean. -/
def utilityName (name : Text) : Text :=
  match programDirectories.find? fun d => d.isPrefixOf name with
  | some d => name.drop d.length
  | none => name

/-- What the first line of a file says about what runs it: a command, and an argument for it. -/
def interpreter? (bytes : List UInt8) : Option (List Text) :=
  match scriptText (bytes.takeWhile (· ≠ 10)) with
  | '#' :: '!' :: line =>
    let line := Text.trim line
    let command := line.takeWhile fun c => !isFieldBlank c
    let argument := Text.trim (line.drop command.length)
    if command.isEmpty then none
    else some (if argument.isEmpty then [command] else [command, argument])
  | _ => none

/-- The words of the command that runs the file of a command. -/
def wordsForFile (t : FileTree) (name : Text) (arguments : List Text) :
    Except FileCause (List Text) :=
  match t.follow (.ofText name) with
  | .error cause => .error cause
  | .ok (_, none) => .error .missing
  | .ok (_, some (.file bytes executable)) =>
    if name.getLast? = some '/' then .error .notDirectory
    else if !executable then .error .denied
    else
      match interpreter? bytes with
      | some command => .ok (command ++ name :: arguments)
      | none => .error .unsuitable
  | .ok (_, some _) => .error .denied

/-- What came of a utility, as what came of a command that ends with a status. -/
def UtilityResult.toCommandResult (r : UtilityResult) (status : Nat) : CommandResult :=
  ⟨r.tree, status, r.output, r.errors⟩

/-- The utility that a command means, as a way to run it. -/
def program? (runner : CommandRunner) (t : FileTree) (name : Text) (arguments : List Text)
    (input : List UInt8) : Option CommandResult :=
  let called := utilityName name
  if shellNames.contains called then some (runShell runner t name arguments input)
  else
    let call : UtilityCall := ⟨called, name, arguments, input, t⟩
    if called = "env".toList then
      match ({ call with arguments := arguments.take 1 } : UtilityCall).badOption? [] with
      | some r => some (r.toCommandResult 125)
      | none =>
        match runner t arguments input with
        | .ok r => some r
        | .error _ => some ⟨t, 127, [], []⟩
    else
      (utilities.lookup called).map fun run =>
        let r := run call
        r.toCommandResult r.status

/-- Runs commands, which may run commands to this depth. -/
def runnerOfDepth : Nat → CommandRunner
  | 0 => fun _ words _ => .error (.refused .missing (words.headD []))
  | depth + 1 => fun t words input =>
    let name := words.headD []
    let arguments := words.drop 1
    if words.any fun word => word.contains '\x00' then .error .nullCharacter
    else if name.isEmpty || name = ['.'] || name = ['.', '.'] then .error (.refused .denied name)
    else
      match program? (runnerOfDepth depth) t name arguments input with
      | some r => .ok r
      | none =>
        if !name.contains '/' then
          .error (.refused
            (if FileTree.maxNameBytes < (Text.encode name).length then .nameTooLong
             else .missing) name)
        else
          match wordsForFile t name arguments with
          | .error cause => .error (.refused cause name)
          | .ok command =>
            match runnerOfDepth depth t command input with
            | .error (.refused cause _) => .error (.refused cause name)
            | result => result

/-- Runs commands. -/
def runner : CommandRunner :=
  runnerOfDepth maxDepth

end DomBindings.Shell
