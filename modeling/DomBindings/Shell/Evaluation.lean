import DomBindings.Formatter.Command
import DomBindings.Shell.Script
import DomBindings.Shell.Utility

/-!
# Running scripts

What a script does to the state of a shell: its files, its streams, its variables and parameters. A
command that the shell has not in itself is run by a `CommandRunner`, which is a parameter here.
-/

namespace DomBindings.Shell

/-- Where a stream is written. -/
inductive Sink where
  /-- to the store of this number -/
  | store (number : Nat)
  /-- to the end of a file -/
  | file (path : Path)
  /-- nowhere -/
  | closed
deriving DecidableEq, Repr

/-- The streams of a command: where its input is kept, and where it writes. -/
structure Streams where
  /-- the number of the store of the input -/
  input : Nat
  /-- where the output is written -/
  output : Sink
  /-- where complaints are written -/
  errors : Sink
deriving DecidableEq, Repr

/-- The state of a shell. -/
structure State where
  /-- the files -/
  tree : FileTree
  /-- the stores of bytes -/
  stores : List (List UInt8)
  /-- the status of the last command -/
  status : Nat
  /-- the variables -/
  bindings : List (Text × Text)
  /-- the name of the script -/
  name : Text
  /-- the parameters of the script -/
  parameters : List Text
  /-- whether the script has been left -/
  left : Bool
  /-- whether the script is left when a command fails -/
  strict : Bool

/-- Something that is done to the state. -/
abbrev Shelled (α : Type) := StateM State α

/-! ### Stores and streams -/

/-- Makes a new store, and returns its number. -/
def newStore (content : List UInt8) : Shelled Nat :=
  modifyGet fun s => (s.stores.length, { s with stores := s.stores ++ [content] })

/-- What is in a store. -/
def contentOf (number : Nat) : Shelled (List UInt8) := do
  return (← get).stores.getD number []

/-- Replaces what is in a store. -/
def refill (number : Nat) (content : List UInt8) : Shelled Unit :=
  modify fun s => { s with stores := s.stores.set number content }

/-- Writes bytes to a stream. -/
def writeTo (sink : Sink) (content : List UInt8) : Shelled Unit := do
  match sink with
  | .store number => refill number ((← contentOf number) ++ content)
  | .closed => return
  | .file path =>
    modify fun s =>
      let before := match s.tree.read path with | .ok bytes => bytes | .error _ => []
      match s.tree.write path (before ++ content) with
      | .ok t => { s with tree := t }
      | .error _ => s

/-- Sets the status. -/
def setStatus (status : Nat) : Shelled Unit :=
  modify fun s => { s with status := status }

/-- Complains in the name of the script about something on a line. -/
def complainOn (line : Nat) (streams : Streams) (what : Text) : Shelled Unit := do
  let name := (← get).name
  writeTo streams.errors
    (Text.encode (name ++ ": ".toList ++ Text.numeral line ++ ": ".toList ++ what ++ ['\n']))

/-! ### Words -/

/-- A blank that divides the value of a parameter into words. -/
def isFieldBlank (c : Char) : Bool :=
  c = ' ' || c = '\t' || c = '\n'

/-- Words that are being made: those that are finished, and the one that has been begun. -/
structure Fields where
  /-- the finished words -/
  done : List Text
  /-- the word that has been begun -/
  current : Option Text

namespace Fields

/-- Adds a text to the word that has been begun. -/
def add (f : Fields) (s : Text) : Fields :=
  { f with current := some (f.current.getD [] ++ s) }

/-- Finishes the word that has been begun. -/
def close (f : Fields) : Fields :=
  match f.current with
  | none => f
  | some word => ⟨f.done ++ [word], none⟩

/-- Adds a text that is divided at blanks. -/
def addDivided (f : Fields) (s : Text) : Fields :=
  s.foldl (fun f c => if isFieldBlank c then f.close else f.add [c]) f

/-- Adds words, the first to the one that has been begun. -/
def addWords (f : Fields) : List Text → Fields
  | [] => f
  | [word] => f.add word
  | word :: rest => (f.add word).close.addWords rest

/-- The words. -/
def toList (f : Fields) : List Text :=
  f.close.done

end Fields

/-- The value of a parameter. -/
def valueOf (s : State) (name : Text) : Text :=
  if name = ['#'] then Text.numeral s.parameters.length
  else if name = ['?'] then Text.numeral s.status
  else if name = ['0'] then s.name
  else if name = ['$'] then ['1']
  else if name = ['@'] || name = ['*'] then List.intercalate [' '] s.parameters
  else if name.all Text.isAsciiDigit then s.parameters.getD (digitsNumber name - 1) []
  else (s.bindings.lookup name).getD []

/-- Drops the line feeds at the end. -/
def dropLineEnds (s : Text) : Text :=
  (s.reverse.dropWhile (· = '\n')).reverse

/-- How a script that is written in a word is run: it is given the text and gives the output. -/
abbrev OutputOf := Text → Shelled (List UInt8)

/-- Adds a part of a word to words that are being made. -/
def expandPart (outputOf : OutputOf) (f : Fields) : WordPart → Shelled Fields
  | .text s quoted => return if s.isEmpty && !quoted then f else f.add s
  | .parameter name quoted => do
    let s ← get
    if quoted then
      return if name = ['@'] then f.addWords s.parameters else f.add (valueOf s name)
    else return f.addDivided (valueOf s name)
  | .output script quoted => do
    let bytes ← outputOf script
    let s := match Text.decode bytes with | .ok s => s | .error _ => []
    return if quoted then f.add (dropLineEnds s) else f.addDivided (dropLineEnds s)

/-- The words that a word makes. -/
def expandWord (outputOf : OutputOf) (word : Word) : Shelled (List Text) := do
  let f ← word.foldlM (expandPart outputOf) ⟨[], none⟩
  -- Quotes that hold nothing but all parameters, of which there are none, make no word.
  let onlyParameters := word.all fun part =>
    part = .parameter ['@'] true || part = .text [] true
  if onlyParameters && word.contains (.parameter ['@'] true) && (← get).parameters.isEmpty then
    return []
  else return f.toList

/-- The words that words make. -/
def expandWords (outputOf : OutputOf) (words : List Word) : Shelled (List Text) := do
  return (← words.mapM (expandWord outputOf)).flatten

/-- The one text that a word makes where it is not divided. -/
def expandText (outputOf : OutputOf) (word : Word) : Shelled Text := do
  return List.intercalate [' '] (← expandWord outputOf (word.map fun
    | .parameter name _ => .parameter (if name = ['@'] then ['*'] else name) true
    | .output script _ => .output script true
    | part => part))

/-! ### Redirections -/

/-- Replaces a stream. -/
def setStream (streams : Streams) (number : Nat) (sink : Sink) : Streams :=
  if number = 2 then { streams with errors := sink } else { streams with output := sink }

/-- What is said about a file that cannot be opened. -/
def openComplaint (writing : Bool) (name : Text) (cause : FileCause) : Text :=
  (if writing then "cannot create ".toList else "cannot open ".toList) ++ name ++ ": ".toList
    ++ (if cause = .missing then
          (if writing then "Directory nonexistent".toList else "No such file".toList)
        else cause.message)

/-- Redirects a stream, or says why that fails. -/
def redirect (outputOf : OutputOf) (streams : Streams) (r : Redirect) :
    Shelled (Except Text Streams) := do
  let target ← expandText outputOf r.target
  let path := Path.ofText target
  let s ← get
  match r.kind with
  | .duplicate =>
    let sink :=
      if target = ['1'] then streams.output
      else if target = ['2'] then streams.errors
      else .closed
    return .ok (if r.stream = 0 then streams else setStream streams r.stream sink)
  | .from =>
    match s.tree.read path with
    | .ok bytes => return .ok { streams with input := ← newStore bytes }
    | .error (.refused cause _) => return .error (openComplaint false target cause)
    | .error e => return .error e.message
  | kind =>
    let before :=
      match kind, s.tree.read path with
      | .append, .ok bytes => bytes
      | _, _ => []
    match s.tree.write path before with
    | .ok t =>
      set { s with tree := t }
      return .ok (setStream streams r.stream (.file path))
    | .error (.refused cause _) => return .error (openComplaint true target cause)
    | .error e => return .error e.message

/-- Redirects streams one after the other. -/
def redirectAll (outputOf : OutputOf) (streams : Streams) : List Redirect →
    Shelled (Except Text Streams)
  | [] => return .ok streams
  | r :: rest => do
    match ← redirect outputOf streams r with
    | .ok streams => redirectAll outputOf streams rest
    | .error complaint => return .error complaint

/-! ### Commands -/

/-- Gives the input to a utility, and takes what came of it. -/
def useUtility (run : UtilityCall → UtilityResult) (streams : Streams) (name title : Text)
    (arguments : List Text) : Shelled Unit := do
  let r := run ⟨name, title, arguments, ← contentOf streams.input, (← get).tree⟩
  modify fun s => { s with tree := r.tree }
  refill streams.input r.input
  writeTo streams.output r.output
  writeTo streams.errors r.errors
  setStatus r.status

/-- The number that the first of some arguments writes, or else a default. -/
def firstNumber? (default : Nat) : List Text → Option Nat
  | [] => some default
  | s :: _ => if !s.isEmpty && s.all Text.isAsciiDigit then some (digitsNumber s) else none

/-- Leaves the script with the status that arguments give. -/
def leave (line : Nat) (streams : Streams) (arguments : List Text) : Shelled Unit := do
  match firstNumber? (← get).status arguments with
  | some status => setStatus (status % 256)
  | none =>
    complainOn line streams ("exit: Illegal number: ".toList ++ arguments.headD [])
    setStatus 2
  modify fun s => { s with left := true }

/-- Runs a command that is not in the shell. It is given all of the input. Complaints about it begin
with a word. -/
def callCommand (runner : CommandRunner) (line : Nat) (streams : Streams) (lead : Text)
    (words : List Text) : Shelled Unit := do
  let s ← get
  let input ← contentOf streams.input
  match runner s.tree words input with
  | .ok r =>
    set { s with tree := r.tree }
    refill streams.input []
    writeTo streams.output r.output
    writeTo streams.errors r.errors
    setStatus r.status
  | .error (.refused cause _) =>
    complainOn line streams
      (lead ++ words.headD [] ++ ": ".toList
        ++ (if cause = .missing then "not found".toList else cause.message))
    setStatus (if cause = .missing then 127 else 126)
  | .error _ => setStatus 126

/-- Runs a command: one that changes the shell, one that the shell has in itself, or another. -/
def runCommand (runner : CommandRunner) (line : Nat) (streams : Streams) :
    List Text → Shelled Unit
  | [] => return
  | name :: arguments => do
    if name = "exit".toList then leave line streams arguments
    else if name = "shift".toList then
      modify fun s =>
        { s with
          parameters := s.parameters.drop ((firstNumber? 1 arguments).getD 1)
          status := 0 }
    else if name = "set".toList then
      modify fun s =>
        { s with
          strict := s.strict || arguments.any fun s => s.head? = some '-' && s.contains 'e'
          status := 0 }
    else if name = "kill".toList then
      modify fun s => { s with status := 137, left := true }
    else if name = "exec".toList then do
      match arguments with
      | [] => setStatus 0
      | command =>
        callCommand runner line streams "exec: ".toList command
        modify fun s => { s with left := true }
    else
      match builtins.lookup name, utilities.lookup name with
      | some run, _ =>
        let here := (← get).name ++ ": ".toList ++ Text.numeral line ++ ": ".toList
        useUtility run streams name (here ++ name) arguments
      | none, some run => useUtility run streams name name arguments
      | none, none => callCommand runner line streams [] (name :: arguments)

/-- Sets a variable. -/
def assign (outputOf : OutputOf) (assigned : Text × Word) : Shelled Unit := do
  let value ← expandText outputOf assigned.2
  modify fun s => { s with bindings := (assigned.1, value) :: s.bindings }

/-- Leaves the script if a command has failed, where that is wanted. -/
def leaveIfFailed (tested : Bool) : Shelled Unit :=
  modify fun s => if s.strict && !tested && s.status ≠ 0 then { s with left := true } else s

/-- Does something without consequences for variables, parameters and the end of the script. -/
def separately (what : Shelled Unit) : Shelled Unit := do
  let before ← get
  what
  modify fun s =>
    { s with
      bindings := before.bindings
      parameters := before.parameters
      left := before.left
      strict := before.strict }

namespace Script

/-- Runs a script. The flag says whether its failure is looked at by what comes after it. -/
def eval (runner : CommandRunner) (outputOf : OutputOf) (tested : Bool) :
    Script → Streams → Shelled Unit
  | .nothing, _ => return
  | .simple line assignments words redirects, streams => do
    if (← get).left then return
    let fields ← expandWords outputOf words
    match ← redirectAll outputOf streams redirects with
    | .error complaint =>
      complainOn line streams complaint
      setStatus 2
    | .ok streams =>
      if fields.isEmpty then
        setStatus 0
        assignments.forM (assign outputOf)
      else runCommand runner line streams fields
    leaveIfFailed tested
  | .redirected line body redirects, streams => do
    if (← get).left then return
    match ← redirectAll outputOf streams redirects with
    | .error complaint =>
      complainOn line streams complaint
      setStatus 2
      leaveIfFailed tested
    | .ok streams => body.eval runner outputOf tested streams
  | .apart body, streams => separately (body.eval runner outputOf tested streams)
  | .not body, streams => do
    body.eval runner outputOf true streams
    if !(← get).left then modify fun s => { s with status := if s.status = 0 then 1 else 0 }
  | .pipe first second, streams => do
    if (← get).left then return
    let between ← newStore []
    separately (first.eval runner outputOf true { streams with output := .store between })
    separately (second.eval runner outputOf tested { streams with input := between })
    leaveIfFailed tested
  | .sequence first second, streams => do
    first.eval runner outputOf tested streams
    second.eval runner outputOf tested streams
  | .both first second, streams => do
    first.eval runner outputOf true streams
    if (← get).status = 0 then second.eval runner outputOf tested streams
  | .either first second, streams => do
    first.eval runner outputOf true streams
    if (← get).status ≠ 0 then second.eval runner outputOf tested streams
  | .choice condition yes no, streams => do
    condition.eval runner outputOf true streams
    if (← get).left then return
    if (← get).status = 0 then yes.eval runner outputOf tested streams
    else
      setStatus 0
      no.eval runner outputOf tested streams
  | .each name words body, streams => do
    let fields ← expandWords outputOf words
    fields.forM fun value => do
      modify fun s => { s with bindings := (name, value) :: s.bindings }
      body.eval runner outputOf tested streams

end Script

end DomBindings.Shell
