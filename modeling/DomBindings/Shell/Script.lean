import DomBindings.Shell.Lexeme

/-!
# Scripts

The command language that formatters are called through: commands with redirections, joined in
pipelines, lists and conditions. A script is arranged as a tree of its lexemes.
-/

namespace DomBindings.Shell

/-- A redirection of a stream. -/
structure Redirect where
  /-- the number of the stream -/
  stream : Nat
  /-- what the redirection does -/
  kind : RedirectKind
  /-- the file, or the number of the other stream -/
  target : Word
deriving DecidableEq, Repr

/-- A script. -/
inductive Script where
  /-- does nothing -/
  | nothing
  /-- sets variables, redirects streams and runs a command, which stands on a line -/
  | simple (line : Nat) (assignments : List (Text × Word)) (words : List Word)
      (redirects : List Redirect)
  /-- runs a script with redirected streams -/
  | redirected (line : Nat) (body : Script) (redirects : List Redirect)
  /-- runs a script without consequences for what comes after it, files apart -/
  | apart (body : Script)
  /-- exchanges success and failure -/
  | not (body : Script)
  /-- gives the output of a script to another as its input -/
  | pipe (left right : Script)
  /-- runs one script after another -/
  | sequence (first second : Script)
  /-- runs the second script if the first one succeeds -/
  | both (first second : Script)
  /-- runs the second script if the first one fails -/
  | either (first second : Script)
  /-- runs one of two scripts, as a third one succeeds or fails -/
  | choice (condition yes no : Script)
  /-- runs a script for each of some words -/
  | each (name : Text) (words : List Word) (body : Script)
deriving Repr

/-! ### Reading -/

/-- What is left to be arranged: lexemes with their lines. -/
abbrev Lexemes := List (Nat × Lexeme)

/-- The text of a word that is written without quotes and parameters. -/
def plain? : Word → Option Text
  | [] => some []
  | .text s false :: rest => (plain? rest).map (s ++ ·)
  | _ => none

/-- The words that have a meaning of their own where a command begins. -/
def keywords : List Text :=
  ["if", "then", "elif", "else", "fi", "for", "do", "done", "\x7b", "\x7d", "!"].map String.toList

/-- The keyword at the front, if there is one. -/
def keyword? : Lexemes → Option Text
  | (_, .word parts) :: _ => (plain? parts).filter keywords.contains
  | _ => none

/-- The line on which the next lexeme stands. -/
def lineOf (last : Nat) : Lexemes → Nat
  | [] => last
  | (line, _) :: _ => line

/-- What stands at the front, as errors name it. -/
def nameOf : Lexemes → Text
  | [] => "end of file".toList
  | (_, .operator ['\n']) :: _ => "newline".toList
  | (_, .operator s) :: _ => '"' :: s ++ ['"']
  | (_, .redirect _ _) :: _ => "redirection".toList
  | (_, .word parts) :: _ =>
    match plain? parts with
    | some s => if keywords.contains s then '"' :: s ++ ['"'] else "word".toList
    | none => "word".toList

/-- An error at the front. -/
def unexpected {α : Type} (last : Nat) (s : Lexemes) (expected : Option String) :
    Except (Nat × SyntaxFault) α :=
  .error (lineOf last s, .unexpected (nameOf s) (expected.map String.toList))

/-- Passes the keyword at the front, which must be this one. -/
def expect (last : Nat) (word : String) (s : Lexemes) : Except (Nat × SyntaxFault) Lexemes :=
  if keyword? s = some word.toList then .ok (s.drop 1) else unexpected last s (some word)

/-- Passes the ends of lines at the front. -/
def passLines : Lexemes → Lexemes
  | (line, .operator s) :: rest =>
    if s = ['\n'] then passLines rest else (line, .operator s) :: rest
  | s => s

/-- The name and the value of an assignment. -/
def assignment? (parts : Word) : Option (Text × Word) :=
  let name := parts.takeWhile fun
    | .text [c] false => isNameChar c
    | _ => false
  match plain? name, parts.drop name.length with
  | some (c :: rest), .text ['='] false :: value =>
    if isNameStart c then some (c :: rest, value) else none
  | _, _ => none

/-- The parts of a command. -/
structure CommandParts where
  /-- what is assigned -/
  assignments : List (Text × Word)
  /-- the words -/
  words : List Word
  /-- the redirections -/
  redirects : List Redirect

/-- Reads redirections. -/
def readRedirects : Lexemes → List Redirect × Lexemes
  | (_, .redirect stream kind) :: (_, .word target) :: rest =>
    let (redirects, after) := readRedirects rest
    (⟨stream, kind, target⟩ :: redirects, after)
  | s => ([], s)

/-- Reads the words and redirections of a command. -/
def readCommand (last : Nat) (started : Bool) :
    Lexemes → Except (Nat × SyntaxFault) (CommandParts × Lexemes)
  | (_, .redirect stream kind) :: (_, .word target) :: rest => do
    let (parts, after) ← readCommand last started rest
    return ({ parts with redirects := ⟨stream, kind, target⟩ :: parts.redirects }, after)
  | (_, .redirect _ _) :: rest => unexpected last rest none
  | (_, .word parts) :: rest =>
    match if started then none else assignment? parts with
    | some assigned => do
      let (parts, after) ← readCommand last false rest
      return ({ parts with assignments := assigned :: parts.assignments }, after)
    | none => do
      let (others, after) ← readCommand last true rest
      return ({ others with words := parts :: others.words }, after)
  | s => .ok (⟨[], [], []⟩, s)

/-- Reads words up to the end of a line or a semicolon. -/
def readWords : Lexemes → List Word × Lexemes
  | (_, .word parts) :: rest =>
    let (words, after) := readWords rest
    (parts :: words, after)
  | (_, .operator s) :: rest =>
    if s = [';'] || s = ['\n'] then ([], rest) else ([], (0, .operator s) :: rest)
  | s => ([], s)

mutual

/-- Reads a list of commands up to something that cannot begin one; the number bounds the steps. -/
def readList (last : Nat) : Nat → Lexemes → Except (Nat × SyntaxFault) (Script × Lexemes)
  | 0, s => unexpected last s none
  | fuel + 1, s => do
    let s := passLines s
    match s with
    | [] => return (.nothing, [])
    | (_, .operator [')']) :: _ => return (.nothing, s)
    | _ =>
      if (keyword? s).any fun word =>
          ["then", "elif", "else", "fi", "do", "done", "\x7d"].any (word = ·.toList) then
        return (.nothing, s)
      let (first, rest) ← readConditions last fuel s
      match rest with
      | (_, .operator [c]) :: after =>
        if c = ';' || c = '\n' || c = '&' then
          let (others, after) ← readList last fuel after
          return (match others with | .nothing => first | _ => .sequence first others, after)
        else return (first, rest)
      | _ => return (first, rest)

/-- Reads pipelines that depend on each other's success. -/
def readConditions (last : Nat) : Nat → Lexemes → Except (Nat × SyntaxFault) (Script × Lexemes)
  | 0, s => unexpected last s none
  | fuel + 1, s => do
    let (first, rest) ← readPipeline last fuel s
    readMoreConditions last fuel first rest

/-- Reads on behind pipelines that depend on each other's success. -/
def readMoreConditions (last : Nat) :
    Nat → Script → Lexemes → Except (Nat × SyntaxFault) (Script × Lexemes)
  | 0, _, s => unexpected last s none
  | fuel + 1, first, s =>
    match s with
    | (_, .operator ['&', '&']) :: rest => do
      let (second, rest) ← readPipeline last fuel (passLines rest)
      readMoreConditions last fuel (.both first second) rest
    | (_, .operator ['|', '|']) :: rest => do
      let (second, rest) ← readPipeline last fuel (passLines rest)
      readMoreConditions last fuel (.either first second) rest
    | s => return (first, s)

/-- Reads a pipeline. -/
def readPipeline (last : Nat) : Nat → Lexemes → Except (Nat × SyntaxFault) (Script × Lexemes)
  | 0, s => unexpected last s none
  | fuel + 1, s => do
    if keyword? s = some ['!'] then
      let (body, rest) ← readPipeline last fuel (s.drop 1)
      return (.not body, rest)
    let (first, rest) ← readStep last fuel s
    match rest with
    | (_, .operator ['|']) :: rest => do
      let (second, rest) ← readPipeline last fuel (passLines rest)
      return (.pipe first second, rest)
    | _ => return (first, rest)

/-- Reads a command of a pipeline. -/
def readStep (last : Nat) : Nat → Lexemes → Except (Nat × SyntaxFault) (Script × Lexemes)
  | 0, s => unexpected last s none
  | fuel + 1, s => do
    let line := lineOf last s
    match s with
    | (_, .operator ['(']) :: rest =>
      let (body, rest) ← readList last fuel rest
      match rest with
      | (_, .operator [')']) :: rest =>
        let (redirects, rest) := readRedirects rest
        return (.redirected line (.apart body) redirects, rest)
      | _ => unexpected last rest (some ")")
    | (_, .operator _) :: _ => unexpected last s none
    | [] => unexpected last s none
    | _ =>
      match keyword? s with
      | none =>
        let (parts, rest) ← readCommand last false s
        return (.simple line parts.assignments parts.words parts.redirects, rest)
      | some word =>
        if word = ['\x7b'] then
          let (body, rest) ← readList last fuel (s.drop 1)
          let rest ← expect last "\x7d" rest
          let (redirects, rest) := readRedirects rest
          return (.redirected line body redirects, rest)
        else if word = "if".toList then
          let (body, rest) ← readIf last fuel (s.drop 1)
          let (redirects, rest) := readRedirects rest
          return (.redirected line body redirects, rest)
        else if word = "for".toList then
          let (body, rest) ← readFor last fuel (s.drop 1)
          let (redirects, rest) := readRedirects rest
          return (.redirected line body redirects, rest)
        else unexpected last s none

/-- Reads a condition and what depends on it. -/
def readIf (last : Nat) : Nat → Lexemes → Except (Nat × SyntaxFault) (Script × Lexemes)
  | 0, s => unexpected last s none
  | fuel + 1, s => do
    let (condition, rest) ← readList last fuel s
    let rest ← expect last "then" rest
    let (yes, rest) ← readList last fuel rest
    if keyword? rest = some "elif".toList then
      let (no, rest) ← readIf last fuel (rest.drop 1)
      return (.choice condition yes no, rest)
    else if keyword? rest = some "else".toList then
      let (no, rest) ← readList last fuel (rest.drop 1)
      return (.choice condition yes no, ← expect last "fi" rest)
    else return (.choice condition yes .nothing, ← expect last "fi" rest)

/-- Reads a variable, its values and what is done for each. -/
def readFor (last : Nat) : Nat → Lexemes → Except (Nat × SyntaxFault) (Script × Lexemes)
  | 0, s => unexpected last s none
  | fuel + 1, s => do
    match s with
    | (_, .word name) :: (_, .word between) :: rest =>
      match plain? name, plain? between with
      | some name, some ['i', 'n'] =>
        let (words, rest) := readWords rest
        let rest ← expect last "do" (passLines rest)
        let (body, rest) ← readList last fuel rest
        return (.each name words body, ← expect last "done" rest)
      | _, _ => unexpected last s none
    | _ => unexpected last s none

end

namespace Script

/-- The script that a text writes, or else what is wrong with it and on which line. -/
def ofText (s : Text) : Except (Nat × SyntaxFault) Script := do
  let found ← lexemes 1 (s.length + 1) s
  let last := 1 + Text.countOf '\n' s
  let (script, rest) ← readList last (8 * found.length + 8) found
  if rest.isEmpty then return script else unexpected last rest none

end Script

end DomBindings.Shell
