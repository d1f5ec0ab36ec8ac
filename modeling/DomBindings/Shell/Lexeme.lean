import DomBindings.Text.Digit
import DomBindings.Text.Layout

/-!
# Lexemes of scripts

The words and operators of the command language that formatters are called through. A word is kept
as its parts: texts, parameters and scripts whose output it takes, each with a note whether it
stands in quotes.
-/

namespace DomBindings.Shell

/-- A part of a word. -/
inductive WordPart where
  /-- a text as it is -/
  | text (s : Text) (quoted : Bool)
  /-- the value of a parameter -/
  | parameter (name : Text) (quoted : Bool)
  /-- the output of a script -/
  | output (script : Text) (quoted : Bool)
deriving DecidableEq, Repr

/-- A word: what it is made of. -/
abbrev Word := List WordPart

/-- What a redirection does. -/
inductive RedirectKind where
  /-- reads from a file -/
  | from
  /-- writes to a file, from its beginning -/
  | to
  /-- writes to the end of a file -/
  | append
  /-- writes to where another stream is written -/
  | duplicate
deriving DecidableEq, Repr

/-- Why a script cannot be read. -/
inductive SyntaxFault where
  /-- a quote is not closed -/
  | unterminated
  /-- something stands where it does not belong; something else may be expected there -/
  | unexpected (what : Text) (expected : Option Text)
deriving DecidableEq, Repr

/-- The wording of a fault. -/
def SyntaxFault.message : SyntaxFault → Text
  | .unterminated => "Syntax error: Unterminated quoted string".toList
  | .unexpected what expected =>
    "Syntax error: ".toList ++ what ++ " unexpected".toList
      ++ expected.elim [] fun e => " (expecting \"".toList ++ e ++ "\")".toList

/-- A lexeme of a script. -/
inductive Lexeme where
  /-- a word -/
  | word (parts : Word)
  /-- an operator between commands -/
  | operator (s : Text)
  /-- an operator that redirects a stream -/
  | redirect (stream : Nat) (kind : RedirectKind)
deriving DecidableEq, Repr

/-- A character that may begin a name. -/
def isNameStart (c : Char) : Bool :=
  ('a' ≤ c && c ≤ 'z') || ('A' ≤ c && c ≤ 'Z') || c = '_'

/-- A character of a name. -/
def isNameChar (c : Char) : Bool :=
  isNameStart c || Text.isAsciiDigit c

/-- Splits off the text up to a closing mark, which is dropped. -/
def upTo? (mark : Char) (s : Text) : Option (Text × Text) :=
  match s.dropWhile (· ≠ mark) with
  | [] => none
  | _ :: rest => some (s.takeWhile (· ≠ mark), rest)

/-- Splits off the text up to the bracket that closes an open one, brackets in pairs between. -/
def upToBracket? : Nat → Text → Option (Text × Text)
  | _, [] => none
  | depth, c :: rest =>
    if c = ')' then
      match depth with
      | 0 => some ([], rest)
      | depth + 1 => (upToBracket? depth rest).map fun (s, after) => (c :: s, after)
    else
      (upToBracket? (if c = '(' then depth + 1 else depth) rest).map fun (s, after) =>
        (c :: s, after)

/-- Reads what stands behind a dollar sign. -/
def readDollar (quoted : Bool) : Text → Option (WordPart × Text)
  | '(' :: rest => (upToBracket? 0 rest).map fun (s, after) => (.output s quoted, after)
  | '\x7b' :: rest => (upTo? '\x7d' rest).map fun (s, after) => (.parameter s quoted, after)
  | c :: rest =>
    if isNameStart c then
      some (.parameter (c :: rest.takeWhile isNameChar) quoted, rest.dropWhile isNameChar)
    else if Text.isAsciiDigit c || "@*#?$".toList.contains c then
      some (.parameter [c] quoted, rest)
    else some (.text ['$'] quoted, c :: rest)
  | [] => some (.text ['$'] quoted, [])

/-- Reads what is between double quotes; the number bounds the steps. -/
def readQuoted : Nat → Text → Option (Word × Text)
  | 0, _ => none
  | fuel + 1, s =>
    match s with
    | [] => none
    | '"' :: rest => some ([], rest)
    | '\\' :: '\n' :: rest => readQuoted fuel rest
    | '\\' :: c :: rest =>
      let kept := if "$`\"\\".toList.contains c then [c] else ['\\', c]
      (readQuoted fuel rest).map fun (parts, after) => (.text kept true :: parts, after)
    | '$' :: rest => do
      let (part, rest) ← readDollar true rest
      let (parts, after) ← readQuoted fuel rest
      return (part :: parts, after)
    | '\x60' :: rest => do
      let (script, rest) ← upTo? '\x60' rest
      let (parts, after) ← readQuoted fuel rest
      return (.output script true :: parts, after)
    | c :: rest =>
      (readQuoted fuel rest).map fun (parts, after) => (.text [c] true :: parts, after)

/-- A character that ends a word. -/
def endsWord (c : Char) : Bool :=
  " \t\n;&|()<>".toList.contains c

/-- Reads a word, as far as it goes; the number bounds the steps. -/
def readWord : Nat → Text → Option (Word × Text)
  | 0, _ => none
  | fuel + 1, s =>
    match s with
    | [] => some ([], [])
    | '\\' :: '\n' :: rest => readWord fuel rest
    | '\\' :: c :: rest =>
      (readWord fuel rest).map fun (parts, after) => (.text [c] true :: parts, after)
    | '\'' :: rest => do
      let (kept, rest) ← upTo? '\'' rest
      let (parts, after) ← readWord fuel rest
      return (.text kept true :: parts, after)
    | '"' :: rest => do
      let (kept, rest) ← readQuoted fuel rest
      let (parts, after) ← readWord fuel rest
      return (.text [] true :: kept ++ parts, after)
    | '$' :: rest => do
      let (part, rest) ← readDollar false rest
      let (parts, after) ← readWord fuel rest
      return (part :: parts, after)
    | '\x60' :: rest => do
      let (script, rest) ← upTo? '\x60' rest
      let (parts, after) ← readWord fuel rest
      return (.output script false :: parts, after)
    | c :: rest =>
      if endsWord c then some ([], c :: rest)
      else (readWord fuel rest).map fun (parts, after) => (.text [c] false :: parts, after)

/-- Reads an operator that redirects a stream of a number, if there is one. -/
def readRedirect? (stream : Option Nat) : Text → Option (Lexeme × Text)
  | '>' :: '>' :: rest => some (.redirect (stream.getD 1) .append, rest)
  | '>' :: '&' :: rest => some (.redirect (stream.getD 1) .duplicate, rest)
  | '>' :: rest => some (.redirect (stream.getD 1) .to, rest)
  | '<' :: '&' :: rest => some (.redirect (stream.getD 0) .duplicate, rest)
  | '<' :: rest => some (.redirect (stream.getD 0) .from, rest)
  | _ => none

/-- Reads an operator, if there is one. -/
def readOperator? : Text → Option (Lexeme × Text)
  | '&' :: '&' :: rest => some (.operator "&&".toList, rest)
  | '|' :: '|' :: rest => some (.operator "||".toList, rest)
  | '>' :: rest => readRedirect? none ('>' :: rest)
  | '<' :: rest => readRedirect? none ('<' :: rest)
  | c :: d :: rest =>
    if (c = '1' || c = '2' || c = '0') && (d = '>' || d = '<') then
      readRedirect? (some (c.toNat - '0'.toNat)) (d :: rest)
    else if endsWord c then some (.operator [c], d :: rest)
    else none
  | [c] => if endsWord c then some (.operator [c], []) else none
  | [] => none

/-- The lexemes of a script with the lines on which they stand; the number bounds the steps. -/
def lexemes (line : Nat) : Nat → Text → Except (Nat × SyntaxFault) (List (Nat × Lexeme))
  | 0, _ => .ok []
  | fuel + 1, s =>
    match s with
    | [] => .ok []
    | '\\' :: '\n' :: rest => lexemes (line + 1) fuel rest
    | c :: rest =>
      if c = ' ' || c = '\t' then lexemes line fuel rest
      else if c = '#' then lexemes line fuel (rest.dropWhile (· ≠ '\n'))
      else
        match readOperator? s with
        | some (lexeme, after) =>
          ((line, lexeme) :: ·) <$> lexemes (if c = '\n' then line + 1 else line) fuel after
        | none =>
          match readWord (s.length + 1) s with
          | none => .error (line + Text.countOf '\n' s, .unterminated)
          | some (parts, after) =>
            let lines := Text.countOf '\n' s - Text.countOf '\n' after
            ((line, .word parts) :: ·) <$> lexemes (line + lines) fuel after

end DomBindings.Shell
