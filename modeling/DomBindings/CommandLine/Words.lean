import DomBindings.Text.Class

/-!
# The words of a command line

A command line is divided at blanks. Single quotes keep what is between them; double quotes do too,
but in them a backslash takes its meaning from a quote or a backslash after it; elsewhere a
backslash keeps the character after it. Quotes around nothing make an empty word.
-/

namespace DomBindings.CommandLine

/-- Why a command line cannot be divided. -/
inductive WordsError where
  /-- a quote is not closed -/
  | unclosedQuote
  /-- the last character is a backslash that keeps nothing -/
  | nothingEscaped
deriving DecidableEq, Repr

/-- The wording of an error. -/
def WordsError.message : WordsError → Text
  | .unclosedQuote => "No closing quotation".toList
  | .nothingEscaped => "No escaped character".toList

/-- A blank between words. -/
def isSeparator (c : Char) : Bool :=
  c = ' ' || c = '\t' || c = '\r' || c = '\n'

/-- A quote. -/
def isQuote (c : Char) : Bool :=
  c = '\'' || c = '"'

/-- Where in a command line a character is. -/
inductive Position where
  /-- between words -/
  | between
  /-- in a word, outside quotes -/
  | plain
  /-- in quotes of this kind -/
  | quoted (mark : Char)
  /-- behind a backslash, outside quotes -/
  | escaped
  /-- behind a backslash in double quotes -/
  | escapedInQuotes
deriving DecidableEq, Repr

/-- Divides what is left of a command line, given the word that has been begun. -/
def wordsFrom (position : Position) (word : Text) : Text → Except WordsError (List Text)
  | [] =>
    match position with
    | .between => .ok []
    | .plain => .ok [word]
    | .quoted _ => .error .unclosedQuote
    | .escaped | .escapedInQuotes => .error .nothingEscaped
  | c :: rest =>
    match position with
    | .between =>
      if isSeparator c then wordsFrom .between [] rest
      else if c = '\\' then wordsFrom .escaped [] rest
      else if isQuote c then wordsFrom (.quoted c) [] rest
      else wordsFrom .plain [c] rest
    | .plain =>
      if isSeparator c then (word :: ·) <$> wordsFrom .between [] rest
      else if c = '\\' then wordsFrom .escaped word rest
      else if isQuote c then wordsFrom (.quoted c) word rest
      else wordsFrom .plain (word ++ [c]) rest
    | .quoted mark =>
      if c = mark then wordsFrom .plain word rest
      else if c = '\\' && mark = '"' then wordsFrom .escapedInQuotes word rest
      else wordsFrom (.quoted mark) (word ++ [c]) rest
    | .escaped => wordsFrom .plain (word ++ [c]) rest
    | .escapedInQuotes =>
      wordsFrom (.quoted '"') (word ++ (if c = '"' || c = '\\' then [c] else ['\\', c]))
        rest

/-- The words of a command line. -/
def words (s : Text) : Except WordsError (List Text) :=
  wordsFrom .between [] s

end DomBindings.CommandLine
