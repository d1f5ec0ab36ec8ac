import DomBindings.Text.Digit

/-!
# A place in a document

A cursor holds the text that is still to be read and where it stands: how many characters were
passed, on which line, in which column. The character classes of the format are here too; the end
of the text counts as a break, which is why the tests take an optional character.
-/

namespace DomBindings.Yaml

/-- A line break: a line feed, a carriage return, the next-line character, or one of the two
separators of Unicode. -/
def isBreak (c : Char) : Bool :=
  c = '\n' || c = '\r' || c = '\x85' || c = '\u2028' || c = '\u2029'

/-- A space or a break; what an indicator needs behind it where tabs do not count. -/
def isSpaceOrBreak (c : Char) : Bool :=
  c = ' ' || isBreak c

/-- A space, a tab or a break. -/
def isWhite (c : Char) : Bool :=
  c = ' ' || c = '\t' || isBreak c

/-- A character that may stand in a name: a letter, a digit, a hyphen or a low line. -/
def isNameChar (c : Char) : Bool :=
  Text.isAsciiDigit c || ('A' ≤ c && c ≤ 'Z') || ('a' ≤ c && c ≤ 'z') || c = '-' || c = '_'

/-- Whether the text ends here or goes on with a character of the class. -/
def endsOr (p : Char → Bool) : Option Char → Bool
  | none => true
  | some c => p c

/-- Whether the text goes on with a character of the class. -/
def goesOn (p : Char → Bool) : Option Char → Bool
  | none => false
  | some c => p c

/-- What is left of a document, and where it begins. -/
structure Cursor where
  /-- the text to be read -/
  rest : Text
  /-- how many characters were passed -/
  index : Nat
  /-- how many lines were passed -/
  line : Nat
  /-- how many columns of this line were passed -/
  column : Nat
deriving Repr

namespace Cursor

/-- The start of a document. -/
def ofText (s : Text) : Cursor :=
  ⟨s, 0, 0, 0⟩

/-- The next character. -/
def peek? (c : Cursor) : Option Char :=
  c.rest.head?

/-- The character `k` places ahead. -/
def ahead? (c : Cursor) (k : Nat) : Option Char :=
  c.rest[k]?

/-- Passes one character. A carriage return before a line feed belongs to the same break, and a
byte-order mark takes no column. -/
def advance (c : Cursor) : Cursor :=
  match c.rest with
  | [] => c
  | ch :: rest =>
    if (isBreak ch && ch ≠ '\r') || (ch = '\r' && rest.head? ≠ some '\n') then
      ⟨rest, c.index + 1, c.line + 1, 0⟩
    else if ch = '\uFEFF' then ⟨rest, c.index + 1, c.line, c.column⟩
    else ⟨rest, c.index + 1, c.line, c.column + 1⟩

/-- Passes several characters. -/
def skip (c : Cursor) : Nat → Cursor
  | 0 => c
  | n + 1 => c.advance.skip n

/-- The longest run of characters of a class, and the cursor behind it. -/
def span (c : Cursor) (p : Char → Bool) : Text × Cursor :=
  let run := c.rest.takeWhile p
  (run, c.skip run.length)

/-- The cursor behind the longest run of characters of a class. -/
def dropWhile (c : Cursor) (p : Char → Bool) : Cursor :=
  (c.span p).2

/-- Passes spaces up to a column. -/
def skipSpacesTo (c : Cursor) (column : Nat) : Cursor :=
  c.skip ((c.rest.take (column - c.column)).takeWhile (· = ' ')).length

/-- Passes one line break, if there is one, and returns the text it stands for: itself for a
separator of Unicode, a line feed for the others. -/
def lineBreak (c : Cursor) : Text × Cursor :=
  match c.rest with
  | '\r' :: '\n' :: _ => (['\n'], c.skip 2)
  | ch :: _ =>
    if ch = '\u2028' || ch = '\u2029' then ([ch], c.advance)
    else if isBreak ch then (['\n'], c.advance)
    else ([], c)
  | [] => ([], c)

/-- Passes a comment, if one starts here, up to the end of its line. -/
def skipComment (c : Cursor) : Cursor :=
  if c.peek? = some '#' then c.dropWhile (!isBreak ·) else c

/-- Whether a document marker, three times the character, stands here as a word of its own. -/
def atMarker (c : Cursor) (mark : Char) : Bool :=
  c.rest.take 3 = [mark, mark, mark] && endsOr isWhite (c.ahead? 3)

/-- Whether a marker between documents stands here. -/
def atDocumentMarker (c : Cursor) : Bool :=
  c.atMarker '-' || c.atMarker '.'

end Cursor

end DomBindings.Yaml
