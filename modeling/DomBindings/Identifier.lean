import DomBindings.Text.Digit

/-!
# Identifiers

The name under which the factory of an element is declared. Characters that an identifier cannot
hold become low lines, a low line goes in front of a digit at the start, and one goes behind a
reserved word.
-/

namespace DomBindings.Identifier

/-- The words that the declared language keeps for itself, in all its modes. -/
def reservedWords : List Text :=
  ["await", "break", "case", "catch", "class", "const", "continue", "debugger", "default",
   "delete", "do", "else", "enum", "export", "extends", "false", "finally", "for", "function",
   "if", "implements", "import", "in", "instanceof", "interface", "let", "new", "null", "package",
   "private", "protected", "public", "return", "static", "super", "switch", "this", "throw",
   "true", "try", "typeof", "var", "void", "while", "with", "yield"].map String.toList

/-- Whether a name is a reserved word. -/
def isReserved (name : Text) : Bool :=
  reservedWords.contains name

/-- Puts a low line behind a reserved word. -/
def avoidReserved (name : Text) : Text :=
  if isReserved name then name ++ ['_'] else name

/-- A character that an identifier may hold: an ASCII letter or digit, a low line or a dollar
sign. -/
def isAllowed (c : Char) : Bool :=
  ('A' ≤ c && c ≤ 'Z') || ('a' ≤ c && c ≤ 'z') || Text.isAsciiDigit c || c = '_' || c = '$'

/-- A character, or a low line where an identifier cannot hold it. -/
def replaceChar (c : Char) : Char :=
  if isAllowed c then c else '_'

/-- Puts a low line in front of a digit at the start. -/
def avoidDigit (name : Text) : Text :=
  match name with
  | c :: _ => if Text.isAsciiDigit c then '_' :: name else name
  | [] => []

/-- A name with its characters replaced where an identifier cannot hold them. -/
def sanitize (name : Text) : Text :=
  avoidDigit (name.map replaceChar)

/-- The identifier of the factory of an element. -/
def factory (name : Text) : Text :=
  avoidReserved (sanitize name)

end DomBindings.Identifier
