import DomBindings.Text.Layout
import DomBindings.Text.Printable

/-!
# Literals in messages

How a message shows a text so that its extent and its invisible characters can be seen: in single
quotes, or in double quotes when it holds a single quote and no double one, with the backslash,
the quote and every character that is not printable escaped.
-/

namespace DomBindings.Text

/-- The quote that a literal is written with. -/
def literalQuote (s : Text) : Char :=
  if s.contains '\'' && !s.contains '"' then '"' else '\''

/-- The shortest numeric escape of a character: two, four or eight hexadecimal digits. -/
def numericEscape (c : Char) : Text :=
  if c.toNat ≤ 0xFF then '\\' :: 'x' :: hexNumeral 2 c.toNat
  else if c.toNat ≤ 0xFFFF then '\\' :: 'u' :: hexNumeral 4 c.toNat
  else '\\' :: 'U' :: hexNumeral 8 c.toNat

/-- The form of one character in a literal. -/
def literalChar (mark c : Char) : Text :=
  if c = mark || c = '\\' then ['\\', c]
  else if c = '\n' then ['\\', 'n']
  else if c = '\r' then ['\\', 'r']
  else if c = '\t' then ['\\', 't']
  else if isPrintable c then [c]
  else numericEscape c

/-- The literal of a text. -/
def literal (s : Text) : Text :=
  let mark := literalQuote s
  mark :: s.flatMap (literalChar mark) ++ [mark]

/-- The form of one byte in a literal of bytes. -/
def literalByte (mark : Char) (b : UInt8) : Text :=
  let c := Char.ofNat b.toNat
  if c = mark || c = '\\' then ['\\', c]
  else if c = '\n' then ['\\', 'n']
  else if c = '\r' then ['\\', 'r']
  else if c = '\t' then ['\\', 't']
  else if 0x20 ≤ b.toNat && b.toNat < 0x7F then [c]
  else '\\' :: 'x' :: hexNumeral 2 b.toNat

/-- The literal of a sequence of bytes, marked by a letter in front. -/
def bytesLiteral (bytes : List UInt8) : Text :=
  let mark := literalQuote (bytes.map fun b => Char.ofNat b.toNat)
  'b' :: mark :: bytes.flatMap (literalByte mark) ++ [mark]

end DomBindings.Text
