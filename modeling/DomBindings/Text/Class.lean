/-!
# Text and character classes

Texts are lists of code points: every length, width and order in this library counts code points,
and every rule about text is a recursion on the list. A class of characters that a standard fixes
by table is a list of ranges, and membership is a search through it.
-/

namespace DomBindings

/-- A text is the list of its code points. -/
abbrev Text := List Char

namespace Text

/-- Whether a character lies in one of the ranges, bounds included. -/
def inRanges (ranges : List (Nat × Nat)) (c : Char) : Bool :=
  ranges.any fun (first, last) => first ≤ c.toNat && c.toNat ≤ last

/-- The white space of Unicode, the four information separators among it. -/
def blankRanges : List (Nat × Nat) :=
  [(0x9, 0xD), (0x1C, 0x20), (0x85, 0x85), (0xA0, 0xA0), (0x1680, 0x1680), (0x2000, 0x200A),
   (0x2028, 0x2029), (0x202F, 0x202F), (0x205F, 0x205F), (0x3000, 0x3000)]

/-- A white-space character. -/
def isBlank (c : Char) : Bool :=
  inRanges blankRanges c

/-- Drops the white space at the start. -/
def trimStart (s : Text) : Text :=
  s.dropWhile isBlank

/-- Drops the white space at the end. -/
def trimEnd (s : Text) : Text :=
  (s.reverse.dropWhile isBlank).reverse

/-- Drops the white space at both ends. -/
def trim (s : Text) : Text :=
  trimEnd (trimStart s)

end Text

end DomBindings
