import DomBindings.Text.Class

/-!
# Layout of texts

Small functions that place texts beside each other: lines, numerals, grouped numerals. Widths
count code points, so `List.leftpad` and `List.rightpad` serve as they are.
-/

namespace DomBindings.Text

/-- Lines joined by line feeds, none after the last. -/
def joinLines (lines : List Text) : Text :=
  List.intercalate ['\n'] lines

/-- The decimal numeral of a natural number. -/
def numeral (n : Nat) : Text :=
  Nat.toDigits 10 n

/-- The decimal numeral of an integer, with a minus sign where it is negative. -/
def signedNumeral (n : Int) : Text :=
  if n < 0 then '-' :: numeral n.natAbs else numeral n.natAbs

/-- Puts a comma after every third digit of a numeral that is written backwards. -/
def groupBackwards : Text → Text
  | a :: b :: c :: d :: rest => a :: b :: c :: ',' :: groupBackwards (d :: rest)
  | s => s

/-- The decimal numeral of an integer with its digits grouped by thousands. -/
def groupedNumeral (n : Int) : Text :=
  let digits := (groupBackwards (numeral n.natAbs).reverse).reverse
  if n < 0 then '-' :: digits else digits

/-- The numeral with at least `width` digits, zeros in front. -/
def paddedNumeral (width n : Nat) : Text :=
  (numeral n).leftpad width '0'

/-- The hexadecimal numeral with at least `width` digits, zeros in front. -/
def hexNumeral (width n : Nat) : Text :=
  (Nat.toDigits 16 n).leftpad width '0'

/-- Whether the first text occurs somewhere in the second. -/
def occursIn (part : Text) : Text → Bool
  | [] => part.isEmpty
  | c :: rest => part.isPrefixOf (c :: rest) || occursIn part rest

/-- How often a character occurs. -/
def countOf (c : Char) (s : Text) : Nat :=
  s.count c

/-- The pieces of a text between the occurrences of a separating character. -/
def splitOn (sep : Char) : Text → List Text
  | [] => [[]]
  | c :: rest =>
    if c = sep then [] :: splitOn sep rest
    else
      match splitOn sep rest with
      | [] => [[c]]
      | piece :: pieces => (c :: piece) :: pieces

end DomBindings.Text
