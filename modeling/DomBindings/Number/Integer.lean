import DomBindings.Text.Digit
import DomBindings.Text.Literal

/-!
# Numerals of integers

Reading an integer from a numeral in a base, with an optional sign, an optional prefix that names
the base, digits of any script, and white space around it. Decimal numerals of more than 4300
digits are refused, in reading and in writing.
-/

namespace DomBindings

/-- The most decimal digits that a numeral is read or written with. -/
def maxDecimalDigits : Nat := 4300

/-- Why a numeral cannot be read or written. -/
inductive NumeralError where
  /-- the text is no numeral in the base -/
  | malformed (base : Nat) (text : Text)
  /-- a decimal numeral to be read has this many digits, which are too many -/
  | tooLongToRead (digits : Nat)
  /-- the number has too many digits to be written -/
  | tooLongToWrite
deriving DecidableEq, Repr

/-- The wording of an error; the shown text is cut after two hundred characters. -/
def NumeralError.message : NumeralError → Text
  | .malformed base s =>
    "invalid literal for int() with base ".toList ++ Text.numeral base ++ ": ".toList
      ++ (Text.literal s).take 200
  | .tooLongToRead digits =>
    "Exceeds the limit (".toList ++ Text.numeral maxDecimalDigits
      ++ " digits) for integer string conversion: value has ".toList ++ Text.numeral digits
      ++ " digits; use sys.set_int_max_str_digits() to increase the limit".toList
  | .tooLongToWrite =>
    "Exceeds the limit (".toList ++ Text.numeral maxDecimalDigits
      ++ " digits) for integer string conversion; ".toList
      ++ "use sys.set_int_max_str_digits() to increase the limit".toList

namespace Numeral

/-- White space around a numeral: that of Unicode, the four information separators left out. -/
def isPadding (c : Char) : Bool :=
  Text.isBlank c && !(0x1C ≤ c.toNat && c.toNat ≤ 0x1F)

/-- Drops the white space around a numeral. -/
def unpad (s : Text) : Text :=
  ((s.dropWhile isPadding).reverse.dropWhile isPadding).reverse

/-- A decimal digit of any script becomes the ASCII digit of the same value. -/
def asciiDigit (c : Char) : Char :=
  match Text.digitValue? c with
  | some d => Char.ofNat ('0'.toNat + d)
  | none => c

/-- Splits off a sign: whether the number is negative, and the rest. -/
def splitSign : Text → Bool × Text
  | '-' :: rest => (true, rest)
  | '+' :: rest => (false, rest)
  | s => (false, s)

/-- Drops a prefix that names the base. -/
def dropBase (base : Nat) : Text → Text
  | '0' :: c :: rest =>
    if (base = 16 && (c = 'x' || c = 'X')) || (base = 8 && (c = 'o' || c = 'O'))
        || (base = 2 && (c = 'b' || c = 'B')) then rest
    else '0' :: c :: rest
  | s => s

/-- The value of a digit that is smaller than the base. -/
def digitIn? (base : Nat) (c : Char) : Option Nat :=
  (Text.asciiDigitValue? c).filter (· < base)

/-- The number that a list of digit values writes. -/
def ofDigits (base : Nat) (digits : List Nat) : Nat :=
  digits.foldl (fun n d => n * base + d) 0

/-- Reads an integer in a base. -/
def read (base : Nat) (text : Text) : Except NumeralError Int :=
  let (negative, digits) := splitSign (unpad (text.map asciiDigit))
  let digits := dropBase base digits
  let leading := digits.takeWhile fun c => (digitIn? base c).isSome
  if base = 10 && maxDecimalDigits < leading.length then
    .error (.tooLongToRead leading.length)
  else if digits.isEmpty || leading.length < digits.length then
    .error (.malformed base text)
  else
    let n : Int := ofDigits base (digits.filterMap (digitIn? base))
    .ok (if negative then -n else n)

/-- Writes an integer in decimal. -/
def write (n : Int) : Except NumeralError Text :=
  let digits := Text.numeral n.natAbs
  if maxDecimalDigits < digits.length then .error .tooLongToWrite
  else .ok (if n < 0 then '-' :: digits else digits)

end Numeral

end DomBindings
