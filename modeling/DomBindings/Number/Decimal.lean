import DomBindings.Number.Binary64
import DomBindings.Number.Integer

/-!
# Decimal forms of floating-point numbers

Reading takes the nearest number to the decimal. Writing takes the fewest digits that read back as
the same number, and of those the nearest to it: on each decimal grid, coarsest first, the two
neighbours of the number are tried against the interval of reals that round to it. Positional
notation is used for numbers from `10 ^ -4` on and below `10 ^ 16`.
-/

namespace DomBindings

namespace Decimal

/-- What a decimal text writes: `± digits · 10 ^ exponent`. -/
structure Scientific where
  /-- whether a minus sign is in front -/
  negative : Bool
  /-- the digits, read as one number -/
  digits : Nat
  /-- the power of ten -/
  exponent : Int
deriving DecidableEq, Repr

/-- The digits at the front of a text, and the rest. -/
def splitDigits (s : Text) : Text × Text :=
  (s.takeWhile Text.isAsciiDigit, s.dropWhile Text.isAsciiDigit)

/-- The number that ASCII digits write. -/
def digitsValue (s : Text) : Nat :=
  Numeral.ofDigits 10 (s.filterMap Text.asciiDigitValue?)

/-- Reads the exponent after the digits, which the text may leave out. -/
def readExponent? : Text → Option Int
  | [] => some 0
  | c :: rest =>
    if c = 'e' || c = 'E' then
      let (negative, digits) := Numeral.splitSign rest
      if digits.isEmpty || !digits.all Text.isAsciiDigit then none
      else some (if negative then -(digitsValue digits : Int) else digitsValue digits)
    else none

/-- Reads a decimal: digits with an optional point among them, and an optional exponent. -/
def readScientific? (s : Text) : Option Scientific := do
  let (negative, s) := Numeral.splitSign s
  let (whole, rest) := splitDigits s
  let (fraction, rest) :=
    match rest with
    | '.' :: rest => splitDigits rest
    | rest => ([], rest)
  let exponent ← readExponent? rest
  if whole.isEmpty && fraction.isEmpty then none
  else some ⟨negative, digitsValue (whole ++ fraction), exponent - fraction.length⟩

/-- Reads a floating-point number; one that is not a number takes the given identity. -/
def read? (identity : Nat) (text : Text) : Option Binary64 :=
  let s := Numeral.unpad (text.map Numeral.asciiDigit)
  let (negative, word) := Numeral.splitSign s
  let word := word.map Char.toLower
  if word = "inf".toList || word = "infinity".toList then some (.infinite negative)
  else if word = "nan".toList then some (.nan identity)
  else
    (readScientific? s).map fun d => Binary64.ofDecimal d.negative d.digits d.exponent

/-- The decimal digits of a number and the place of the point: `0.d₁d₂… · 10 ^ point`. -/
structure Digits where
  /-- the digits, the last of them not zero unless it is the only one -/
  digits : Text
  /-- the number of digits before the point, which may be negative -/
  point : Int
deriving DecidableEq, Repr

/-- The interval of reals that round to a finite positive number, in units of a quarter of its last
bit: the number, the lower end, the upper end, the power of two of the unit, and whether the ends
belong to it. -/
structure Interval where
  /-- the number itself -/
  value : Nat
  /-- the lower end -/
  lower : Nat
  /-- the upper end -/
  upper : Nat
  /-- the power of two of the unit -/
  unit : Int
  /-- whether the ends round to the number -/
  closed : Bool

/-- The interval that rounds to `m · 2 ^ e`. -/
def interval (m : Nat) (e : Int) : Interval :=
  let last := Binary64.lastBit m e
  let full := m * Nat.pow 2 (e - last).toNat
  let below := if full = Nat.pow 2 52 && Binary64.leastExponent < last then 1 else 2
  ⟨4 * full, 4 * full - below, 4 * full + 2, last - 2, full % 2 = 0⟩

/-- Whether `n · num / den`, a point of a decimal grid, lies in the interval; the fraction is the
step of the grid in units of the interval. -/
def Interval.holds (i : Interval) (num den n : Nat) : Bool :=
  let x := n * num
  if i.closed then i.lower * den ≤ x && x ≤ i.upper * den
  else i.lower * den < x && x < i.upper * den

/-- The step `10 ^ k` in units of `2 ^ unit`, as a fraction. -/
def gridStep (k unit : Int) : Nat × Nat :=
  (Nat.pow 10 k.toNat * Nat.pow 2 (-unit).toNat, Nat.pow 10 (-k).toNat * Nat.pow 2 unit.toNat)

/-- The point of the grid with step `10 ^ k` that reads back and is nearest to the number; of two
that are equally near, the even one. -/
def Interval.onGrid? (i : Interval) (k : Int) : Option Nat :=
  let (num, den) := gridStep k i.unit
  let down := i.value * den / num
  let up := down + 1
  match i.holds num den down, i.holds num den up with
  | true, true =>
    let left := i.value * den - down * num
    let right := up * num - i.value * den
    if left < right then some down
    else if right < left then some up
    else some (if down % 2 = 0 then down else up)
  | true, false => some down
  | false, true => some up
  | false, false => none

/-- Tries the grids of one digit, two digits and so on; `point` is the place of the point. -/
def Interval.shortest? (i : Interval) (point : Int) (count : Nat) : Nat → Option (Nat × Int)
  | 0 => none
  | fuel + 1 =>
    let k := point - count
    match i.onGrid? k with
    | some n => some (n, k)
    | none => i.shortest? point (count + 1) fuel

/-- The place of the decimal point of `m · 2 ^ e`: the number of digits before it. -/
def pointOf (m : Nat) (e : Int) : Int :=
  let (num, den) := (m * Nat.pow 2 e.toNat * Nat.pow 10 400, Nat.pow 2 (-e).toNat)
  ((Nat.toDigits 10 (num / den)).length : Int) - 400

/-- Drops zeros at the end, down to one digit. -/
def dropZeros (s : Text) : Text :=
  match (s.reverse.dropWhile (· = '0')).reverse with
  | [] => ['0']
  | t => t

/-- The shortest digits of `m · 2 ^ e`. -/
def shortestDigits (m : Nat) (e : Int) : Digits :=
  match (interval m e).shortest? (pointOf m e) 1 17 with
  | some (n, k) =>
    let digits := Text.numeral n
    ⟨dropZeros digits, digits.length + k⟩
  | none => ⟨['0'], 1⟩

/-- Positional notation, with at least one digit on each side of the point. -/
def positional (d : Digits) : Text :=
  if d.point ≤ 0 then
    "0.".toList ++ List.replicate d.point.natAbs '0' ++ d.digits
  else if d.digits.length ≤ d.point.toNat then
    d.digits.rightpad d.point.toNat '0' ++ ".0".toList
  else
    d.digits.take d.point.toNat ++ '.' :: d.digits.drop d.point.toNat

/-- Scientific notation, with a signed exponent of at least two digits. -/
def scientific (d : Digits) : Text :=
  let exponent := d.point - 1
  let mantissa :=
    match d.digits with
    | [] => []
    | [c] => [c]
    | c :: rest => c :: '.' :: rest
  mantissa ++ (if exponent < 0 then "e-".toList else "e+".toList)
    ++ Text.paddedNumeral 2 exponent.natAbs

/-- The text of a number. -/
def write : Binary64 → Text
  | .nan _ => "nan".toList
  | .infinite false => "inf".toList
  | .infinite true => "-inf".toList
  | .finite negative m e =>
    let body :=
      if m = 0 then "0.0".toList
      else
        let d := shortestDigits m e
        if -4 < d.point && d.point ≤ 16 then positional d else scientific d
    if negative then '-' :: body else body

end Decimal

end DomBindings
