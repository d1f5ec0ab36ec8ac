/-!
# Binary floating-point numbers of 64 bits

A finite number is kept as its sign, an odd mantissa and a power of two, so that one number has one
form and every comparison and every rounding is exact arithmetic on natural numbers. Rounding goes
to the nearest number, a tie to the even one, and beyond the largest number to an infinity.

A number that is not a number carries an identity: the result of a computation is a new one, which
equals no other, while the same one read in several places equals itself.
-/

namespace DomBindings

/-- A floating-point number. A finite one is `± mantissa · 2 ^ exponent`, and its mantissa is odd,
or zero with the exponent zero. -/
inductive Binary64 where
  /-- not a number, with its identity -/
  | nan (identity : Nat)
  /-- an infinity -/
  | infinite (negative : Bool)
  /-- a finite number -/
  | finite (negative : Bool) (mantissa : Nat) (exponent : Int)
deriving DecidableEq, Repr

namespace Binary64

/-- The least exponent of a mantissa of full precision. -/
def leastExponent : Int := -1074

/-- The number of bits in a natural number. -/
def bitLength (n : Nat) : Nat :=
  if n = 0 then 0 else n.log2 + 1

/-- Moves factors of two from the mantissa to the exponent, at most as many as `fuel`. -/
def dropTwos : Nat → Nat → Int → Nat × Int
  | 0, m, e => (m, e)
  | fuel + 1, m, e => if m % 2 = 0 then dropTwos fuel (m / 2) (e + 1) else (m, e)

/-- The finite number with a sign, a mantissa and an exponent, in its one form. -/
def normal (negative : Bool) (m : Nat) (e : Int) : Binary64 :=
  if m = 0 then .finite negative 0 0
  else
    let (m, e) := dropTwos m.log2 m e
    .finite negative m e

/-- Divides by a power of two and rounds to the nearest natural number, a tie to the even one. -/
def shiftRound (m shift : Nat) : Nat :=
  let unit := Nat.pow 2 shift
  let q := m / unit
  let r := m % unit
  if 2 * r < unit then q
  else if 2 * r = unit then q + q % 2
  else q + 1

/-- The exponent of the last bit that a number of this mantissa and exponent can keep. -/
def lastBit (m : Nat) (e : Int) : Int :=
  max (e + bitLength m - 53) leastExponent

/-- The number nearest to `± m · 2 ^ e`. -/
def ofDyadic (negative : Bool) (m : Nat) (e : Int) : Binary64 :=
  let last := lastBit m e
  let (m, e) := if last ≤ e then (m, e) else (shiftRound m (last - e).toNat, last)
  if m = 0 then .finite negative 0 0
  else if 1024 < e + bitLength m then .infinite negative
  else normal negative m e

/-- The number nearest to `± num / den`. The quotient is taken to more bits than a mantissa has,
and its last bit records whether anything was cut off. -/
def ofRatio (negative : Bool) (num den : Nat) : Binary64 :=
  let shift := 58 + bitLength den - bitLength num
  let scaled := num * Nat.pow 2 shift
  let q := scaled / den
  let sticky := if scaled % den = 0 then 0 else 1
  ofDyadic negative (2 * q + sticky) (-(shift : Int) - 1)

/-- The number nearest to an integer. -/
def ofInt (n : Int) : Binary64 :=
  ofDyadic (n < 0) n.natAbs 0

/-- The number nearest to `± digits · 10 ^ exponent`. -/
def ofDecimal (negative : Bool) (digits : Nat) (exponent : Int) : Binary64 :=
  let size := (Nat.toDigits 10 digits).length
  if digits = 0 || exponent + size < -400 then .finite negative 0 0
  else if 400 < exponent + size then .infinite negative
  else if exponent < 0 then ofRatio negative digits (Nat.pow 10 exponent.natAbs)
  else ofDyadic negative (digits * Nat.pow 10 exponent.toNat) 0

/-- The number with the other sign. -/
def neg : Binary64 → Binary64
  | .nan k => .nan k
  | .infinite s => .infinite !s
  | .finite s m e => .finite (!s) m e

/-- The signed mantissa of a finite number. -/
def signedMantissa (negative : Bool) (m : Nat) : Int :=
  if negative then -m else m

/-- The sum, rounded; a result that is not a number takes the given identity. -/
def add (identity : Nat) : Binary64 → Binary64 → Binary64
  | .nan k, _ => .nan k
  | _, .nan k => .nan k
  | .infinite s, .infinite t => if s = t then .infinite s else .nan identity
  | .infinite s, _ => .infinite s
  | _, .infinite t => .infinite t
  | .finite s m e, .finite t n f =>
    let low := min e f
    let sum := signedMantissa s (m * Nat.pow 2 (e - low).toNat)
      + signedMantissa t (n * Nat.pow 2 (f - low).toNat)
    if sum = 0 then .finite (s && t) 0 0
    else ofDyadic (sum < 0) sum.natAbs low

/-- The product, rounded; a result that is not a number takes the given identity. -/
def mul (identity : Nat) : Binary64 → Binary64 → Binary64
  | .nan k, _ => .nan k
  | _, .nan k => .nan k
  | .infinite s, .infinite t => .infinite (s != t)
  | .infinite s, .finite t n _ => if n = 0 then .nan identity else .infinite (s != t)
  | .finite s m _, .infinite t => if m = 0 then .nan identity else .infinite (s != t)
  | .finite s m e, .finite t n f => ofDyadic (s != t) (m * n) (e + f)

end Binary64

end DomBindings
