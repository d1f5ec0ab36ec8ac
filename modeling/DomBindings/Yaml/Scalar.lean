import DomBindings.Number.Decimal
import DomBindings.Text.Base64
import DomBindings.Text.LetterCase
import DomBindings.Value.Basic
import DomBindings.Yaml.Fault
import DomBindings.Yaml.Tag

/-!
# The values of scalars

What the text of a scalar means under a tag that was given or resolved. A tag may be given to any
text, so each reading has its own way to fail.
-/

namespace DomBindings.Yaml

/-- The refusal of a node that makes no value under its tag. -/
def constructFault {α : Type} : Except Fault α :=
  .error (.format .constructing)

/-- A truth value: one of the words for it, in any case. -/
def readTruth (s : Text) : Except Fault Value :=
  let word := Text.lower s
  if ["yes".toList, "true".toList, "on".toList].contains word then .ok (.bool true)
  else if ["no".toList, "false".toList, "off".toList].contains word then .ok (.bool false)
  else .error (.truthValue s)

/-- Reads an integer in a base. -/
def readInBase (base : Nat) (s : Text) : Except Fault Int :=
  match Numeral.read base s with
  | .ok n => .ok n
  | .error e => .error (.numeral e)

/-- Joins places of base sixty, the most significant first. -/
def joinSixties (places : List Int) : Int :=
  places.foldl (fun n place => n * 60 + place) 0

/-- An integer without its sign. -/
def readMagnitude (s : Text) : Except Fault Int :=
  match s with
  | [] => .error .emptyNumeral
  | ['0'] => .ok 0
  | '0' :: 'b' :: digits => readInBase 2 digits
  | '0' :: 'x' :: digits => readInBase 16 digits
  | '0' :: _ => readInBase 8 s
  | _ =>
    if s.contains ':' then do
      let places ← (Text.splitOn ':' s).mapM (readInBase 10)
      .ok (joinSixties places)
    else readInBase 10 s

/-- An integer. Low lines are dropped before it is read. -/
def readInteger (s : Text) : Except Fault Value :=
  match s.filter (· ≠ '_') with
  | [] => .error .emptyNumeral
  | '-' :: digits => do
    let n ← readMagnitude digits
    .ok (.int (-n))
  | digits => do
    let n ← readMagnitude (unsigned digits)
    .ok (.int n)

/-- Reads one decimal. -/
def readDecimal (id : Nat) (s : Text) : Except Fault Binary64 :=
  match Decimal.read? id s with
  | some x => .ok x
  | none => .error (.decimal s)

/-- Joins places of base sixty that are decimals, the least significant first; `weight` is the value
of the next place. -/
def joinDecimalSixties (id : Nat) (sum : Binary64) (weight : Nat) :
    List Binary64 → Except Fault Binary64
  | [] => .ok sum
  | place :: rest =>
    match Binary64.ofInt weight with
    | .infinite _ => .error .tooManyPlaces
    | w => joinDecimalSixties id (sum.add id (place.mul id w)) (weight * 60) rest

/-- A floating-point number without its sign. -/
def readFloatMagnitude (id : Nat) (s : Text) : Except Fault Binary64 :=
  if s = ".inf".toList then .ok (.infinite false)
  else if s.contains ':' then do
    let places ← (Text.splitOn ':' s).mapM (readDecimal id)
    joinDecimalSixties id (.finite false 0 0) 1 places.reverse
  else readDecimal id s

/-- A floating-point number. The word for what is not a number means the same one everywhere; any
other way to such a number makes one that belongs to its node. -/
def readFloat (id : Nat) (s : Text) : Except Fault Value :=
  match (Text.lower (s.filter (· ≠ '_'))) with
  | [] => .error .emptyNumeral
  | c :: rest =>
    let body := unsigned (c :: rest)
    if body = ".nan".toList then .ok (.float (.nan 0))
    else do
      let x ← readFloatMagnitude id body
      .ok (.float (if c = '-' then x.neg else x))

/-- Bytes in base 64, of which every character must be an ASCII one. -/
def readBinary (s : Text) : Except Fault Value :=
  if s.all fun c => c.toNat < 0x80 then
    match Text.decodeBase64 s with
    | some bytes => .ok (.bytes bytes)
    | none => constructFault
  else constructFault

/-- The microseconds that the digits of a fraction of a second write; digits beyond the sixth are
dropped. -/
def fractionMicroseconds (digits : Text) : Nat :=
  Decimal.digitsValue ((digits.take 6).rightpad 6 '0')

/-- The minutes of an offset. -/
def zoneMinutes : Option (Char × Text × Text) → Int
  | none => 0
  | some (sign, hours, minutes) =>
    let n : Int := Decimal.digitsValue hours * 60 + Decimal.digitsValue minutes
    if sign = '-' then -n else n

/-- A day or a moment. -/
def readMoment (s : Text) : Except Fault Value :=
  match readTimestamp? (withoutFinalBreak s) with
  | none => .error .moment
  | some parts =>
    let year := Decimal.digitsValue parts.year
    let month := Decimal.digitsValue parts.month
    let day := Decimal.digitsValue parts.day
    match parts.time with
    | none =>
      match Date.of year month day with
      | .ok d => .ok (.date d)
      | .error e => .error (.calendar e)
    | some (hour, minute, second, fraction) =>
      match Moment.of year month day (Decimal.digitsValue hour) (Decimal.digitsValue minute)
          (Decimal.digitsValue second) (fractionMicroseconds fraction)
          (parts.zone.map zoneMinutes) with
      | .ok m => .ok (.moment m)
      | .error e => .error (.calendar e)

/-- Whether the values of a tag are put together from nodes. -/
def Tag.isCollection : Tag → Bool
  | .seq | .map | .set | .omap | .pairs => true
  | _ => false

/-- The value of a scalar's text under a tag. -/
def readScalar (id : Nat) (tag : Tag) (s : Text) : Except Fault Value :=
  match tag with
  | .null => .ok .null
  | .bool => readTruth s
  | .int => readInteger s
  | .float => readFloat id s
  | .binary => readBinary s
  | .timestamp => readMoment s
  | .str => .ok (.text s)
  | _ => constructFault

end DomBindings.Yaml
