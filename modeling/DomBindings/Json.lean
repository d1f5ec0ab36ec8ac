import DomBindings.Number.Integer
import DomBindings.Text.Quoted

/-!
# JSON documents

Values and their reader. The reader follows the JSON grammar, with three more numbers that are
written as words, and refuses integers of too many digits while it reads them, so before it looks at
what follows.
-/

namespace DomBindings

/-- A JSON value. Numbers are kept as they are written. -/
inductive Json where
  /-- no value -/
  | null
  /-- a truth value -/
  | bool (b : Bool)
  /-- a number -/
  | number (numeral : Text)
  /-- a text -/
  | text (s : Text)
  /-- a list of values -/
  | array (items : List Json)
  /-- an object, with its members as they are written -/
  | object (members : List (Text × Json))
deriving Repr

/-- Why a text is no JSON document. -/
inductive JsonError where
  /-- it does not follow the grammar -/
  | malformed
  /-- an integer in it cannot be read -/
  | numeral (e : NumeralError)
deriving DecidableEq, Repr

namespace Json

/-- White space between the parts of a document. -/
def isSpace (c : Char) : Bool :=
  c = ' ' || c = '\t' || c = '\n' || c = '\r'

/-- Drops the white space at the front. -/
def skipSpace (s : Text) : Text :=
  s.dropWhile isSpace

/-! ### Numbers and words -/

/-- Splits off the digits at the front. -/
def splitDigits (s : Text) : Text × Text :=
  (s.takeWhile Text.isAsciiDigit, s.dropWhile Text.isAsciiDigit)

/-- Splits off the whole part of a number: a zero, or digits that do not begin with one. -/
def splitWhole : Text → Text × Text
  | '0' :: rest => (['0'], rest)
  | s => splitDigits s

/-- Splits off a point and the digits after it, or nothing. -/
def splitFraction : Text → Text × Text
  | '.' :: rest =>
    let (digits, after) := splitDigits rest
    if digits.isEmpty then ([], '.' :: rest) else ('.' :: digits, after)
  | s => ([], s)

/-- Splits off an optional sign. -/
def splitSign : Text → Text × Text
  | '+' :: rest => (['+'], rest)
  | '-' :: rest => (['-'], rest)
  | s => ([], s)

/-- Splits off an exponent, or nothing. -/
def splitExponent : Text → Text × Text
  | [] => ([], [])
  | c :: rest =>
    if c = 'e' || c = 'E' then
      let (sign, after) := splitSign rest
      let (digits, after) := splitDigits after
      if digits.isEmpty then ([], c :: rest) else (c :: sign ++ digits, after)
    else ([], c :: rest)

/-- Reads a number from the front. -/
def readNumber (s : Text) : Except JsonError (Json × Text) :=
  let (minus, s) := if s.head? = some '-' then (['-'], s.drop 1) else ([], s)
  let (whole, s) := splitWhole s
  let (fraction, s) := splitFraction s
  let (exponent, s) := splitExponent s
  if whole.isEmpty then .error .malformed
  else if fraction.isEmpty && exponent.isEmpty && maxDecimalDigits < whole.length then
    .error (.numeral (.tooLongToRead whole.length))
  else .ok (.number (minus ++ whole ++ fraction ++ exponent), s)

/-- The values that are written as words. -/
def words : List (Text × Json) :=
  [("null".toList, .null), ("true".toList, .bool true), ("false".toList, .bool false)]
    ++ ["NaN", "Infinity", "-Infinity"].map fun word => (word.toList, .number word.toList)

/-- Reads a word or a number from the front. -/
def readSimple (s : Text) : Except JsonError (Json × Text) :=
  match words.find? fun (word, _) => word.isPrefixOf s with
  | some (word, value) => .ok (value, s.drop word.length)
  | none => readNumber s

/-! ### Documents -/

/-- Reads a quoted text from the front. -/
def readText (s : Text) : Except JsonError (Text × Text) :=
  match Text.readQuoted? s with
  | some read => .ok read
  | none => .error .malformed

mutual

/-- Reads a value from the front; the number bounds the steps. -/
def readValue : Nat → Text → Except JsonError (Json × Text)
  | 0, _ => .error .malformed
  | fuel + 1, s =>
    match s with
    | '"' :: _ => do
      let (content, rest) ← readText s
      return (.text content, rest)
    | '[' :: rest =>
      match skipSpace rest with
      | ']' :: rest => .ok (.array [], rest)
      | rest => do
        let (items, rest) ← readItems fuel rest
        return (.array items, rest)
    | '\x7b' :: rest =>
      match skipSpace rest with
      | '\x7d' :: rest => .ok (.object [], rest)
      | rest => do
        let (members, rest) ← readMembers fuel rest
        return (.object members, rest)
    | s => readSimple s

/-- Reads the items of a list up to its end, at least one. -/
def readItems : Nat → Text → Except JsonError (List Json × Text)
  | 0, _ => .error .malformed
  | fuel + 1, s => do
    let (item, rest) ← readValue fuel s
    match skipSpace rest with
    | ']' :: rest => return ([item], rest)
    | ',' :: rest => do
      let (items, rest) ← readItems fuel (skipSpace rest)
      return (item :: items, rest)
    | _ => .error .malformed

/-- Reads the members of an object up to its end, at least one. -/
def readMembers : Nat → Text → Except JsonError (List (Text × Json) × Text)
  | 0, _ => .error .malformed
  | fuel + 1, s => do
    let (name, rest) ← readText s
    match skipSpace rest with
    | ':' :: rest =>
      let (value, rest) ← readValue fuel (skipSpace rest)
      match skipSpace rest with
      | '\x7d' :: rest => return ([(name, value)], rest)
      | ',' :: rest => do
        let (members, rest) ← readMembers fuel (skipSpace rest)
        return ((name, value) :: members, rest)
      | _ => .error .malformed
    | _ => .error .malformed

end

/-- Reads a document. Every value takes at most two steps for each of its characters. -/
def read (s : Text) : Except JsonError Json := do
  let (value, rest) ← readValue (2 * s.length + 2) (skipSpace s)
  if (skipSpace rest).isEmpty then return value else .error .malformed

/-- Whether a value is an object with a member of this name. -/
def hasMember (name : Text) : Json → Bool
  | .object members => members.any fun (other, _) => other = name
  | _ => false

end Json

end DomBindings
