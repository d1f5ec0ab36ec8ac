import DomBindings.Text.Digit

/-!
# Tags and their resolution

A tag names the kind of a value. A plain scalar without a tag is given one by the form of its text,
through a list of rules: each rule states the characters that a text of its form begins with and
the form itself, and the first rule that accepts the text gives its tag. A text that no rule accepts
is a text.

`standardRules` are the rules of the format. `vocabularyRules` differ from them in the truth values:
only `true` and `false` are, so that `on`, `off`, `yes` and `no` can be tokens of attributes.
-/

namespace DomBindings.Yaml

/-- The kind of a node's value. -/
inductive Tag where
  /-- the absent value -/
  | null
  /-- a truth value -/
  | bool
  /-- an integer -/
  | int
  /-- a floating-point number -/
  | float
  /-- bytes -/
  | binary
  /-- a day or a moment -/
  | timestamp
  /-- a text -/
  | str
  /-- a sequence -/
  | seq
  /-- a mapping -/
  | map
  /-- a set -/
  | set
  /-- a mapping whose order counts -/
  | omap
  /-- a list of pairs -/
  | pairs
  /-- the key that merges other mappings -/
  | merge
  /-- the key of the value that a mapping has as a scalar -/
  | value
  /-- the mark of a scalar that could be taken for an indicator -/
  | yaml
  /-- a tag that means nothing here -/
  | unknown (name : Text)
deriving DecidableEq, Repr

/-- What the names of the format's own tags begin with. -/
def tagBase : Text :=
  "tag:yaml.org,2002:".toList

/-- The tags of the format by the ends of their names. -/
def knownTags : List (Text × Tag) :=
  [("null".toList, .null), ("bool".toList, .bool), ("int".toList, .int),
   ("float".toList, .float), ("binary".toList, .binary), ("timestamp".toList, .timestamp),
   ("str".toList, .str), ("seq".toList, .seq), ("map".toList, .map), ("set".toList, .set),
   ("omap".toList, .omap), ("pairs".toList, .pairs), ("merge".toList, .merge),
   ("value".toList, .value), ("yaml".toList, .yaml)]

/-- The tag with a name. -/
def Tag.ofName (name : Text) : Tag :=
  if tagBase.isPrefixOf name then
    match knownTags.lookup (name.drop tagBase.length) with
    | some t => t
    | none => .unknown name
  else .unknown name

/-! ### Forms of plain scalars -/

/-- Drops a sign. -/
def unsigned : Text → Text
  | '-' :: rest => rest
  | '+' :: rest => rest
  | s => s

/-- A decimal digit or a low line, which may separate digits. -/
def isDigitOrLine (c : Char) : Bool :=
  Text.isAsciiDigit c || c = '_'

/-- A digit from zero to five. -/
def isLowDigit (c : Char) : Bool :=
  '0' ≤ c && c ≤ '5'

/-- One or more places of base sixty, each behind a colon, up to a given end. -/
def isSixties (ending : Text → Bool) : Text → Bool
  | ':' :: a :: b :: rest =>
    if Text.isAsciiDigit b then isLowDigit a && (ending rest || isSixties ending rest)
    else Text.isAsciiDigit a && (ending (b :: rest) || isSixties ending (b :: rest))
  | [':', a] => Text.isAsciiDigit a && ending []
  | _ => false

/-- An integer: binary, octal, hexadecimal, decimal or in base sixty, with an optional sign. -/
def isIntegerForm (s : Text) : Bool :=
  match unsigned s with
  | '0' :: 'b' :: digits => !digits.isEmpty && digits.all fun c => c = '0' || c = '1' || c = '_'
  | '0' :: 'x' :: digits =>
    !digits.isEmpty && digits.all fun c => (Text.asciiDigitValue? c).isSome || c = '_'
  | '0' :: digits => digits.all fun c => ('0' ≤ c && c ≤ '7') || c = '_'
  | c :: rest =>
    Text.isAsciiDigit c &&
      (let tail := rest.dropWhile isDigitOrLine
       tail.isEmpty || isSixties List.isEmpty tail)
  | [] => false

/-- An exponent, which needs its sign, or nothing. -/
def isExponent : Text → Bool
  | [] => true
  | e :: sign :: digits =>
    (e = 'e' || e = 'E') && (sign = '-' || sign = '+') && !digits.isEmpty
      && digits.all Text.isAsciiDigit
  | _ => false

/-- A point and what may follow it in base sixty: digits to the end. -/
def isSixtiesFraction : Text → Bool
  | '.' :: digits => digits.all isDigitOrLine
  | _ => false

/-- A floating-point number: a decimal with a point, one in base sixty, an infinity, or the word
for what is not a number. -/
def isFloatForm (s : Text) : Bool :=
  let decimal : Bool :=
    match unsigned s with
    | c :: rest =>
      Text.isAsciiDigit c &&
        (match rest.dropWhile isDigitOrLine with
         | '.' :: tail => isExponent (tail.dropWhile isDigitOrLine)
         | tail => isSixties isSixtiesFraction tail)
    | [] => false
  let fraction : Bool :=
    match s with
    | '.' :: c :: rest => Text.isAsciiDigit c && isExponent (rest.dropWhile isDigitOrLine)
    | _ => false
  decimal || fraction
    || [".inf".toList, ".Inf".toList, ".INF".toList].contains (unsigned s)
    || [".nan".toList, ".NaN".toList, ".NAN".toList].contains s

/-- The parts of a day or a moment as they are written. -/
structure TimestampParts where
  /-- the four digits of the year -/
  year : Text
  /-- the digits of the month -/
  month : Text
  /-- the digits of the day -/
  day : Text
  /-- the hour, the minute, the second and the fraction of a second, if there is a time -/
  time : Option (Text × Text × Text × Text)
  /-- the offset: its sign, hours and minutes, or nothing for universal time -/
  zone : Option (Option (Char × Text × Text))
deriving DecidableEq, Repr

/-- Exactly two digits at the front. -/
def twoDigits? : Text → Option (Text × Text)
  | a :: b :: rest =>
    if Text.isAsciiDigit a && Text.isAsciiDigit b then some ([a, b], rest) else none
  | _ => none

/-- One or two digits at the front, two where there are two. -/
def upToTwoDigits? (s : Text) : Option (Text × Text) :=
  match twoDigits? s with
  | some parts => some parts
  | none =>
    match s with
    | a :: rest => if Text.isAsciiDigit a then some ([a], rest) else none
    | [] => none

/-- The text behind a given character. -/
def behind? (c : Char) : Text → Option Text
  | d :: rest => if d = c then some rest else none
  | [] => none

/-- The offset at the end of a moment, behind optional white space. -/
def readZone? (s : Text) : Option (Option (Option (Char × Text × Text))) :=
  match s.dropWhile fun c => c = ' ' || c = '\t' with
  | [] => if s.isEmpty then some none else none
  | ['Z'] => some (some none)
  | sign :: rest => do
    if sign ≠ '-' && sign ≠ '+' then none
    let (hours, rest) ← upToTwoDigits? rest
    match rest with
    | [] => some (some (some (sign, hours, [])))
    | ':' :: rest => do
      let (minutes, rest) ← twoDigits? rest
      if rest.isEmpty then some (some (some (sign, hours, minutes))) else none
    | _ => none

/-- The time behind a day: a letter T or white space, hours, minutes and seconds, an optional
fraction and an optional offset. -/
def readTime? (s : Text) :
    Option ((Text × Text × Text × Text) × Option (Option (Char × Text × Text))) := do
  let s ←
    match s with
    | 'T' :: rest => some rest
    | 't' :: rest => some rest
    | c :: rest =>
      if c = ' ' || c = '\t' then some (rest.dropWhile fun c => c = ' ' || c = '\t') else none
    | [] => none
  let (hour, s) ← upToTwoDigits? s
  let s ← behind? ':' s
  let (minute, s) ← twoDigits? s
  let s ← behind? ':' s
  let (second, s) ← twoDigits? s
  let (fraction, s) :=
    match s with
    | '.' :: rest => (rest.takeWhile Text.isAsciiDigit, rest.dropWhile Text.isAsciiDigit)
    | s => ([], s)
  let zone ← readZone? s
  return ((hour, minute, second, fraction), zone)

/-- The parts of a day or a moment; month and day may have one digit. -/
def readTimestamp? (s : Text) : Option TimestampParts := do
  let (century, s) ← twoDigits? s
  let (decade, s) ← twoDigits? s
  let s ← behind? '-' s
  let (month, s) ← upToTwoDigits? s
  let s ← behind? '-' s
  let (day, s) ← upToTwoDigits? s
  match s with
  | [] => return ⟨century ++ decade, month, day, none, none⟩
  | s => do
    let (time, zone) ← readTime? s
    return ⟨century ++ decade, month, day, some time, zone⟩

/-- A day with two digits each for month and day, or a moment. -/
def isTimestampForm (s : Text) : Bool :=
  match readTimestamp? s with
  | some parts => parts.time.isSome || (parts.month.length = 2 && parts.day.length = 2)
  | none => false

/-! ### Rules -/

/-- A rule of resolution. -/
structure ResolutionRule where
  /-- the tag that the rule gives -/
  tag : Tag
  /-- the characters that a text of the form begins with; nothing stands for the empty text -/
  leads : List (Option Char)
  /-- the form of the text -/
  accepts : Text → Bool

/-- The first characters of a rule, as a text. -/
def leading (s : String) : List (Option Char) :=
  s.toList.map some

/-- The rule for the truth values of the format. -/
def standardTruthRule : ResolutionRule where
  tag := .bool
  leads := leading "yYnNtTfFoO"
  accepts s :=
    ["yes".toList, "Yes".toList, "YES".toList, "no".toList, "No".toList, "NO".toList,
     "true".toList, "True".toList, "TRUE".toList, "false".toList, "False".toList,
     "FALSE".toList, "on".toList, "On".toList, "ON".toList, "off".toList, "Off".toList,
     "OFF".toList].contains s

/-- The rule for the truth values of vocabularies. -/
def vocabularyTruthRule : ResolutionRule where
  tag := .bool
  leads := leading "tTfF"
  accepts s :=
    ["true".toList, "True".toList, "TRUE".toList, "false".toList, "False".toList,
     "FALSE".toList].contains s

/-- The rules of the format, in the order in which they are tried. -/
def standardRules : List ResolutionRule :=
  [standardTruthRule,
   { tag := .float, leads := leading "-+0123456789.", accepts := isFloatForm },
   { tag := .int, leads := leading "-+0123456789", accepts := isIntegerForm },
   { tag := .merge, leads := leading "<", accepts := (· = "<<".toList) },
   { tag := .null
     leads := none :: leading "~nN"
     accepts := fun s =>
      ["~".toList, "null".toList, "Null".toList, "NULL".toList, []].contains s },
   { tag := .timestamp, leads := leading "0123456789", accepts := isTimestampForm },
   { tag := .value, leads := leading "=", accepts := (· = "=".toList) },
   { tag := .yaml
     leads := leading "!&*"
     accepts := fun s => ["!".toList, "&".toList, "*".toList].contains s }]

/-- The rules of vocabularies: those of the format without its truth values, and last the rule for
the truth values of vocabularies. -/
def vocabularyRules : List ResolutionRule :=
  standardRules.filter (fun rule => rule.tag ≠ .bool) ++ [vocabularyTruthRule]

/-- Drops one line feed at the end, which the forms overlook. -/
def withoutFinalBreak (s : Text) : Text :=
  match s.reverse with
  | '\n' :: rest => rest.reverse
  | _ => s

/-- The tag that the rules give a plain text. -/
def resolve (rules : List ResolutionRule) (s : Text) : Tag :=
  match rules.find? fun rule =>
      rule.leads.contains s.head? && rule.accepts (withoutFinalBreak s) with
  | some rule => rule.tag
  | none => .str

end DomBindings.Yaml
