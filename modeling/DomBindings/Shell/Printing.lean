import DomBindings.Text.Digit
import DomBindings.Text.Utf8

/-!
# Printing in scripts

The two utilities that print their arguments. Escapes in them stand for single bytes, so what is
printed is a list of bytes and need not be a text.
-/

namespace DomBindings.Shell

/-- The byte that a one-letter escape stands for. -/
def escapeByte? : Char → Option UInt8
  | 'a' => some 7
  | 'b' => some 8
  | 't' => some 9
  | 'n' => some 10
  | 'v' => some 11
  | 'f' => some 12
  | 'r' => some 13
  | '\\' => some 92
  | _ => none

/-- An octal digit. -/
def isOctal (c : Char) : Bool :=
  '0' ≤ c && c ≤ '7'

/-- The byte that octal digits write. -/
def octalByte (digits : Text) : UInt8 :=
  UInt8.ofNat (digits.foldl (fun n c => n * 8 + (c.toNat - '0'.toNat)) 0)

/-- A piece of a text with escapes. -/
inductive Piece where
  /-- these bytes -/
  | bytes (content : List UInt8)
  /-- the end of all printing -/
  | stop
deriving DecidableEq, Repr

/-- Reads a character or an escape from the front of what follows a first character. In arguments,
as against formats, an octal escape may begin with a zero of its own. -/
def readPiece (inArgument : Bool) (first : Char) (rest : Text) : Piece × Text :=
  if first ≠ '\\' then (.bytes (Text.encode [first]), rest)
  else
    match rest with
    | [] => (.bytes (Text.encode ['\\']), [])
    | c :: after =>
      if c = 'c' then (.stop, after)
      else
        match escapeByte? c with
        | some b => (.bytes [b], after)
        | none =>
          if isOctal c then
            let digits := if inArgument && c = '0' then after else c :: after
            let taken := (digits.take 3).takeWhile isOctal
            (.bytes [octalByte taken], digits.drop taken.length)
          else (.bytes (Text.encode ['\\', c]), after)

/-- The bytes of a text with escapes, and whether it stops all printing; the number bounds the
steps. -/
def unescape : Nat → Text → List UInt8 × Bool
  | 0, _ => ([], false)
  | _, [] => ([], false)
  | fuel + 1, c :: rest =>
    match readPiece true c rest with
    | (.stop, _) => ([], true)
    | (.bytes content, after) =>
      let (others, stopped) := unescape fuel after
      (content ++ others, stopped)

/-- What is printed when arguments with escapes are echoed. -/
def echoEscaped (arguments : List Text) : List UInt8 :=
  let (newline, arguments) : List UInt8 × List Text :=
    match arguments with
    | ['-', 'n'] :: rest => ([], rest)
    | _ => ([10], arguments)
  let line := List.intercalate [' '] arguments
  let (content, stopped) := unescape (line.length + 1) line
  if stopped then content else content ++ newline

/-- What is printed when arguments are echoed and escapes mean something only on demand. -/
def echoPlain (arguments : List Text) : List UInt8 :=
  let isFlag (s : Text) : Bool :=
    s.head? = some '-' && 1 < s.length && (s.drop 1).all "neE".toList.contains
  let flags := (arguments.takeWhile isFlag).flatten
  let line := List.intercalate [' '] (arguments.dropWhile isFlag)
  let newline : List UInt8 := if flags.contains 'n' then [] else [10]
  if flags.contains 'e' then
    let (content, stopped) := unescape (line.length + 1) line
    if stopped then content else content ++ newline
  else Text.encode line ++ newline

/-! ### Formats -/

/-- A directive of a format. -/
structure Directive where
  /-- whether the text is put at the left of its field -/
  left : Bool
  /-- whether the field is filled with zeros -/
  zeros : Bool
  /-- the width of the field -/
  width : Nat
  /-- the most characters of the argument -/
  precision : Option Nat
  /-- what is printed -/
  kind : Char
deriving DecidableEq, Repr

/-- The number that digits write. -/
def digitsNumber (s : Text) : Nat :=
  s.foldl (fun n c => n * 10 + (c.toNat - '0'.toNat)) 0

/-- Reads a directive behind the percent sign. -/
def readDirective? (s : Text) : Option (Directive × Text) :=
  let flags := s.takeWhile "-0+ #".toList.contains
  let s := s.drop flags.length
  let width := s.takeWhile Text.isAsciiDigit
  let s := s.drop width.length
  let (precision, s) :=
    match s with
    | '.' :: rest =>
      let digits := rest.takeWhile Text.isAsciiDigit
      (some (digitsNumber digits), rest.drop digits.length)
    | _ => (none, s)
  match s with
  | [] => none
  | kind :: rest =>
    some (⟨flags.contains '-', flags.contains '0', digitsNumber width, precision, kind⟩, rest)

/-- The number that an argument writes, if it writes one. -/
def argumentNumber? (s : Text) : Option Int :=
  let (negative, digits) :=
    match s with
    | '-' :: rest => (true, rest)
    | '+' :: rest => (false, rest)
    | _ => (false, s)
  if digits.isEmpty || !digits.all Text.isAsciiDigit then none
  else some (if negative then -(digitsNumber digits : Int) else digitsNumber digits)

/-- Puts bytes in a field. -/
def inField (d : Directive) (content : List UInt8) : List UInt8 :=
  if d.left then content.rightpad d.width 32
  else content.leftpad d.width (if d.zeros && d.kind ≠ 's' then 48 else 32)

/-- What a directive makes of an argument, and whether that stops all printing. -/
def printArgument (d : Directive) (argument : Text) : List UInt8 × Bool :=
  if d.kind = 's' then
    let content := Text.encode argument
    (inField d (d.precision.elim content content.take), false)
  else if d.kind = 'b' then
    let (content, stopped) := unescape (argument.length + 1) argument
    (inField d content, stopped)
  else if d.kind = 'c' then (inField d (Text.encode (argument.take 1)), false)
  else
    let n := (argumentNumber? argument).getD 0
    let digits :=
      if d.kind = 'x' then Nat.toDigits 16 n.toNat
      else if d.kind = 'o' then Nat.toDigits 8 n.toNat
      else Text.signedNumeral n
    (inField d (Text.encode digits), false)

/-- What came of printing through a format. -/
structure Printed where
  /-- the bytes -/
  content : List UInt8
  /-- the arguments that are left -/
  arguments : List Text
  /-- whether printing is stopped -/
  stopped : Bool

/-- Prints arguments through a format once; the number bounds the steps. -/
def printThrough : Nat → Text → List Text → Printed
  | 0, _, arguments => ⟨[], arguments, false⟩
  | _, [], arguments => ⟨[], arguments, false⟩
  | fuel + 1, '%' :: '%' :: rest, arguments =>
    let after := printThrough fuel rest arguments
    { after with content := 37 :: after.content }
  | fuel + 1, '%' :: rest, arguments =>
    match readDirective? rest with
    | none => ⟨[37], arguments, true⟩
    | some (d, rest) =>
      let (content, stopped) := printArgument d (arguments.headD [])
      if stopped then ⟨content, [], true⟩
      else
        let after := printThrough fuel rest (arguments.drop 1)
        { after with content := content ++ after.content }
  | fuel + 1, c :: rest, arguments =>
    match readPiece false c rest with
    | (.stop, _) => ⟨[], [], true⟩
    | (.bytes content, rest) =>
      let after := printThrough fuel rest arguments
      { after with content := content ++ after.content }

/-- Prints arguments through a format as often as there are arguments left for it. -/
def printAll (format : Text) : Nat → List Text → List UInt8
  | 0, _ => []
  | fuel + 1, arguments =>
    let once := printThrough (format.length + 1) format arguments
    if once.stopped || once.arguments.isEmpty || once.arguments.length = arguments.length then
      once.content
    else once.content ++ printAll format fuel once.arguments

end DomBindings.Shell
