import DomBindings.Text.Quoted
import DomBindings.Text.Utf8
import DomBindings.Yaml.Cursor
import DomBindings.Yaml.Fault
import DomBindings.Yaml.Token

/-!
# Lexemes

Reading one token that has an inside: a directive, a name, a tag, and the four ways to write a
scalar. Each function starts at the first character of the token and returns the cursor behind it.
A loop over the lines of a scalar is bounded by the length of the text that is left.
-/

namespace DomBindings.Yaml

/-- The refusal of a text that has not the form of any token. -/
def scanFault {α : Type} : Except Fault α :=
  .error (.format .scanning)

/-! ### Directives, names and tags -/

/-- The end of a line that may hold nothing more than a comment. -/
def restOfLine (c : Cursor) : Except Fault Cursor :=
  let c := (c.dropWhile (· = ' ')).skipComment
  if endsOr isBreak c.peek? then .ok c.lineBreak.2 else scanFault

/-- A decimal number. -/
def versionNumber (c : Cursor) : Except Fault (Nat × Cursor) :=
  let (digits, c) := c.span Text.isAsciiDigit
  if digits.isEmpty then scanFault
  else
    match Numeral.read 10 digits with
    | .ok n => .ok (n.toNat, c)
    | .error e => .error (.numeral e)

/-- The name of an anchor, which must not be empty. -/
def name (c : Cursor) : Except Fault (Text × Cursor) :=
  let (word, c) := c.span isNameChar
  if word.isEmpty then scanFault else .ok (word, c)

/-- A name behind the indicator of an anchor or an alias. -/
def anchorName (c : Cursor) : Except Fault (Text × Cursor) := do
  let (word, c) ← name c.advance
  if endsOr (fun ch => isWhite ch || "?:,]\x7d%@`".toList.contains ch) c.peek? then .ok (word, c)
  else scanFault

/-- A handle: an exclamation mark alone, or two of them around a name that may be empty. A mark
before a space is a handle alone. -/
def tagHandle (c : Cursor) : Except Fault (Text × Cursor) :=
  if c.peek? ≠ some '!' then scanFault
  else
    let behind := c.advance
    if behind.peek? = some ' ' then .ok (['!'], behind)
    else
      let (word, behind) := behind.span isNameChar
      if behind.peek? = some '!' then .ok ('!' :: word ++ ['!'], behind.advance) else scanFault

/-- A character that a tag may hold as it stands; the percent sign is left out, which begins an
escape. -/
def isTagChar (c : Char) : Bool :=
  isNameChar c || ";/?:@&=+$,.!~*'()[]".toList.contains c

/-- The bytes of the percent escapes at the front, and the cursor behind them. -/
def escapedBytes (c : Cursor) : Nat → Except Fault (List UInt8 × Cursor)
  | 0 => .ok ([], c)
  | fuel + 1 =>
    match c.rest with
    | '%' :: rest =>
      match rest with
      | a :: b :: _ =>
        match Text.asciiDigitValue? a, Text.asciiDigitValue? b with
        | some high, some low => do
          let (bytes, c) ← escapedBytes (c.skip 3) fuel
          .ok (UInt8.ofNat (high * 16 + low) :: bytes, c)
        | _, _ => scanFault
      | _ => scanFault
    | _ => .ok ([], c)

/-- The text of a tag or of what a handle stands for. -/
def tagText (c : Cursor) : Nat → Except Fault (Text × Cursor)
  | 0 => .ok ([], c)
  | fuel + 1 => do
    let (plain, c) := c.span isTagChar
    if c.peek? = some '%' then
      let (bytes, c) ← escapedBytes c c.rest.length
      match Text.decode bytes with
      | .error _ => scanFault
      | .ok escaped =>
        let (others, c) ← tagText c fuel
        .ok (plain ++ escaped ++ others, c)
    else .ok (plain, c)

/-- The text of a tag, which must not be left out. -/
def tagBody (c : Cursor) : Except Fault (Text × Cursor) :=
  if goesOn (fun ch => isTagChar ch || ch = '%') c.peek? then tagText c (c.rest.length + 1)
  else scanFault

/-- Whether a tag has a second exclamation mark in its word, so that its handle has a name. -/
def hasNamedHandle (c : Cursor) : Bool :=
  (c.rest.drop 1).takeWhile (!isSpaceOrBreak ·) |>.contains '!'

/-- A tag: in full between angle brackets, alone, or with a handle. -/
def tag (c : Cursor) : Except Fault (Token × Cursor) := do
  let (handle, suffix, c) ←
    if c.ahead? 1 = some '<' then do
      let (body, c) ← tagBody (c.skip 2)
      if c.peek? = some '>' then Except.ok (none, body, c.advance) else scanFault
    else if endsOr isWhite (c.ahead? 1) then Except.ok (none, ['!'], c.advance)
    else do
      let (handle, c) ← if hasNamedHandle c then tagHandle c else .ok (['!'], c.advance)
      let (suffix, c) ← tagBody c
      Except.ok (some handle, suffix, c)
  if endsOr isSpaceOrBreak c.peek? then .ok (.tag handle suffix, c) else scanFault

/-- A directive line. -/
def directive (c : Cursor) : Except Fault (Token × Cursor) := do
  let (word, c) ← name c.advance
  if !endsOr isSpaceOrBreak c.peek? then scanFault
  let (d, c) ←
    if word = "YAML".toList then do
      let (major, c) ← versionNumber (c.dropWhile (· = ' '))
      if c.peek? ≠ some '.' then scanFault
      let (minor, c) ← versionNumber c.advance
      if endsOr isSpaceOrBreak c.peek? then Except.ok (Directive.version major minor, c)
      else scanFault
    else if word = "TAG".toList then do
      let (handle, c) ← tagHandle (c.dropWhile (· = ' '))
      if c.peek? ≠ some ' ' then scanFault
      let (expansion, c) ← tagBody (c.dropWhile (· = ' '))
      if endsOr isSpaceOrBreak c.peek? then Except.ok (Directive.handle handle expansion, c)
      else scanFault
    else Except.ok (Directive.other, c.dropWhile (!isBreak ·))
  let c ← restOfLine c
  .ok (.directive d, c)

/-! ### Block scalars -/

/-- What becomes of the line breaks at the end of a block scalar. -/
inductive Chomping where
  /-- none of them is kept -/
  | strip
  /-- the first is kept -/
  | clip
  /-- all of them are kept -/
  | keep
deriving DecidableEq, Repr

/-- The sign that says how a block scalar ends. -/
def chompingSign? : Option Char → Option Chomping
  | some '+' => some .keep
  | some '-' => some .strip
  | _ => none

/-- The digit that states an indentation; zero states none. -/
def indentDigit? (c : Cursor) : Except Fault (Option Nat) :=
  match c.peek? with
  | some ch =>
    if ch = '0' then scanFault
    else if Text.isAsciiDigit ch then .ok (some (ch.toNat - '0'.toNat))
    else .ok none
  | none => .ok none

/-- The indicators behind the one that opens a block scalar, in either order. -/
def blockHeader (c : Cursor) : Except Fault ((Chomping × Option Nat) × Cursor) := do
  let (chomping, indent, c) ←
    match chompingSign? c.peek? with
    | some chomping => do
      let c := c.advance
      match ← indentDigit? c with
      | some n => Except.ok (chomping, some n, c.advance)
      | none => Except.ok (chomping, none, c)
    | none => do
      match ← indentDigit? c with
      | some n =>
        let c := c.advance
        match chompingSign? c.peek? with
        | some chomping => Except.ok (chomping, some n, c.advance)
        | none => Except.ok (.clip, some n, c)
      | none => Except.ok (.clip, none, c)
  if endsOr isSpaceOrBreak c.peek? then .ok ((chomping, indent), c) else scanFault

/-- Passes the empty lines before the first line of a block scalar whose indentation is not stated:
their breaks, the greatest column that spaces reach, and the cursor at the first other character. -/
def findIndent (c : Cursor) (deepest : Nat) : Nat → Text × Nat × Cursor
  | 0 => ([], deepest, c)
  | fuel + 1 =>
    match c.peek? with
    | some ' ' =>
      let c := c.advance
      findIndent c (max deepest c.column) fuel
    | some ch =>
      if isBreak ch then
        let (text, c) := c.lineBreak
        let (breaks, deepest, c) := findIndent c deepest fuel
        (text ++ breaks, deepest, c)
      else ([], deepest, c)
    | none => ([], deepest, c)

/-- Passes empty lines and the indentation of the next one. -/
def blockBreaks (c : Cursor) (indent : Nat) : Nat → Text × Cursor
  | 0 => ([], c)
  | fuel + 1 =>
    let c := c.skipSpacesTo indent
    if goesOn isBreak c.peek? then
      let (text, c) := c.lineBreak
      let (breaks, c) := blockBreaks c indent fuel
      (text ++ breaks, c)
    else ([], c)

/-- What stands between two lines of a block scalar: the break of the first and the empty lines.
Folding turns a line feed between two lines that begin with neither space nor tab into a space, or
into nothing where empty lines follow. -/
def blockJoin (folded startsWhite : Bool) (next : Option Char) (lineBreak breaks : Text) : Text :=
  let nextStartsWhite := goesOn (fun c => c = ' ' || c = '\t') next
  if folded && lineBreak = ['\n'] && !startsWhite && !nextStartsWhite then
    if breaks.isEmpty then [' '] else breaks
  else lineBreak ++ breaks

/-- The lines of a block scalar from the first character of one; `before` holds the breaks that
come in front of it. Returns the content, the last line's break and the breaks behind it. -/
def blockLines (folded : Bool) (indent : Nat) (before : Text) (c : Cursor) :
    Nat → (Text × Text × Text) × Cursor
  | 0 => (([], [], before), c)
  | fuel + 1 =>
    let startsWhite := goesOn (fun ch => ch = ' ' || ch = '\t') c.peek?
    let (line, c) := c.span (!isBreak ·)
    let (lineBreak, c) := c.lineBreak
    let (breaks, c) := blockBreaks c indent (c.rest.length + 1)
    if c.column = indent && c.peek?.isSome then
      let between := blockJoin folded startsWhite c.peek? lineBreak breaks
      let ((content, last), c) := blockLines folded indent between c fuel
      ((before ++ line ++ content, last), c)
    else ((before ++ line, lineBreak, breaks), c)

/-- A block scalar inside a node that is indented by `parent` columns, or by −1 at the top. -/
def blockScalar (parent : Int) (folded : Bool) (c : Cursor) : Except Fault (Token × Cursor) := do
  let ((chomping, stated), c) ← blockHeader c.advance
  let c ← restOfLine c
  let least := max 1 (parent + 1).toNat
  let (breaks, indent, c) :=
    match stated with
    | none =>
      let (breaks, deepest, c) := findIndent c 0 (c.rest.length + 1)
      (breaks, max least deepest, c)
    | some n =>
      let indent := least + n - 1
      let (breaks, c) := blockBreaks c indent (c.rest.length + 1)
      (breaks, indent, c)
  let ((content, lineBreak, trailing), c) :=
    if c.column = indent && c.peek?.isSome then
      blockLines folded indent breaks c (c.rest.length + 1)
    else (([], [], breaks), c)
  let ending :=
    match chomping with
    | .strip => []
    | .clip => lineBreak
    | .keep => lineBreak ++ trailing
  .ok (.scalar (content ++ ending) false, c)

/-! ### Quoted scalars -/

/-- The character that a one-letter escape between double quotes stands for. -/
def quotedEscape? : Char → Option Char
  | '0' => some '\x00'
  | 'a' => some '\x07'
  | 'b' => some '\x08'
  | 't' => some '\t'
  | '\t' => some '\t'
  | 'n' => some '\n'
  | 'v' => some '\x0b'
  | 'f' => some '\x0c'
  | 'r' => some '\r'
  | 'e' => some '\x1b'
  | ' ' => some ' '
  | '"' => some '"'
  | '\\' => some '\\'
  | '/' => some '/'
  | 'N' => some '\x85'
  | '_' => some '\xa0'
  | 'L' => some '\u2028'
  | 'P' => some '\u2029'
  | _ => none

/-- How many hexadecimal digits follow the letter of a numeric escape. -/
def escapeWidth? : Char → Option Nat
  | 'x' => some 2
  | 'u' => some 4
  | 'U' => some 8
  | _ => none

/-- The character of a numeric escape with the digits given. Half of a surrogate pair is none, not even
beside the other half. -/
def escapedChar (digits : Text) : Except Fault Char :=
  match digits.mapM Text.asciiDigitValue? with
  | none => scanFault
  | some values =>
    let n := Numeral.ofDigits 16 values
    if 0x10FFFF < n then .error (.codePoint (0x80000000 ≤ n))
    else if Text.isHalf n then .error .halfCharacter
    else .ok (Char.ofNat n)

/-- The breaks at the start of a line of a quoted scalar, with the white space between them; a
document marker must not stand at the start of a line. -/
def quotedBreaks (c : Cursor) : Nat → Except Fault (Text × Cursor)
  | 0 => .ok ([], c)
  | fuel + 1 =>
    if c.atDocumentMarker then scanFault
    else
      let c := c.dropWhile fun ch => ch = ' ' || ch = '\t'
      if goesOn isBreak c.peek? then do
        let (text, c) := c.lineBreak
        let (breaks, c) ← quotedBreaks c fuel
        .ok (text ++ breaks, c)
      else .ok ([], c)

/-- White space inside a quoted scalar: kept within a line; a single line break becomes a space, and
several become all but the first. -/
def quotedWhite (c : Cursor) : Except Fault (Text × Cursor) :=
  let (white, c) := c.span fun ch => ch = ' ' || ch = '\t'
  match c.peek? with
  | none => scanFault
  | some ch =>
    if isBreak ch then do
      let (lineBreak, c) := c.lineBreak
      let (breaks, c) ← quotedBreaks c (c.rest.length + 1)
      if lineBreak ≠ ['\n'] then .ok (lineBreak ++ breaks, c)
      else if breaks.isEmpty then .ok ([' '], c)
      else .ok (breaks, c)
    else .ok (white, c)

/-- An escape between double quotes, from the character behind the backslash. -/
def quotedEscape (c : Cursor) : Except Fault (Text × Cursor) :=
  match c.peek? with
  | none => scanFault
  | some ch =>
    match quotedEscape? ch, escapeWidth? ch with
    | some e, _ => .ok ([e], c.advance)
    | none, some width => do
      let c := c.advance
      if c.rest.length < width then scanFault
      let e ← escapedChar (c.rest.take width)
      .ok ([e], c.skip width)
    | none, none =>
      if isBreak ch then
        let c := c.lineBreak.2
        quotedBreaks c (c.rest.length + 1)
      else scanFault

/-- The content of a quoted scalar up to the closing quote, which is passed. Between single quotes
two quotes in a row stand for one, and a backslash stands for itself. -/
def quotedContent (double : Bool) (c : Cursor) : Nat → Except Fault (Text × Cursor)
  | 0 => scanFault
  | fuel + 1 =>
    match c.rest with
    | [] => scanFault
    | ch :: rest =>
      if isWhite ch then do
        let (white, c) ← quotedWhite c
        let (others, c) ← quotedContent double c fuel
        .ok (white ++ others, c)
      else if !double && ch = '\'' && rest.head? = some '\'' then do
        let (others, c) ← quotedContent double (c.skip 2) fuel
        .ok ('\'' :: others, c)
      else if ch = (if double then '"' else '\'') then .ok ([], c.advance)
      else if double && ch = '\\' then do
        let (escape, c) ← quotedEscape c.advance
        let (others, c) ← quotedContent double c fuel
        .ok (escape ++ others, c)
      else do
        let (others, c) ← quotedContent double c.advance fuel
        .ok (ch :: others, c)

/-- A scalar in single or double quotes. -/
def quotedScalar (double : Bool) (c : Cursor) : Except Fault (Token × Cursor) := do
  let c := c.advance
  let (content, c) ← quotedContent double c (c.rest.length + 1)
  .ok (.scalar content false, c)

/-! ### Plain scalars -/

/-- The longest piece of a plain scalar without white space. A colon ends it only before white
space, and inside brackets also before a comma, a bracket or a brace; those and a question mark end
it there too. -/
def plainWord (flow : Bool) : Text → Text
  | [] => []
  | ch :: rest =>
    if isWhite ch then []
    else if ch = ':' && endsOr (fun next => isWhite next
        || (flow && ",[]\x7b\x7d".toList.contains next)) rest.head? then []
    else if flow && ",?[]\x7b\x7d".toList.contains ch then []
    else ch :: plainWord flow rest

/-- The breaks behind the first one between two pieces of a plain scalar, or none at all where a
document marker stands at the start of a line. -/
def plainBreaks (c : Cursor) : Nat → Option Text × Cursor
  | 0 => (some [], c)
  | fuel + 1 =>
    match c.peek? with
    | some ' ' => plainBreaks c.advance fuel
    | some ch =>
      if isBreak ch then
        let (text, c) := c.lineBreak
        if c.atDocumentMarker then (none, c)
        else
          let (breaks, c) := plainBreaks c fuel
          (breaks.map (text ++ ·), c)
      else (some [], c)
    | none => (some [], c)

/-- White space between two pieces of a plain scalar: what it stands for, whether it holds a line
break, and the cursor behind it. Nothing stands for it where the scalar must end. -/
def plainWhite (c : Cursor) : Text × Bool × Cursor :=
  let (spaces, c) := c.span (· = ' ')
  if goesOn isBreak c.peek? then
    let (lineBreak, c) := c.lineBreak
    if c.atDocumentMarker then ([], true, c)
    else
      match plainBreaks c (c.rest.length + 1) with
      | (none, c) => ([], true, c)
      | (some breaks, c) =>
        if lineBreak ≠ ['\n'] then (lineBreak ++ breaks, true, c)
        else if breaks.isEmpty then ([' '], true, c)
        else (breaks, true, c)
  else (spaces, false, c)

/-- The pieces of a plain scalar; `white` stands for the white space in front of the next one, which
is dropped when no piece follows. Also returned is whether the white space behind the last piece
holds a line break. A scalar ends at a comment, and outside brackets on a line that is not indented
by at least `indent` columns. -/
def plainPieces (flow : Bool) (indent : Int) (white : Text) (broken : Bool) (c : Cursor) :
    Nat → Text × Bool × Cursor
  | 0 => ([], broken, c)
  | fuel + 1 =>
    if c.peek? = some '#' then ([], broken, c)
    else
      let word := plainWord flow c.rest
      if word.isEmpty then ([], broken, c)
      else
        let (next, broken, c) := plainWhite (c.skip word.length)
        if next.isEmpty || c.peek? = some '#' || (!flow && (c.column : Int) < indent) then
          (white ++ word, broken, c)
        else
          let (others, broken, c) := plainPieces flow indent next broken c fuel
          (white ++ word ++ others, broken, c)

/-- A plain scalar inside a node that is indented by `parent` columns, or by −1 at the top, and
whether a line break follows it. -/
def plainScalar (flow : Bool) (parent : Int) (c : Cursor) : Token × Bool × Cursor :=
  let (content, broken, c) := plainPieces flow (parent + 1) [] false c (c.rest.length + 1)
  (.scalar content true, broken, c)

end DomBindings.Yaml
