import DomBindings.Yaml.Lexeme

/-!
# The tokens of a document

A document is divided into tokens from left to right. What makes this more than a list of lexemes
is the simple key: a node on one line may turn out to be a key only when a colon follows it, and
then the tokens that say so belong in front of it. So the last tokens wait as long as the first of
them may still become a key, and are delivered when that is decided. A fault that is met while
tokens wait comes before them; `tokens` therefore returns the tokens that are delivered and, behind
them, the fault that ended the delivery.
-/

namespace DomBindings.Yaml

/-- A place where a simple key may have begun. -/
structure KeyCandidate where
  /-- the number of brackets around the place -/
  depth : Nat
  /-- the number of tokens before the place -/
  tokenNumber : Nat
  /-- whether the node must turn out to be a key -/
  required : Bool
  /-- the place in the text -/
  index : Nat
  /-- its line -/
  line : Nat
  /-- its column -/
  column : Nat
deriving Repr

/-- The state between two tokens. -/
structure TokenState where
  /-- the text that is left -/
  cursor : Cursor
  /-- the number of open brackets and braces -/
  depth : Nat
  /-- the column of the innermost block collection, −1 outside all of them -/
  indent : Int
  /-- the columns of the collections around it, innermost first -/
  outer : List Int
  /-- whether a simple key may begin here -/
  keyAllowed : Bool
  /-- the places where a simple key may have begun, at most one for each depth -/
  candidates : List KeyCandidate
  /-- the number of tokens delivered -/
  delivered : Nat
  /-- the tokens that wait -/
  waiting : List Token
  /-- whether the end of the text has been met -/
  finished : Bool
deriving Repr

namespace TokenState

/-- The state at the start of a text. -/
def start (s : Text) : TokenState :=
  ⟨.ofText s, 0, -1, [], true, [], 0, [], false⟩

/-- Lets a token wait. -/
def emit (s : TokenState) (t : Token) : TokenState :=
  { s with waiting := s.waiting ++ [t] }

/-! ### Indentation -/

/-- Closes the collections that lie deeper than a column: how many there are, and the columns that
stay open. -/
def closeDeeper (column indent : Int) : List Int → Nat × Int × List Int
  | [] => (0, indent, [])
  | next :: rest =>
    if column < indent then
      let (count, left) := closeDeeper column next rest
      (count + 1, left)
    else (0, indent, next :: rest)

/-- Ends the block collections that lie deeper than a column; between brackets columns mean
nothing. -/
def unwind (s : TokenState) (column : Int) : TokenState :=
  if s.depth ≠ 0 then s
  else
    let (count, indent, outer) := closeDeeper column s.indent s.outer
    { s with
      indent := indent
      outer := outer
      waiting := s.waiting ++ List.replicate count .blockEnd }

/-- Whether a collection at this column is a new one, deeper than the innermost. -/
def isDeeper (s : TokenState) (column : Nat) : Bool :=
  s.indent < column

/-- Opens a block collection at a column. -/
def openAt (s : TokenState) (column : Nat) : TokenState :=
  { s with indent := column, outer := s.indent :: s.outer }

/-! ### Simple keys -/

/-- Gives up the candidates that can no longer be keys, because their line has ended or 1024
characters have passed. -/
def dropStale (s : TokenState) : Except Fault TokenState :=
  let isStale (k : KeyCandidate) : Bool :=
    k.line ≠ s.cursor.line || k.index + 1024 < s.cursor.index
  if s.candidates.any fun k => isStale k && k.required then scanFault
  else .ok { s with candidates := s.candidates.filter (!isStale ·) }

/-- Gives up the candidate of this depth. -/
def dropCandidate (s : TokenState) : Except Fault TokenState :=
  if s.candidates.any fun k => k.depth = s.depth && k.required then scanFault
  else .ok { s with candidates := s.candidates.filter (·.depth ≠ s.depth) }

/-- Notes that a simple key may begin here. It must be one where a block collection stands at this
column. -/
def noteCandidate (s : TokenState) : Except Fault TokenState :=
  if s.keyAllowed then do
    let c := s.cursor
    let required := s.depth = 0 && s.indent = c.column
    let s ← s.dropCandidate
    return { s with
      candidates :=
        ⟨s.depth, s.delivered + s.waiting.length, required, c.index, c.line, c.column⟩
          :: s.candidates }
  else .ok s

/-! ### White space -/

/-- Passes spaces, comments and line breaks, and returns whether a simple key may begin behind
them: outside brackets a line break allows it. -/
def passWhite (c : Cursor) (flow allowed : Bool) : Nat → Cursor × Bool
  | 0 => (c, allowed)
  | fuel + 1 =>
    let c := (c.dropWhile (· = ' ')).skipComment
    if goesOn isBreak c.peek? then passWhite c.lineBreak.2 flow (allowed || !flow) fuel
    else (c, allowed)

/-- Moves to the next token. A byte-order mark is passed at the start of the text. -/
def toNextToken (s : TokenState) : TokenState :=
  let c := s.cursor
  let c := if c.index = 0 && c.peek? = some '\uFEFF' then c.advance else c
  let (c, allowed) := passWhite c (s.depth ≠ 0) s.keyAllowed (c.rest.length + 1)
  { s with cursor := c, keyAllowed := allowed }

/-! ### Tokens -/

/-- The end of the text. -/
def fetchEnd (s : TokenState) : Except Fault TokenState := do
  let s ← (s.unwind (-1)).dropCandidate
  return { s.emit .streamEnd with keyAllowed := false, candidates := [], finished := true }

/-- A directive line. -/
def fetchDirective (s : TokenState) : Except Fault TokenState := do
  let s ← (s.unwind (-1)).dropCandidate
  let (token, c) ← directive s.cursor
  return { s.emit token with cursor := c, keyAllowed := false }

/-- A marker between documents. -/
def fetchMarker (s : TokenState) (token : Token) : Except Fault TokenState := do
  let s ← (s.unwind (-1)).dropCandidate
  return { s.emit token with cursor := s.cursor.skip 3, keyAllowed := false }

/-- An opening bracket or brace. -/
def fetchOpening (s : TokenState) (token : Token) : Except Fault TokenState := do
  let s ← s.noteCandidate
  return { s.emit token with cursor := s.cursor.advance, depth := s.depth + 1, keyAllowed := true }

/-- A closing bracket or brace. -/
def fetchClosing (s : TokenState) (token : Token) : Except Fault TokenState := do
  let s ← s.dropCandidate
  return { s.emit token with cursor := s.cursor.advance, depth := s.depth - 1, keyAllowed := false }

/-- A comma between brackets. -/
def fetchComma (s : TokenState) : Except Fault TokenState := do
  let s ← { s with keyAllowed := true }.dropCandidate
  return { s.emit .flowEntry with cursor := s.cursor.advance }

/-- Outside brackets, opens a collection at this column if it is a new one; such an indicator may
stand only where a simple key may begin. -/
def openHere (s : TokenState) (token : Token) : Except Fault TokenState :=
  if s.depth ≠ 0 then .ok s
  else if !s.keyAllowed then scanFault
  else if s.isDeeper s.cursor.column then .ok ((s.openAt s.cursor.column).emit token)
  else .ok s

/-- The hyphen of an entry. -/
def fetchEntry (s : TokenState) : Except Fault TokenState := do
  let s ← s.openHere .blockSequenceStart
  let s ← { s with keyAllowed := true }.dropCandidate
  return { s.emit .blockEntry with cursor := s.cursor.advance }

/-- The question mark of a key. -/
def fetchKey (s : TokenState) : Except Fault TokenState := do
  let s ← s.openHere .blockMappingStart
  let s ← { s with keyAllowed := s.depth = 0 }.dropCandidate
  return { s.emit .key with cursor := s.cursor.advance }

/-- Says in front of a candidate that it is a key, and outside brackets that a mapping begins there
if its column is deeper than the innermost collection. -/
def confirm (s : TokenState) (k : KeyCandidate) : TokenState :=
  let place := k.tokenNumber - s.delivered
  let opens := s.depth = 0 && s.isDeeper k.column
  let marks := if opens then [.blockMappingStart, .key] else [Token.key]
  let s := if opens then s.openAt k.column else s
  { s with
    waiting := s.waiting.take place ++ marks ++ s.waiting.drop place
    candidates := s.candidates.filter (·.depth ≠ s.depth)
    keyAllowed := false }

/-- The colon of a value. It makes a key of the candidate of this depth, if there is one. -/
def fetchValue (s : TokenState) : Except Fault TokenState := do
  let s ←
    match s.candidates.find? (·.depth = s.depth) with
    | some k => .ok (s.confirm k)
    | none => do
      let s ← s.openHere .blockMappingStart
      { s with keyAllowed := s.depth = 0 }.dropCandidate
  return { s.emit .value with cursor := s.cursor.advance }

/-- A token with an inside that may begin a simple key. -/
def fetchLexeme (s : TokenState) (read : Cursor → Except Fault (Token × Cursor)) :
    Except Fault TokenState := do
  let s ← s.noteCandidate
  let (token, c) ← read s.cursor
  return { s.emit token with cursor := c, keyAllowed := false }

/-- The use of a name. -/
def readAlias (c : Cursor) : Except Fault (Token × Cursor) := do
  let (word, c) ← anchorName c
  return (.alias word, c)

/-- The naming of a node. -/
def readAnchor (c : Cursor) : Except Fault (Token × Cursor) := do
  let (word, c) ← anchorName c
  return (.anchor word, c)

/-- A block scalar. -/
def fetchBlockScalar (s : TokenState) (folded : Bool) : Except Fault TokenState := do
  let s ← { s with keyAllowed := true }.dropCandidate
  let (token, c) ← blockScalar s.indent folded s.cursor
  return { s.emit token with cursor := c }

/-- A plain scalar. -/
def fetchPlain (s : TokenState) : Except Fault TokenState := do
  let s ← s.noteCandidate
  let (token, broken, c) := plainScalar (s.depth ≠ 0) s.indent s.cursor
  return { s.emit token with cursor := c, keyAllowed := broken }

/-- Whether a plain scalar may begin with a character, given the one behind it. -/
def startsPlain (flow : Bool) (ch : Char) (next : Option Char) : Bool :=
  !(isWhite ch || "-?:,[]\x7b\x7d#&*!|>'\"%@`".toList.contains ch)
    || (!endsOr isWhite next && (ch = '-' || (!flow && (ch = '?' || ch = ':'))))

/-- Reads the token that begins here. -/
def fetch (s : TokenState) : Except Fault TokenState := do
  let s ← s.toNextToken.dropStale
  let s := s.unwind s.cursor.column
  let c := s.cursor
  let next := c.ahead? 1
  let flow := s.depth ≠ 0
  match c.peek? with
  | none => s.fetchEnd
  | some ch =>
    if ch = '%' && c.column = 0 then s.fetchDirective
    else if c.column = 0 && c.atMarker '-' then s.fetchMarker .documentStart
    else if c.column = 0 && c.atMarker '.' then s.fetchMarker .documentEnd
    else if ch = '[' then s.fetchOpening .flowSequenceStart
    else if ch = '\x7b' then s.fetchOpening .flowMappingStart
    else if ch = ']' then s.fetchClosing .flowSequenceEnd
    else if ch = '\x7d' then s.fetchClosing .flowMappingEnd
    else if ch = ',' then s.fetchComma
    else if ch = '-' && endsOr isWhite next then s.fetchEntry
    else if ch = '?' && (flow || endsOr isWhite next) then s.fetchKey
    else if ch = ':' && (flow || endsOr isWhite next) then s.fetchValue
    else if ch = '*' then s.fetchLexeme readAlias
    else if ch = '&' then s.fetchLexeme readAnchor
    else if ch = '!' then s.fetchLexeme tag
    else if ch = '|' && !flow then s.fetchBlockScalar false
    else if ch = '>' && !flow then s.fetchBlockScalar true
    else if ch = '\'' then s.fetchLexeme (quotedScalar false)
    else if ch = '"' then s.fetchLexeme (quotedScalar true)
    else if startsPlain flow ch next then s.fetchPlain
    else scanFault

/-! ### Delivery -/

/-- How many of the waiting tokens lie before every candidate. -/
def ready (s : TokenState) : Nat :=
  s.candidates.foldl (fun n k => min n (k.tokenNumber - s.delivered)) s.waiting.length

/-- Reads tokens to the end of the text or to a fault, and delivers them as soon as none of them
can become a key. -/
def deliver (s : TokenState) : Nat → List Token × Option Fault
  | 0 => ([], none)
  | fuel + 1 =>
    match s.fetch >>= dropStale with
    | .error e => ([], some e)
    | .ok s =>
      let n := s.ready
      if s.finished then (s.waiting, none)
      else
        let (others, fault) :=
          deliver { s with
            waiting := s.waiting.drop n
            delivered := s.delivered + n } fuel
        (s.waiting.take n ++ others, fault)

end TokenState

/-- The tokens of a text that are delivered, and the fault behind them, if there is one. -/
def tokens (s : Text) : List Token × Option Fault :=
  (TokenState.start s).deliver (s.length + 1)

end DomBindings.Yaml
