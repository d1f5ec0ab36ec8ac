import DomBindings.Text.Layout

/-!
# UTF-8

Texts as bytes. Decoding is strict: overlong forms, surrogates and code points beyond the last one
are refused, and the error names the longest run of bytes that could still have begun a character.
`foldNewlines` is the line-end convention of text files.
-/

namespace DomBindings.Text

/-- Why bytes are not UTF-8. -/
inductive Utf8Reason where
  /-- the byte begins no character -/
  | invalidStart
  /-- the byte after those named does not continue the character -/
  | invalidContinuation
  /-- the bytes end inside a character -/
  | unexpectedEnd
deriving DecidableEq, Repr

/-- A decoding error: where the refused bytes begin, which they are, and why. -/
structure Utf8Error where
  /-- the position of the first refused byte -/
  position : Nat
  /-- the first refused byte -/
  first : UInt8
  /-- how many bytes are refused -/
  count : Nat
  /-- why they are refused -/
  reason : Utf8Reason
deriving DecidableEq, Repr

/-- The wording of the reason. -/
def Utf8Reason.message : Utf8Reason → Text
  | .invalidStart => "invalid start byte".toList
  | .invalidContinuation => "invalid continuation byte".toList
  | .unexpectedEnd => "unexpected end of data".toList

/-- The wording of a decoding error. -/
def Utf8Error.message (e : Utf8Error) : Text :=
  "'utf-8' codec can't decode ".toList
    ++ (if e.count = 1 then
          "byte 0x".toList ++ hexNumeral 2 e.first.toNat ++ " in position ".toList
            ++ numeral e.position
        else
          "bytes in position ".toList ++ numeral e.position ++ ['-']
            ++ numeral (e.position + e.count - 1))
    ++ ": ".toList ++ e.reason.message

/-- A byte that may stand third or fourth in a character. -/
def isTail (b : UInt8) : Bool :=
  0x80 ≤ b && b ≤ 0xBF

/-- A byte that may stand second after the given first one. -/
def isSecond (a b : UInt8) : Bool :=
  if a = 0xE0 then 0xA0 ≤ b && b ≤ 0xBF
  else if a = 0xED then 0x80 ≤ b && b ≤ 0x9F
  else if a = 0xF0 then 0x90 ≤ b && b ≤ 0xBF
  else if a = 0xF4 then 0x80 ≤ b && b ≤ 0x8F
  else isTail b

/-- The payload of a byte after the first. -/
def tailBits (b : UInt8) : Nat :=
  b.toNat % 0x40

/-- Decodes bytes of which the first stands at the given position. -/
def decodeFrom (position : Nat) : List UInt8 → Except Utf8Error Text
  | [] => .ok []
  | a :: rest =>
    let refuse (count : Nat) (reason : Utf8Reason) : Except Utf8Error Text :=
      .error ⟨position, a, count, reason⟩
    if a < 0x80 then
      (Char.ofNat a.toNat :: ·) <$> decodeFrom (position + 1) rest
    else if a < 0xC2 || 0xF4 < a then refuse 1 .invalidStart
    else if a < 0xE0 then
      match rest with
      | [] => refuse 1 .unexpectedEnd
      | b :: rest =>
        if !isSecond a b then refuse 1 .invalidContinuation
        else
          (Char.ofNat (a.toNat % 0x20 * 0x40 + tailBits b) :: ·)
            <$> decodeFrom (position + 2) rest
    else if a < 0xF0 then
      match rest with
      | [] => refuse 1 .unexpectedEnd
      | [b] =>
        if isSecond a b then refuse 2 .unexpectedEnd else refuse 1 .invalidContinuation
      | b :: c :: rest =>
        if !isSecond a b then refuse 1 .invalidContinuation
        else if !isTail c then refuse 2 .invalidContinuation
        else
          (Char.ofNat ((a.toNat % 0x10 * 0x40 + tailBits b) * 0x40 + tailBits c) :: ·)
            <$> decodeFrom (position + 3) rest
    else
      match rest with
      | [] => refuse 1 .unexpectedEnd
      | [b] =>
        if isSecond a b then refuse 2 .unexpectedEnd else refuse 1 .invalidContinuation
      | [b, c] =>
        if !isSecond a b then refuse 1 .invalidContinuation
        else if !isTail c then refuse 2 .invalidContinuation
        else refuse 3 .unexpectedEnd
      | b :: c :: d :: rest =>
        if !isSecond a b then refuse 1 .invalidContinuation
        else if !isTail c then refuse 2 .invalidContinuation
        else if !isTail d then refuse 3 .invalidContinuation
        else
          (Char.ofNat
              (((a.toNat % 0x8 * 0x40 + tailBits b) * 0x40 + tailBits c) * 0x40 + tailBits d) :: ·)
            <$> decodeFrom (position + 4) rest

/-- The text that bytes encode. -/
def decode (bytes : List UInt8) : Except Utf8Error Text :=
  decodeFrom 0 bytes

/-- The bytes of a text. -/
def encode (s : Text) : List UInt8 :=
  s.flatMap String.utf8EncodeChar

/-- Every line end of the three conventions becomes a line feed. -/
def foldNewlines : Text → Text
  | [] => []
  | '\r' :: '\n' :: rest => '\n' :: foldNewlines rest
  | '\r' :: rest => '\n' :: foldNewlines rest
  | c :: rest => c :: foldNewlines rest

/-- The text of a text file: decoded, with its line ends folded. -/
def ofFileBytes (bytes : List UInt8) : Except Utf8Error Text :=
  foldNewlines <$> decode bytes

end DomBindings.Text
