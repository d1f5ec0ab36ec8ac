import DomBindings.Text.Digit

/-!
# Base 64

Bytes written with sixty-four characters, four for three bytes. Characters outside the alphabet are
passed over. Padding ends the text as soon as it completes a group of four, and a group must not be
left incomplete.
-/

namespace DomBindings.Text

/-- The six bits of a character of the alphabet. -/
def sixBits? (c : Char) : Option Nat :=
  if 'A' ≤ c && c ≤ 'Z' then some (c.toNat - 'A'.toNat)
  else if 'a' ≤ c && c ≤ 'z' then some (c.toNat - 'a'.toNat + 26)
  else if isAsciiDigit c then some (c.toNat - '0'.toNat + 52)
  else if c = '+' then some 62
  else if c = '/' then some 63
  else none

/-- Decodes from the given place in a group of four: `left` holds the bits that the last character
left over, and `pads` counts the padding since then. -/
def decodeGroup (place left pads : Nat) : Text → Option (List UInt8)
  | [] => if place = 0 then some [] else none
  | c :: rest =>
    if c = '=' then
      if place < 2 then decodeGroup place left pads rest
      else if 4 ≤ place + pads + 1 then some []
      else decodeGroup place left (pads + 1) rest
    else
      match sixBits? c with
      | none => decodeGroup place left pads rest
      | some bits =>
        match place with
        | 0 => decodeGroup 1 bits 0 rest
        | 1 => (UInt8.ofNat (left * 4 + bits / 16) :: ·) <$> decodeGroup 2 (bits % 16) 0 rest
        | 2 => (UInt8.ofNat (left * 16 + bits / 4) :: ·) <$> decodeGroup 3 (bits % 4) 0 rest
        | _ => (UInt8.ofNat (left * 64 + bits) :: ·) <$> decodeGroup 0 0 0 rest

/-- The bytes that a text writes. -/
def decodeBase64 (s : Text) : Option (List UInt8) :=
  decodeGroup 0 0 0 s

end DomBindings.Text
