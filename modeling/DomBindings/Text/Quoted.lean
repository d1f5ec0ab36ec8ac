import DomBindings.Text.Digit
import DomBindings.Text.Layout

/-!
# Quoted texts

The double-quoted form of a text, as string literals of the generated module and of JSON documents
write it, and its reader. The writer escapes the quote, the backslash and the control characters
below the space, and nothing else; the reader accepts every escape of JSON. What the writer writes
reads back, whatever follows it: `readBody_quoteBody`.
-/

namespace DomBindings.Text

/-- The form of one character between double quotes. -/
def quoteChar (c : Char) : Text :=
  if c = '"' then ['\\', '"']
  else if c = '\\' then ['\\', '\\']
  else if c = '\n' then ['\\', 'n']
  else if c = '\r' then ['\\', 'r']
  else if c = '\t' then ['\\', 't']
  else if c = '\x08' then ['\\', 'b']
  else if c = '\x0c' then ['\\', 'f']
  else if c.toNat < 0x20 then '\\' :: 'u' :: hexNumeral 4 c.toNat
  else [c]

/-- The text between the quotes of a quoted text. -/
def quoteBody (s : Text) : Text :=
  s.flatMap quoteChar

/-- A text in double quotes. -/
def quote (s : Text) : Text :=
  '"' :: quoteBody s ++ ['"']

/-- The number written by four hexadecimal digits. -/
def fourHexDigits? (a b c d : Char) : Option Nat := do
  let a ← asciiDigitValue? a
  let b ← asciiDigitValue? b
  let c ← asciiDigitValue? c
  let d ← asciiDigitValue? d
  return ((a * 16 + b) * 16 + c) * 16 + d

/-- The character that a one-letter escape stands for. -/
def simpleEscape? : Char → Option Char
  | '"' => some '"'
  | '\\' => some '\\'
  | '/' => some '/'
  | 'b' => some '\x08'
  | 'f' => some '\x0c'
  | 'n' => some '\n'
  | 'r' => some '\r'
  | 't' => some '\t'
  | _ => none

/-- Whether a code unit is a half of a surrogate pair. -/
def isHalf (unit : Nat) : Bool :=
  0xD800 ≤ unit && unit ≤ 0xDFFF

/-- The character of a code unit that is no half of a surrogate pair. An unpaired half is no
character. It reads as the replacement character, which is enough to look for a text that has none
in it. -/
def unitChar (unit : Nat) : Char :=
  if isHalf unit then Char.ofNat 0xFFFD else Char.ofNat unit

/-- The character of a surrogate pair, when the code unit is a first half and the four digits
write a second one. -/
def pairChar? (unit : Nat) (e f g h : Char) : Option Char :=
  if 0xD800 ≤ unit && unit ≤ 0xDBFF then
    match fourHexDigits? e f g h with
    | some low =>
      if 0xDC00 ≤ low && low ≤ 0xDFFF then
        some (Char.ofNat (0x10000 + (unit - 0xD800) * 0x400 + (low - 0xDC00)))
      else none
    | none => none
  else none

/-- Reads up to the closing quote, which it consumes, and returns the text and what follows. -/
def readBody : Text → Option (Text × Text)
  | [] => none
  | '"' :: rest => some ([], rest)
  | '\\' :: 'u' :: a :: b :: c :: d :: rest =>
    match fourHexDigits? a b c d with
    | none => none
    | some unit =>
      let alone := (readBody rest).map fun (s, after) => (unitChar unit :: s, after)
      match rest with
      | '\\' :: 'u' :: e :: f :: g :: h :: beyond =>
        match pairChar? unit e f g h with
        | some c => (readBody beyond).map fun (s, after) => (c :: s, after)
        | none => alone
      | _ => alone
  | '\\' :: e :: rest =>
    match simpleEscape? e with
    | none => none
    | some c => (readBody rest).map fun (s, after) => (c :: s, after)
  | c :: rest =>
    if c.toNat < 0x20 || c = '\\' then none
    else (readBody rest).map fun (s, after) => (c :: s, after)

/-- Reads a quoted text from the front. -/
def readQuoted? : Text → Option (Text × Text)
  | '"' :: rest => readBody rest
  | _ => none

/-- A control character's numeric escape reads back as that character. -/
theorem fourHexDigits?_hexNumeral {n : Nat} (h : n < 0x20) :
    ∃ a b c d, hexNumeral 4 n = [a, b, c, d] ∧ fourHexDigits? a b c d = some n := by
  have all : ∀ n < 0x20, ∃ y z, hexNumeral 4 n = ['0', '0', y, z] ∧
      fourHexDigits? '0' '0' y z = some n := by
    intro n hn
    have : ∀ k : Fin 0x20, hexNumeral 4 k.val = ['0', '0', Nat.digitChar (k.val / 16),
        Nat.digitChar (k.val % 16)] ∧ fourHexDigits? '0' '0' (Nat.digitChar (k.val / 16))
        (Nat.digitChar (k.val % 16)) = some k.val := by decide
    exact ⟨_, _, this ⟨n, hn⟩⟩
  obtain ⟨y, z, hy⟩ := all n h
  exact ⟨_, _, _, _, hy⟩

/-- A code unit outside the surrogates never joins a pair. -/
theorem pairChar?_of_lt {unit : Nat} (h : unit < 0xD800) (e f g i : Char) :
    pairChar? unit e f g i = none := by
  have : ¬ 0xD800 ≤ unit := by omega
  simp [pairChar?, this]

/-- One written character reads back, and reading goes on behind it. -/
theorem readBody_quoteChar (c : Char) (rest : Text) :
    readBody (quoteChar c ++ rest) = (readBody rest).map fun (s, after) => (c :: s, after) := by
  unfold quoteChar
  split
  · next h => subst h; simp [readBody, simpleEscape?]
  split
  · next h => subst h; simp [readBody, simpleEscape?]
  split
  · next h => subst h; simp [readBody, simpleEscape?]
  split
  · next h => subst h; simp [readBody, simpleEscape?]
  split
  · next h => subst h; simp [readBody, simpleEscape?]
  split
  · next h => subst h; simp [readBody, simpleEscape?]
  split
  · next h => subst h; simp [readBody, simpleEscape?]
  split
  · next h =>
    obtain ⟨x, y, z, w, hx, hv⟩ := fourHexDigits?_hexNumeral h
    have hu : unitChar c.toNat = c := by
      have : ¬ 0xD800 ≤ c.toNat := by omega
      simp [unitChar, isHalf, this]
    have hp := pairChar?_of_lt (show c.toNat < 0xD800 by omega)
    rw [hx]
    simp only [List.cons_append, List.nil_append, readBody, hv]
    split
    · simp [hp, hu]
    · simp [hu]
  · next hq hb _ _ _ _ _ hc =>
    rw [List.singleton_append]
    conv => lhs; unfold readBody
    split
    · simp_all
    · simp_all
    · simp_all
    · simp_all
    · next h =>
      simp only [List.cons.injEq] at h
      obtain ⟨rfl, rfl⟩ := h
      simp [hb, hc]

/-- What is written between quotes reads back, whatever follows the closing quote. -/
theorem readBody_quoteBody (s rest : Text) :
    readBody (quoteBody s ++ '"' :: rest) = some (s, rest) := by
  induction s with
  | nil => simp [quoteBody, readBody]
  | cons c s ih =>
    have : quoteBody (c :: s) = quoteChar c ++ quoteBody s := by simp [quoteBody]
    rw [this, List.append_assoc, readBody_quoteChar, ih]
    rfl

/-- A written text reads back. -/
theorem readQuoted?_quote (s rest : Text) : readQuoted? (quote s ++ rest) = some (s, rest) := by
  simpa [quote, readQuoted?] using readBody_quoteBody s rest

end DomBindings.Text
