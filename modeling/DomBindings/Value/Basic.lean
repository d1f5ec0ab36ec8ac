import DomBindings.Calendar
import DomBindings.Number.Binary64

/-!
# Loaded values

What a document loads to: scalars of the kinds that a plain word, a quoted text or a tag can name,
sequences, mappings in the order of their keys, and the pairs and sets that only tags make.

Values are compared as data by `Value.code`: numbers by their value, whatever kind they have, maps
and sets without regard to order, sequences with it. Two values are `Alike` when they have one
code, so being alike is an equivalence by construction. Each code delimits itself, by stating the
length of what follows, which is what lets the codes of parts be strung together.
-/

namespace DomBindings

/-- A value loaded from a document. The keys of a map are pairwise not alike, and so are the
members of a set. -/
inductive Value where
  /-- the absent value -/
  | null
  /-- a truth value -/
  | bool (b : Bool)
  /-- an integer -/
  | int (n : Int)
  /-- a floating-point number -/
  | float (x : Binary64)
  /-- a text -/
  | text (s : Text)
  /-- a day -/
  | date (d : Date)
  /-- a moment -/
  | moment (m : Moment)
  /-- raw bytes -/
  | bytes (bs : List UInt8)
  /-- a sequence -/
  | list (items : List Value)
  /-- a key beside its value, as a member of an ordered map or of a list of pairs -/
  | pair (key value : Value)
  /-- a set -/
  | set (members : List Value)
  /-- a mapping, in the order in which its keys first came -/
  | map (entries : List (Value × Value))
deriving Repr, Inhabited

namespace Value

/-- The kind of a value, as messages name it. -/
def kindName : Value → Text
  | .null => "NoneType".toList
  | .bool _ => "bool".toList
  | .int _ => "int".toList
  | .float _ => "float".toList
  | .text _ => "str".toList
  | .date _ => "date".toList
  | .moment _ => "datetime".toList
  | .bytes _ => "bytes".toList
  | .list _ => "list".toList
  | .pair _ _ => "tuple".toList
  | .set _ => "set".toList
  | .map _ => "dict".toList

/-- The code of an integer by itself: its sign and its magnitude. -/
def signedCode (n : Int) : List Nat :=
  [if n < 0 then 1 else 0, n.natAbs]

/-- The code of the dyadic number `± m · 2 ^ e` with an odd mantissa. A number that is an integer
is coded as the integer it is, so that the kinds of numbers do not show. -/
def dyadicCode (negative : Bool) (m : Nat) (e : Int) : List Nat :=
  if 0 ≤ e then 1 :: signedCode (Binary64.signedMantissa negative (m * Nat.pow 2 e.toNat))
  else 2 :: signedCode (Binary64.signedMantissa negative m) ++ [e.natAbs]

/-- The code of a number. -/
def numberCode : Binary64 → List Nat
  | .finite negative m e => dyadicCode negative m e
  | .infinite negative => [3, if negative then 1 else 0]
  | .nan identity => [4, identity]

/-- The code of a moment: whether its offset is known, and its instant. -/
def momentCode (m : Moment) : List Nat :=
  (if m.offset.isSome then 1 else 0) :: signedCode m.instant

/-- Puts a code at its place among codes in increasing order. -/
def insertCode (code : List Nat) : List (List Nat) → List (List Nat)
  | [] => [code]
  | other :: rest => if other < code then other :: insertCode code rest else code :: other :: rest

/-- The codes in increasing order. -/
def sortCodes (codes : List (List Nat)) : List (List Nat) :=
  codes.foldr insertCode []

mutual

/-- The code of a value: two values have one code exactly when they are the same as data. -/
def code : Value → List Nat
  | .null => [0]
  | .bool b => 1 :: signedCode (if b then 1 else 0)
  | .int n => 1 :: signedCode n
  | .float x => numberCode x
  | .text s => 5 :: s.length :: s.map Char.toNat
  | .date d => [6, d.year, d.month, d.day]
  | .moment m => 7 :: momentCode m
  | .bytes bs => 8 :: bs.length :: bs.map UInt8.toNat
  | .list items => 9 :: items.length :: (codes items).flatten
  | .pair key value => 10 :: code key ++ code value
  | .set members => 11 :: members.length :: (sortCodes (codes members)).flatten
  | .map entries => 12 :: entries.length :: (sortCodes (entryCodes entries)).flatten

/-- The codes of several values. -/
def codes : List Value → List (List Nat)
  | [] => []
  | v :: rest => code v :: codes rest

/-- The codes of the entries of a mapping, each of them the code of the key before the value's. -/
def entryCodes : List (Value × Value) → List (List Nat)
  | [] => []
  | (k, v) :: rest => (code k ++ code v) :: entryCodes rest

end

/-- Two values are alike when they are the same as data. -/
def Alike (a b : Value) : Prop :=
  a.code = b.code

instance (a b : Value) : Decidable (Alike a b) :=
  inferInstanceAs (Decidable (a.code = b.code))

/-- A value is alike to itself. -/
theorem Alike.refl (a : Value) : Alike a a :=
  rfl

/-- Likeness goes both ways. -/
theorem Alike.symm {a b : Value} (h : Alike a b) : Alike b a :=
  Eq.symm h

/-- Values alike to one value are alike. -/
theorem Alike.trans {a b c : Value} (h : Alike a b) (k : Alike b c) : Alike a c :=
  Eq.trans h k

/-- Binds a key to a value. A key that is already bound keeps its place and its own form, and takes
the new value; a new key comes last. -/
def bind (key value : Value) : List (Value × Value) → List (Value × Value)
  | [] => [(key, value)]
  | (k, v) :: rest => if Alike k key then (k, value) :: rest else (k, v) :: bind key value rest

/-- The mapping that binds the entries in turn. -/
def ofEntries (entries : List (Value × Value)) : Value :=
  .map (entries.foldl (fun bound (k, v) => bind k v bound) [])

/-- The set of the members, each in the form in which it first came. -/
def ofMembers (members : List Value) : Value :=
  .set <| members.foldl
    (fun kept v => if kept.any (decide <| Alike · v) then kept else kept ++ [v]) []

/-- The value bound to a text in the entries of a mapping. -/
def lookup? (key : Text) : List (Value × Value) → Option Value
  | [] => none
  | (.text k, v) :: rest => if k = key then some v else lookup? key rest
  | _ :: rest => lookup? key rest

end Value

end DomBindings
