import DomBindings.Number.Decimal
import DomBindings.Value.Basic

/-!
# The text of a value

Two forms of a value as text: `literal`, which a message uses so that the kind of the value can be
seen, and `display`, which a description uses and which differs for a text, a day and a moment
standing alone. Both fail only on an integer with too many digits.
-/

namespace DomBindings

namespace Value

/-- Several texts with a comma and a space between. -/
def listed (items : List Text) : Text :=
  List.intercalate ", ".toList items

mutual

/-- The form of a value in a message. -/
def literal : Value → Except NumeralError Text
  | .null => .ok "None".toList
  | .bool true => .ok "True".toList
  | .bool false => .ok "False".toList
  | .int n => Numeral.write n
  | .float x => .ok (Decimal.write x)
  | .text s => .ok (Text.literal s)
  | .date d => .ok d.literal
  | .moment m => .ok m.literal
  | .bytes bs => .ok (Text.bytesLiteral bs)
  | .list items => do
    let items ← literals items
    return '[' :: listed items ++ [']']
  | .pair key value => do
    let key ← literal key
    let value ← literal value
    return '(' :: listed [key, value] ++ [')']
  | .set [] => .ok "set()".toList
  | .set members => do
    let members ← literals members
    return '\x7b' :: listed members ++ ['\x7d']
  | .map entries => do
    let entries ← entryLiterals entries
    return '\x7b' :: listed entries ++ ['\x7d']

/-- The forms of several values. -/
def literals : List Value → Except NumeralError (List Text)
  | [] => .ok []
  | v :: rest => do
    let first ← literal v
    let others ← literals rest
    return first :: others

/-- The forms of the entries of a mapping. -/
def entryLiterals : List (Value × Value) → Except NumeralError (List Text)
  | [] => .ok []
  | (k, v) :: rest => do
    let key ← literal k
    let value ← literal v
    let others ← entryLiterals rest
    return (key ++ ": ".toList ++ value) :: others

end

/-- The form of a value in a description: a text, a day and a moment stand as they are. -/
def display : Value → Except NumeralError Text
  | .text s => .ok s
  | .date d => .ok d.text
  | .moment m => .ok m.text
  | v => literal v

end Value

end DomBindings
