import DomBindings.Text.Quoted
import DomBindings.ValueSpec.Basic

/-!
# Type expressions

What is left of a value specification in a typed declaration: which primitive types and which
tokens it admits, and whether it admits other texts besides. A specification is reduced to a type
expression by walking it breadth first and noting what each leaf adds; conditions leave no trace,
and neither do the members of lists.

A type expression is written as its members with bars between: the primitives, the tokens as string
literals, and the mark of an open type, which a reader of the module needs so that the tokens are
still proposed where any text is admitted. An open type without other members is the type of all
texts, and one without any members admits nothing.
-/

namespace DomBindings

/-- A primitive type. -/
inductive Primitive where
  /-- the truth values -/
  | boolean
  /-- the numbers -/
  | number
deriving DecidableEq, Repr

/-- The name of a primitive type. -/
def Primitive.name : Primitive → Text
  | .boolean => "boolean".toList
  | .number => "number".toList

/-- A type expression. -/
structure TypeExpr where
  /-- the primitive types, without repetition -/
  primitives : List Primitive
  /-- the tokens, without repetition -/
  tokens : List Text
  /-- whether any text is admitted -/
  isOpen : Bool
deriving DecidableEq, Repr

namespace TypeExpr

/-- The type expression that admits nothing. -/
def never : TypeExpr :=
  ⟨[], [], false⟩

/-- Adds a thing to a list that does not hold it yet. -/
def addOnce {α : Type} [DecidableEq α] (x : α) (xs : List α) : List α :=
  if x ∈ xs then xs else xs ++ [x]

/-- Admits the values of a primitive type. -/
def addPrimitive (t : TypeExpr) (p : Primitive) : TypeExpr :=
  { t with primitives := addOnce p t.primitives }

/-- Admits a token. -/
def addToken (t : TypeExpr) (token : Text) : TypeExpr :=
  { t with tokens := addOnce token t.tokens }

/-- Admits any text. -/
def opened (t : TypeExpr) : TypeExpr :=
  { t with isOpen := true }

/-! ### The written form -/

/-- What stands between two members. -/
def separator : Text :=
  " | ".toList

/-- The mark of an open type beside other members. -/
def openMark : Text :=
  "(\x7b\x7d & string)".toList

/-- The type of all texts. -/
def anyText : Text :=
  "string".toList

/-- The type without values. -/
def noValue : Text :=
  "never".toList

/-- The members that are written for the primitives and the tokens. -/
def closedMembers (t : TypeExpr) : List Text :=
  t.primitives.map Primitive.name ++ t.tokens.map Text.quote

/-- The members that are written. -/
def members (t : TypeExpr) : List Text :=
  match t.closedMembers, t.isOpen with
  | [], true => [anyText]
  | [], false => [noValue]
  | closed, true => closed ++ [openMark]
  | closed, false => closed

/-- The written form of a type expression. -/
def render (t : TypeExpr) : Text :=
  List.intercalate separator t.members

end TypeExpr

/-! ### Reduction -/

/-- What a type of values adds to a type expression. -/
inductive KindMeaning where
  /-- the values of a primitive type -/
  | primitive (p : Primitive)
  /-- any text -/
  | anyText
deriving DecidableEq, Repr

/-- The meaning of the name of a type. -/
def kindMeaning? (kind : Text) : Option KindMeaning :=
  if kind = "boolean".toList then some (.primitive .boolean)
  else if kind = "integer".toList || kind = "real".toList then some (.primitive .number)
  else if kind = "string".toList || kind = "list".toList then some .anyText
  else none

namespace ValueSpec

/-- Notes what the specifications in a queue add to a type expression. A union and a condition put
what they hold at the end of the queue. The number bounds the steps, of which there is one for each
specification in the queue and below it. -/
def reduceQueue : Nat → List ValueSpec → TypeExpr → Except SchemaError TypeExpr
  | 0, _, t => .ok t
  | _ + 1, [], t => .ok t
  | steps + 1, spec :: queue, t =>
    match spec with
    | .literal token isPattern =>
      reduceQueue steps queue (if isPattern then t.opened else t.addToken token)
    | .union members => reduceQueue steps (queue ++ members) t
    | .conditional _ values => reduceQueue steps (queue ++ [values]) t
    | .typed kind _ _ =>
      match kindMeaning? kind with
      | some (.primitive p) => reduceQueue steps queue (t.addPrimitive p)
      | some .anyText => reduceQueue steps queue t.opened
      | none => .error (.unknownKind kind)
    | .unread raw => .error (.undecipherable raw)

/-- The type expression of a specification. -/
def typeExpr (spec : ValueSpec) : Except SchemaError TypeExpr :=
  reduceQueue spec.size [spec] .never

/-- The written type of a specification. -/
def typeText (spec : ValueSpec) : Except SchemaError Text :=
  TypeExpr.render <$> spec.typeExpr

end ValueSpec

end DomBindings
