import DomBindings.SchemaError

/-!
# Value specifications

Which values an attribute may take: a token, a pattern, a value of a type, one of several
specifications, or one under a condition. `ValueSpec.ofValue` reads a specification from a loaded
value of the same shape.

Specifications are compared by `ValueSpec.alike`: by their structure, and by `Value.Alike` where
they hold loaded values.
-/

namespace DomBindings

/-- The options of a typed value, as they were loaded; they take part in comparison only. -/
structure TypeOptions where
  /-- whether a number may be negative -/
  signed : Value
  /-- what separates the members of a list -/
  separator : Value
  /-- whether the order of a list counts -/
  ordered : Value
  /-- whether the members of a list differ -/
  unique : Value
deriving Repr

/-- Whether two sets of options are the same as data. -/
def TypeOptions.alike (a b : TypeOptions) : Bool :=
  decide (a.signed.Alike b.signed) && decide (a.separator.Alike b.separator)
    && decide (a.ordered.Alike b.ordered) && decide (a.unique.Alike b.unique)

/-- The options that state nothing. -/
def TypeOptions.none : TypeOptions :=
  ⟨.null, .null, .null, .null⟩

/-- A value specification. -/
inductive ValueSpec where
  /-- a token, or a pattern between slashes -/
  | literal (token : Text) (isPattern : Bool)
  /-- a value of a type, with the specification of the members of a list -/
  | typed (kind : Text) (options : TypeOptions) (memberValues : Option ValueSpec)
  /-- the values under a condition -/
  | conditional (condition : Text) (values : ValueSpec)
  /-- any of several -/
  | union (members : List ValueSpec)
  /-- a loaded value that stands where a specification belongs -/
  | unread (raw : Value)
deriving Repr

namespace ValueSpec

/-! ### Comparison -/

mutual

/-- Whether two specifications are the same as data. -/
def alike : ValueSpec → ValueSpec → Bool
  | .literal token isPattern, .literal token' isPattern' =>
    token == token' && isPattern == isPattern'
  | .typed kind options members, .typed kind' options' members' =>
    kind == kind' && options.alike options' && alikeOption members members'
  | .conditional condition values, .conditional condition' values' =>
    condition == condition' && alike values values'
  | .union members, .union members' => alikeAll members members'
  | .unread raw, .unread raw' => decide (raw.Alike raw')
  | _, _ => false

/-- Whether two specifications that may be absent are the same as data. -/
def alikeOption : Option ValueSpec → Option ValueSpec → Bool
  | some a, some b => alike a b
  | none, none => true
  | _, _ => false

/-- Whether two lists of specifications are the same as data. -/
def alikeAll : List ValueSpec → List ValueSpec → Bool
  | a :: as, b :: bs => alike a b && alikeAll as bs
  | [], [] => true
  | _, _ => false

end

/-! ### Reading -/

/-- A pattern begins and ends with a slash, and the two are not one. -/
def isPatternToken (token : Text) : Bool :=
  1 < token.length && token.head? = some '/' && token.getLast? = some '/'

/-- The display of a value in a specification. -/
def displayed (v : Value) : Except ReadError Text :=
  match v.display with
  | .ok s => .ok s
  | .error e => .error (.numeral e)

/-- The refusal of a value that has none of the forms. -/
def refuse {α : Type} (raw : Value) : Except ReadError α :=
  .error (.schema (.undecipherable raw))

/-- The option with a name; it is absent where it is not stated. -/
def option (name : String) (entries : List (Value × Value)) : Value :=
  (Value.lookup? name.toList entries).getD .null

/-- The options that a mapping states. -/
def optionsOf (entries : List (Value × Value)) : TypeOptions :=
  ⟨option "signed" entries, option "separator" entries, option "ordered" entries,
    option "unique" entries⟩

mutual

/-- Reads a specification. A text is a token or a pattern, a sequence the union of its members, a
mapping with the key `when` a condition, and any other mapping whose `type` is a text a typed
value. -/
def ofValue : Value → Except ReadError ValueSpec
  | .text token => .ok (.literal token (isPatternToken token))
  | .list items => do return .union (← ofValues items)
  | .map entries =>
    match Value.lookup? "when".toList entries with
    | some condition =>
      match ofField? "values".toList entries with
      | none => .error (.schema (.conditionWithoutValues (.map entries)))
      | some values => do
        let condition ← displayed condition
        return .conditional condition (← values)
    | none =>
      match Value.lookup? "type".toList entries with
      | some (.text kind) =>
        match Value.lookup? "member-values".toList entries with
        | none | some .null => .ok (.typed kind (optionsOf entries) none)
        | some _ =>
          match ofField? "member-values".toList entries with
          | none => .ok (.typed kind (optionsOf entries) none)
          | some members => do return .typed kind (optionsOf entries) (some (← members))
      | _ => refuse (.map entries)
  | raw => refuse raw

/-- Reads several specifications in turn. -/
def ofValues : List Value → Except ReadError (List ValueSpec)
  | [] => .ok []
  | v :: rest => do
    let first ← ofValue v
    let others ← ofValues rest
    return first :: others

/-- Reads the specification that a name is bound to. -/
def ofField? (name : Text) : List (Value × Value) → Option (Except ReadError ValueSpec)
  | [] => none
  | (k, v) :: rest =>
    match k with
    | .text key => if key = name then some (ofValue v) else ofField? name rest
    | _ => ofField? name rest

end

/-! ### Size -/

mutual

/-- The number of specifications in a tree, those of the members of lists left out. -/
def size : ValueSpec → Nat
  | .literal _ _ => 1
  | .typed _ _ _ => 1
  | .conditional _ values => values.size + 1
  | .union members => sizeAll members + 1
  | .unread _ => 1

/-- The number of specifications in several trees. -/
def sizeAll : List ValueSpec → Nat
  | [] => 0
  | s :: rest => s.size + sizeAll rest

end

end ValueSpec

end DomBindings
