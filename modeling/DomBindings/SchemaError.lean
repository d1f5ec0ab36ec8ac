import DomBindings.Value.Display

/-!
# Errors of vocabularies

What can be wrong with a vocabulary, by cause. Each cause has a code, under which it is reported,
and a wording. The wording of a cause that shows a value fails where the value cannot be written.
-/

namespace DomBindings

/-- The code under which an error of a vocabulary is reported. -/
inductive SchemaCode where
  /-- the document has not the form of a vocabulary -/
  | malformed
  /-- an attribute has a name that is kept for event handlers -/
  | reservedPrefix
  /-- a value has a type that is not known -/
  | unknownType
  /-- a value specification has none of the known forms -/
  | unrecognizedSpec
deriving DecidableEq, Repr

namespace SchemaCode

/-- The name of a code. -/
def name : SchemaCode → Text
  | .malformed => "MALFORMED_SCHEMA".toList
  | .reservedPrefix => "RESERVED_ATTRIBUTE_PREFIX".toList
  | .unknownType => "UNKNOWN_VALUE_TYPE".toList
  | .unrecognizedSpec => "UNRECOGNIZED_VALUE_SPEC".toList

/-- All codes. -/
def all : List SchemaCode :=
  [.malformed, .reservedPrefix, .unknownType, .unrecognizedSpec]

/-- The code with a name. -/
def ofName? (s : Text) : Option SchemaCode :=
  all.find? (·.name = s)

/-- The wording for a name that no code has. -/
def unknownMessage (s : Text) : Text :=
  "Unknown schema error code: ".toList ++ s

end SchemaCode

/-- What is wrong with a vocabulary. -/
inductive SchemaError where
  /-- something is no mapping where one is needed -/
  | notAMapping (place kind : Text)
  /-- a mapping has a key that is no text, or the empty one -/
  | badKey (place : Text) (key : Value)
  /-- a mapping lacks a key, or binds it to something other than a text that is not empty -/
  | missing (place key : Text)
  /-- two elements have one identifier -/
  | identifierClash (first second identifier : Text)
  /-- an attribute has a name that is kept for event handlers -/
  | reservedName (name : Text)
  /-- a value has a type that is not known -/
  | unknownKind (kind : Text)
  /-- a condition has no values -/
  | conditionWithoutValues (raw : Value)
  /-- a value specification has none of the known forms -/
  | undecipherable (raw : Value)
deriving Repr

namespace SchemaError

/-- The code under which an error is reported. -/
def code : SchemaError → SchemaCode
  | .notAMapping _ _ | .badKey _ _ | .missing _ _ | .identifierClash _ _ _ => .malformed
  | .reservedName _ => .reservedPrefix
  | .unknownKind _ => .unknownType
  | .conditionWithoutValues _ | .undecipherable _ => .unrecognizedSpec

/-- The wording of an error. -/
def message : SchemaError → Except NumeralError Text
  | .notAMapping place kind => .ok (place ++ " must be a mapping, got ".toList ++ kind)
  | .badKey place key => do
    return place ++ " has a non-string or empty key: ".toList ++ (← key.literal)
  | .missing place key => .ok (place ++ " is missing '".toList ++ key ++ ['\''])
  | .identifierClash first second identifier =>
    .ok ("Elements '".toList ++ first ++ "' and '".toList ++ second
      ++ "' both map to identifier '".toList ++ identifier ++ ['\''])
  | .reservedName name =>
    .ok ("Attribute names must not start with \"on\", ".toList ++ name
      ++ " breaks this assumption".toList)
  | .unknownKind kind => .ok ("Unknown value type: ".toList ++ kind)
  | .conditionWithoutValues raw => do
    return "Conditional value spec has no values: ".toList ++ (← raw.literal)
  | .undecipherable raw => do return "Undecipherable values: ".toList ++ (← raw.literal)

end SchemaError

/-- Why a loaded value cannot be read as a vocabulary or a part of one. -/
inductive ReadError where
  /-- it has not the form of one -/
  | schema (e : SchemaError)
  /-- a description in it is a number that cannot be written -/
  | numeral (e : NumeralError)
deriving Repr

end DomBindings
