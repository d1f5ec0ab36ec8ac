import DomBindings.Vocabulary.Basic

/-!
# Reading vocabularies

A vocabulary is read from a loaded mapping. Tables may be left out or absent, and then they are
empty; names are texts that are not empty; descriptions and references may be anything, and are
taken as they are displayed, without white space around. What is wrong is reported at the first
place in the order of reading: the tables of a level before its texts, and both before what the
tables hold.
-/

namespace DomBindings

/-- The refusal of a value that has not the form of a part of a vocabulary. -/
def schemaFault {α : Type} (e : SchemaError) : Except ReadError α :=
  .error (.schema e)

/-- The entries of a mapping by their names, all of which must be texts that are not empty. -/
def namedEntries (place : Text) : List (Value × Value) → Except ReadError (List (Text × Value))
  | [] => .ok []
  | (k, v) :: rest =>
    match k with
    | .text (c :: cs) => do
      let others ← namedEntries place rest
      return (c :: cs, v) :: others
    | _ => schemaFault (.badKey place k)

/-- Reads a mapping; an absent value is one without entries. -/
def readMapping (place : Text) (raw : Value) : Except ReadError (Table Value) :=
  match raw with
  | .null => .ok .empty
  | .map entries => do return Table.ofList (← namedEntries place entries)
  | raw => schemaFault (.notAMapping place raw.kindName)

/-- Reads the mapping that a name is bound to. -/
def readSubMapping (place : Text) (t : Table Value) (name : String) :
    Except ReadError (Table Value) :=
  readMapping place ((t.get? name.toList).getD .null)

/-- Reads the text that a name must be bound to. -/
def readRequiredText (place : Text) (t : Table Value) (name : String) : Except ReadError Text :=
  match t.get? name.toList with
  | some (.text (c :: cs)) => .ok (c :: cs)
  | _ => schemaFault (.missing place name.toList)

/-- Reads the text that a name may be bound to, from whatever value it is. -/
def readOptionalText (t : Table Value) (name : String) : Except ReadError Text :=
  match t.get? name.toList with
  | none | some .null => .ok []
  | some v =>
    match v.display with
    | .ok s => .ok (Text.trim s)
    | .error e => .error (.numeral e)

/-- Reads an attribute; its values must be stated. -/
def Attribute.ofValue (place : Text) (raw : Value) : Except ReadError Attribute := do
  let details ← readMapping place raw
  match details.get? "values".toList with
  | none => schemaFault (.missing place "values".toList)
  | some values =>
    let description ← readOptionalText details "description"
    let ref ← readOptionalText details "ref"
    return ⟨description, ref, ← ValueSpec.ofValue values⟩

/-- Reads an event; its interface must be stated. -/
def Event.ofValue (place : Text) (raw : Value) : Except ReadError Event := do
  let details ← readMapping place raw
  let description ← readOptionalText details "description"
  let ref ← readOptionalText details "ref"
  return ⟨description, ref, ← readRequiredText place details "interface"⟩

/-- A name in single quotes behind a word. -/
def place (word : String) (name : Text) : Text :=
  word.toList ++ " '".toList ++ name ++ ['\'']

/-- Reads an element; its interface must be stated. -/
def Element.ofValue (name : Text) (raw : Value) : Except ReadError Element := do
  let here := place "element" name
  let details ← readMapping here raw
  let attributes ← readSubMapping (here ++ " attributes".toList) details "attributes"
  let events ← readSubMapping (here ++ " events".toList) details "events"
  let description ← readOptionalText details "description"
  let ref ← readOptionalText details "ref"
  let host ← readRequiredText here details "interface"
  let attributes ←
    attributes.traverse fun attr v => Attribute.ofValue (here ++ place " attribute" attr) v
  let events ← events.traverse fun event v => Event.ofValue (here ++ place " event" event) v
  return ⟨description, ref, host, attributes, events⟩

/-- Reads a vocabulary; its namespace must be stated. -/
def Vocabulary.ofValue (raw : Value) : Except ReadError Vocabulary := do
  let here := "vocabulary document".toList
  let document ← readMapping here raw
  let version ← readSubMapping "version".toList document "version"
  let elements ← readSubMapping "elements".toList document "elements"
  let namespaceUri ← readRequiredText here document "namespace"
  let ref ← readOptionalText version "ref"
  let pubdate ← readOptionalText version "pubdate"
  let elements ← elements.traverse Element.ofValue
  return ⟨namespaceUri, ⟨ref, pubdate⟩, elements⟩

end DomBindings
