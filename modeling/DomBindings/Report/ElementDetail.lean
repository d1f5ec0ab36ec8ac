import DomBindings.Report.ElementTable
import DomBindings.ValueSpec.TypeExpr
import DomBindings.Vocabulary.Extraction

/-!
# The account of one element

All attributes of an element with their types and all its events with their interfaces, in the order
of their names, each marked where all elements have it in common.
-/

namespace DomBindings

/-- An attribute or an event in the account of an element. -/
structure DetailEntry where
  /-- the name of the attribute or the event -/
  name : Text
  /-- the type of the attribute or the interface of the event -/
  type : Text
  /-- whether all elements have it in common -/
  common : Bool
deriving DecidableEq, Repr

/-- The account of an element. -/
structure ElementDetail where
  /-- the row of the element -/
  summary : ElementSummary
  /-- what the element is for -/
  description : Text
  /-- where it is defined -/
  ref : Text
  /-- its attributes -/
  attributes : List DetailEntry
  /-- its events -/
  events : List DetailEntry
deriving DecidableEq, Repr

namespace ElementDetail

/-- The account of an element of which the common interface is known. -/
def ofElement (shared : Interface) (name : Text) (e : Element) :
    Except SchemaError ElementDetail := do
  let attributes ← e.interface.attributes.byName.mapM fun (attr, a) =>
    (DetailEntry.mk attr · (shared.attributes.contains attr)) <$> a.values.typeText
  let events := e.interface.events.byName.map fun (event, d) =>
    DetailEntry.mk event d.interface (shared.events.contains event)
  return ⟨⟨name, e.host, attributes.length, events.length⟩, e.description, e.ref, attributes,
    events⟩

/-- The account of the element with a name, if there is one. -/
def ofVocabulary (v : Vocabulary) (name : Text) : Except SchemaError (Option ElementDetail) :=
  match v.elements.get? name with
  | none => .ok none
  | some e => some <$> ofElement v.common name e

/-- The line of an attribute or an event in a column of a width. -/
def entryLine (width : Nat) (entry : DetailEntry) : Text :=
  "    ".toList ++ entry.name.rightpad width ' ' ++ "  ".toList ++ entry.type
    ++ (if entry.common then "  (common)".toList else [])

/-- The lines of some attributes or events under their heading. -/
def sectionLines (heading : String) (entries : List DetailEntry) : List Text :=
  ("  ".toList ++ heading.toList ++ " (".toList ++ Text.numeral entries.length ++ "):".toList) ::
    entries.map (entryLine (ElementSummary.widest (entries.map DetailEntry.name)))

/-- The text of an account. -/
def render (d : ElementDetail) : Text :=
  Text.joinLines
    ([d.summary.name ++ " (".toList ++ d.summary.host ++ [')']]
      ++ (if d.description.isEmpty then [] else ["  ".toList ++ d.description])
      ++ (if d.ref.isEmpty then [] else ["  See: ".toList ++ d.ref])
      ++ [] :: sectionLines "Attributes" d.attributes
      ++ [] :: sectionLines "Events" d.events ++ [[]])

end ElementDetail

end DomBindings
