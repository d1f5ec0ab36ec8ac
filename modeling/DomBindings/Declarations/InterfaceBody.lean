import DomBindings.DocComment
import DomBindings.ValueSpec.TypeExpr
import DomBindings.Vocabulary.Basic

/-!
# The body of an interface

The attributes and events of an interface as the members of an object type. Each attribute is an
optional property with the type of its values, and each event one with the type of its handler,
which is bound to a host interface. Properties stand in the order of their names, those of the
attributes first. The names of handlers begin with `on`, so no attribute's may.

A body is first a list of `Property` values, and its lines are made of them.
-/

namespace DomBindings

/-- An optional property of an object type. -/
structure Property where
  /-- what is said about it -/
  description : Text
  /-- where it is defined -/
  ref : Text
  /-- its name -/
  key : Text
  /-- the text of its type -/
  type : Text
deriving DecidableEq, Repr

namespace Property

/-- What the names of event handlers begin with. -/
def handlerPrefix : Text :=
  "on".toList

/-- The line that declares a property. -/
def line (p : Property) : Text :=
  "  ".toList ++ Text.quote p.key ++ "?: ".toList ++ p.type ++ [';']

/-- The lines of a property: its comment and its declaration. -/
def lines (p : Property) : List Text :=
  DocComment.lines p.description p.ref "  ".toList ++ [p.line]

/-- The property of an attribute, whose name must not be that of a handler. -/
def ofAttribute (name : Text) (a : Attribute) : Except SchemaError Property :=
  if handlerPrefix.isPrefixOf name then .error (.reservedName name)
  else do return ⟨a.description, a.ref, name, ← a.values.typeText⟩

/-- The type of the handlers of an event. -/
def handlerType (host eventInterface : Text) : Text :=
  "EventHandler<".toList ++ host ++ ", ".toList ++ eventInterface ++ ['>']

/-- The property of an event's handler. -/
def ofEvent (host name : Text) (e : Event) : Property :=
  ⟨e.description, e.ref, handlerPrefix ++ name, handlerType host e.interface⟩

end Property

namespace Interface

/-- The properties of the attributes of an interface. -/
def attributeProperties (i : Interface) : Except SchemaError (List Property) :=
  i.attributes.byName.mapM fun (name, a) => Property.ofAttribute name a

/-- The properties of the events of an interface. -/
def eventProperties (i : Interface) (host : Text) : List Property :=
  i.events.byName.map fun (name, e) => Property.ofEvent host name e

/-- The properties of an interface. -/
def properties (i : Interface) (host : Text) : Except SchemaError (List Property) := do
  return (← i.attributeProperties) ++ i.eventProperties host

end Interface

namespace InterfaceBody

/-- The lines between the braces: those of the properties, with an empty line between two. -/
def innerLines (properties : List Property) : List Text :=
  List.intercalate [[]] (properties.map Property.lines)

/-- The lines of a body. -/
def lines (properties : List Property) : List Text :=
  ['\x7b'] :: innerLines properties ++ [['\x7d']]

/-- The lines of a body behind the beginning of its declaration, closed by a semicolon. -/
def declarationLines (opening : Text) (properties : List Property) : List Text :=
  (opening ++ ['\x7b']) :: innerLines properties ++ ["\x7d;".toList]

end InterfaceBody

end DomBindings
