import DomBindings.Table
import DomBindings.ValueSpec.Basic

/-!
# Vocabularies

The elements of a document language: each has an interface, attributes and events, which are the
same as another element's when they are the same as data.
-/

namespace DomBindings

/-- The definition of an attribute. -/
structure Attribute where
  /-- what the attribute is for -/
  description : Text
  /-- where it is defined -/
  ref : Text
  /-- which values it takes -/
  values : ValueSpec
deriving Repr

/-- The definition of an event. -/
structure Event where
  /-- what the event is for -/
  description : Text
  /-- where it is defined -/
  ref : Text
  /-- the interface of its occurrences -/
  interface : Text
deriving Repr, DecidableEq

/-- Definitions that are compared as data. -/
class Definition (α : Type) where
  /-- whether two definitions are the same as data -/
  alike : α → α → Bool

/-- Whether two attributes are the same as data. -/
def Attribute.alike (a b : Attribute) : Bool :=
  a.description == b.description && a.ref == b.ref && a.values.alike b.values

instance : Definition Attribute where
  alike := Attribute.alike

instance : Definition Event where
  alike a b := decide (a = b)

/-- The attributes and events of one interface. -/
structure Interface where
  /-- the attributes by name -/
  attributes : Table Attribute
  /-- the events by name, without the prefix of their handlers -/
  events : Table Event

/-- The interface without attributes and events. -/
def Interface.empty : Interface :=
  ⟨.empty, .empty⟩

/-- Whether there are neither attributes nor events. -/
def Interface.isEmpty (i : Interface) : Bool :=
  i.attributes.isEmpty && i.events.isEmpty

/-- An element. -/
structure Element where
  /-- what the element is for -/
  description : Text
  /-- where it is defined -/
  ref : Text
  /-- the name of its host interface -/
  host : Text
  /-- its attributes and events -/
  interface : Interface

/-- The standard that a vocabulary was taken from. -/
structure Version where
  /-- where it is published -/
  ref : Text
  /-- when it was published -/
  pubdate : Text
deriving Repr, DecidableEq

/-- A vocabulary. The order of its elements is the order in which they are written. -/
structure Vocabulary where
  /-- the identifier of the document language -/
  namespaceUri : Text
  /-- the standard -/
  version : Version
  /-- the elements by name -/
  elements : Table Element

end DomBindings
