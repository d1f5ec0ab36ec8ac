import DomBindings.Vocabulary.Basic

/-!
# The common interface

The attributes and events that every element defines alike, taken out of the elements. The common
tables start as the first element's and are narrowed by each element after it, so they keep the
first element's order and definitions; then the names that are left are taken out of every element.
-/

namespace DomBindings

/-- The entries of the first table that the second one defines alike. -/
def Table.intersect {α : Type} [Definition α] (accumulator candidate : Table α) : Table α :=
  accumulator.filter fun name definition =>
    match candidate.get? name with
    | some other => Definition.alike other definition
    | none => false

/-- The entries whose names another table does not bind. -/
def Table.without {α β : Type} (t : Table α) (other : Table β) : Table α :=
  t.filter fun name _ => !other.contains name

namespace Interface

/-- The attributes and events that two interfaces define alike. -/
def intersect (a b : Interface) : Interface :=
  ⟨a.attributes.intersect b.attributes, a.events.intersect b.events⟩

/-- The attributes and events that another interface does not have. -/
def without (a b : Interface) : Interface :=
  ⟨a.attributes.without b.attributes, a.events.without b.events⟩

end Interface

namespace Vocabulary

/-- The attributes and events that all elements define alike. -/
def common (v : Vocabulary) : Interface :=
  match v.elements.values with
  | [] => .empty
  | first :: rest => rest.foldl (fun shared e => shared.intersect e.interface) first.interface

/-- The vocabulary without the attributes and events of an interface. -/
def prune (v : Vocabulary) (shared : Interface) : Vocabulary :=
  { v with
    elements := v.elements.map fun e => { e with interface := e.interface.without shared } }

/-- The vocabulary without what all elements have in common, and that. -/
def extract (v : Vocabulary) : Vocabulary × Interface :=
  (v.prune v.common, v.common)

end Vocabulary

end DomBindings
