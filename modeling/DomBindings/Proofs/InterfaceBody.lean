import DomBindings.Declarations.InterfaceBody
import DomBindings.Proofs.LikeTypes
import DomBindings.Proofs.Table

/-!
# Properties as listings of tables

The properties of an interface are made of its tables entry by entry, in the order of the names. So
a list of properties is determined by the table and by what the property of an entry is:
`IsListing` says which properties are in it, and that their keys increase. Attributes that are alike
have the same property, which is why it does not matter from which element a property is made.
-/

namespace DomBindings

open Traversal

namespace Property

theorem ofAttribute_eq_ok_iff {name : Text} {a : Attribute} {p : Property} :
    ofAttribute name a = .ok p ↔ handlerPrefix.isPrefixOf name = false ∧
      ∃ type, a.values.typeText = .ok type ∧ p = ⟨a.description, a.ref, name, type⟩ := by
  rw [ofAttribute]
  cases handlerPrefix.isPrefixOf name with
  | true => simp
  | false =>
    rw [if_neg Bool.false_ne_true, bind_eq_ok_iff]
    simp [pure, Except.pure, eq_comm]

theorem key_of_ofAttribute {name : Text} {a : Attribute} {p : Property}
    (h : ofAttribute name a = .ok p) : p.key = name := by
  obtain ⟨-, _, -, rfl⟩ := ofAttribute_eq_ok_iff.mp h
  rfl

/-- Attributes that are alike have the same property. -/
theorem ofAttribute_eq_of_alike {name : Text} {a b : Attribute} {p : Property}
    (h : Definition.alike a b = true) (ha : ofAttribute name a = .ok p) :
    ofAttribute name b = .ok p := by
  obtain ⟨hd, hr, hv⟩ := Attribute.alike_iff.mp h
  obtain ⟨hname, type, htype, rfl⟩ := ofAttribute_eq_ok_iff.mp ha
  rw [hd, hr]
  exact ofAttribute_eq_ok_iff.mpr ⟨hname, type, ValueSpec.typeText_eq_of_alike hv htype, rfl⟩

/-- The keys of handlers are in the order of the names of their events. -/
theorem handlerPrefix_append_lt_iff {s t : Text} :
    handlerPrefix ++ s < handlerPrefix ++ t ↔ s < t := by
  simp [handlerPrefix]

/-- No attribute has the key of a handler. -/
theorem key_ne_of_ofAttribute {name : Text} {a : Attribute} {p : Property}
    (h : ofAttribute name a = .ok p) (event : Text) : p.key ≠ handlerPrefix ++ event := by
  obtain ⟨hreserved, -⟩ := ofAttribute_eq_ok_iff.mp h
  intro hkey
  rw [← key_of_ofAttribute h, hkey,
    List.isPrefixOf_iff_prefix.mpr (List.prefix_append handlerPrefix event)] at hreserved
  cases hreserved

end Property

/-- A list holds the properties of the entries of a table, in the order of their keys. Which
property an entry has is said by a relation. -/
structure IsListing {α : Type} (t : Table α) (has : Text → α → Property → Prop)
    (ps : List Property) : Prop where
  mem_iff : ∀ p, p ∈ ps ↔ ∃ name x, t.get? name = some x ∧ has name x p
  increasing : ps.Pairwise fun p q => p.key < q.key

namespace Interface

/-- The attributes of an interface have properties when each of them has one. -/
theorem attributeProperties_ok_iff {i : Interface} :
    (∃ ps, i.attributeProperties = .ok ps) ↔
      ∀ name a, i.attributes.get? name = some a → ∃ p, Property.ofAttribute name a = .ok p := by
  rw [← fault?_eq_none_iff, attributeProperties, fault?_mapM, List.findSome?_eq_none_iff]
  simp only [fault?_eq_none_iff, Table.mem_byName, Prod.forall, Table.get?_eq_some_iff]

theorem attributeProperties_listing {i : Interface} {ps : List Property}
    (h : i.attributeProperties = .ok ps) :
    IsListing i.attributes (fun name a p => Property.ofAttribute name a = .ok p) ps where
  mem_iff p := by
    rw [mem_iff_of_mapM_eq_ok h, Prod.exists]
    refine exists_congr fun name => exists_congr fun a => ?_
    rw [Table.mem_byName, Table.get?_eq_some_iff]
  increasing := by
    -- the keys are the names, which increase
    have hkeys : ps.map Property.key = i.attributes.byName.map Prod.fst :=
      map_eq_of_mapM_eq_ok (fun _ _ => Property.key_of_ofAttribute) h
    have hnames := List.pairwise_map.mpr i.attributes.byName_increasing
    rw [← hkeys] at hnames
    exact List.pairwise_map.mp hnames

theorem eventProperties_listing (i : Interface) (host : Text) :
    IsListing i.events (fun name e p => Property.ofEvent host name e = p)
      (i.eventProperties host) where
  mem_iff p := by
    rw [eventProperties, List.mem_map]
    constructor
    · rintro ⟨⟨name, e⟩, hmem, hp⟩
      exact ⟨name, e, Table.get?_eq_some_iff.mpr (Table.mem_byName.mp hmem), hp⟩
    · rintro ⟨name, e, hget, hp⟩
      exact ⟨(name, e), Table.mem_byName.mpr (Table.get?_eq_some_iff.mp hget), hp⟩
  increasing := by
    rw [eventProperties, List.pairwise_map]
    exact i.events.byName_increasing.imp fun h => Property.handlerPrefix_append_lt_iff.mpr h

end Interface

end DomBindings
