import DomBindings.Declarations.Basic
import DomBindings.Proofs.InterfaceBody
import Mathlib.Data.List.Nodup

/-!
# When a module can be generated

A module has a part for each of its sections, and a part fails only where its attributes do. So the
fault of the whole is the first of the clash of two identifiers, the fault of a shared attribute and
the fault of an attribute of an element, in the order of the elements (`fault?_ofVocabulary`).
-/

namespace DomBindings

open Traversal

namespace Interface

/-- Only attributes can be at fault. -/
theorem fault?_properties (i : Interface) (host : Text) :
    fault? (i.properties host) = fault? i.attributeProperties := by
  rw [properties]
  cases i.attributeProperties <;> rfl

theorem properties_eq_ok_iff {i : Interface} {host : Text} {ps : List Property} :
    i.properties host = .ok ps ↔
      ∃ as, i.attributeProperties = .ok as ∧ ps = as ++ i.eventProperties host := by
  rw [properties, bind_eq_ok_iff]
  simp [pure, Except.pure, eq_comm]

end Interface

namespace Declarations

/-- An element without a type of its own has no attribute at fault, so the fault of the elements'
types is the first among all elements. -/
theorem fault?_ownTypes (entries : List (Text × Element)) :
    fault? (ownTypes entries)
      = entries.findSome? fun e => fault? e.2.interface.attributeProperties := by
  induction entries with
  | nil => rfl
  | cons entry entries ih =>
    obtain ⟨name, e⟩ := entry
    rw [ownTypes, List.findSome?_cons]
    cases hown : e.hasOwn with
    | false =>
      -- it has no type, but it has no attributes that could be at fault either
      have hempty : e.interface.attributes.entries = [] := by
        simp only [Element.hasOwn, Interface.isEmpty, Table.isEmpty, Bool.not_eq_false',
          Bool.and_eq_true, List.isEmpty_iff] at hown
        exact hown.1
      have hnone : fault? e.interface.attributeProperties = none := by
        rw [Interface.attributeProperties, Table.byName, hempty]
        rfl
      rw [if_neg Bool.false_ne_true, hnone, ih]
    | true =>
      rw [if_pos rfl, ← Interface.fault?_properties e.interface e.host, ← ih]
      cases e.interface.properties e.host with
      | error _ => rfl
      | ok ps => cases ownTypes entries <;> rfl

/-- The fault of a module is a clash of identifiers, or else that of the first attribute at fault,
the shared ones before those of the elements. -/
theorem fault?_ofVocabulary (v : Vocabulary) (shared : Interface) :
    fault? (ofVocabulary v shared) = (fault? (findClash [] v.elements.names)).or
      ((fault? shared.attributeProperties).or
        (v.elements.entries.findSome? fun e => fault? e.2.interface.attributeProperties)) := by
  rw [ofVocabulary, ← fault?_ownTypes, ← Interface.fault?_properties shared hostParameter]
  cases findClash [] v.elements.names with
  | error _ => rfl
  | ok _ =>
    cases shared.properties hostParameter with
    | error _ => rfl
    | ok ps => cases ownTypes v.elements.entries <;> rfl

/-- The parts of a module that could be generated. -/
theorem shared_of_ofVocabulary {v : Vocabulary} {shared : Interface} {d : Declarations}
    (h : ofVocabulary v shared = .ok d) : shared.properties hostParameter = .ok d.shared := by
  rw [ofVocabulary] at h
  obtain ⟨_, -, h⟩ := bind_eq_ok_iff.mp h
  obtain ⟨ps, hps, h⟩ := bind_eq_ok_iff.mp h
  obtain ⟨ts, -, h⟩ := bind_eq_ok_iff.mp h
  obtain rfl := Except.ok.inj h
  exact hps

/-- Where a module could be generated, no element has an attribute at fault. -/
theorem attributeProperties_of_ofVocabulary {v : Vocabulary} {shared : Interface}
    {d : Declarations} (h : ofVocabulary v shared = .ok d) {name : Text} {e : Element}
    (he : (name, e) ∈ v.elements.entries) : ∃ ps, e.interface.attributeProperties = .ok ps := by
  have hnone := fault?_eq_none_iff.mpr ⟨d, h⟩
  rw [fault?_ofVocabulary, Option.or_eq_none_iff, Option.or_eq_none_iff,
    List.findSome?_eq_none_iff] at hnone
  exact fault?_eq_none_iff.mp (hnone.2.2 (name, e) he)

/-! ### Clashes -/

/-- What is known of names that were found to have different identifiers. -/
def seenOf (names : List Text) : List (Text × Text) :=
  (names.map fun name => (Identifier.factory name, name)).reverse

theorem mem_seenOf {names : List Text} {identifier name : Text} :
    (identifier, name) ∈ seenOf names ↔ name ∈ names ∧ Identifier.factory name = identifier := by
  rw [seenOf, List.mem_reverse, List.mem_map]
  constructor
  · rintro ⟨n, hn, h⟩
    obtain ⟨rfl, rfl⟩ := Prod.mk.inj h
    exact ⟨hn, rfl⟩
  · rintro ⟨hn, rfl⟩
    exact ⟨name, hn, rfl⟩

theorem seenOf_append_singleton (names : List Text) (name : Text) :
    seenOf (names ++ [name]) = (Identifier.factory name, name) :: seenOf names := by
  simp [seenOf]

theorem mem_of_lookup {entries : List (Text × Text)} {key value : Text}
    (h : entries.lookup key = some value) : (key, value) ∈ entries := by
  obtain ⟨before, after, rfl, -⟩ := List.lookup_eq_some_iff.mp h
  simp

/-- The search for a clash finds none when the identifiers are distinct. -/
theorem findClash_eq_ok_iff {before rest : List Text}
    (h : (before.map Identifier.factory).Nodup) :
    findClash (seenOf before) rest = .ok () ↔
      ((before ++ rest).map Identifier.factory).Nodup := by
  -- what was seen has distinct identifiers, and a name without a clash joins it
  induction rest generalizing before with
  | nil => simpa [findClash] using h
  | cons name rest ih =>
    rw [findClash]
    cases hl : (seenOf before).lookup (Identifier.factory name) with
    | some first =>
      obtain ⟨hfirst, hclash⟩ := mem_seenOf.mp (mem_of_lookup hl)
      have hnot : ¬ ((before ++ name :: rest).map Identifier.factory).Nodup := by
        rw [List.map_append, List.map_cons, List.nodup_append]
        rintro ⟨-, -, hdisjoint⟩
        exact hdisjoint _ (List.mem_map_of_mem hfirst) _ List.mem_cons_self hclash
      exact iff_of_false (fun h => nomatch h) hnot
    | none =>
      have hnew : Identifier.factory name ∉ before.map Identifier.factory := by
        intro hmem
        obtain ⟨first, hfirst, hclash⟩ := List.mem_map.mp hmem
        rw [List.lookup_eq_none_iff] at hl
        have := hl _ (mem_seenOf.mpr ⟨hfirst, hclash⟩)
        simp at this
      have hbefore : ((before ++ [name]).map Identifier.factory).Nodup := by
        rw [List.map_append, List.nodup_append]
        refine ⟨h, List.nodup_singleton _, ?_⟩
        rintro a ha b hb rfl
        rw [List.map_singleton, List.mem_singleton] at hb
        exact hnew (hb ▸ ha)
      have hrest := ih hbefore
      rw [seenOf_append_singleton, List.append_assoc, List.singleton_append] at hrest
      exact hrest

/-- A clash that is found is one of a name with an earlier name. -/
theorem findClash_eq_error {before rest : List Text} {err : SchemaError}
    (h : findClash (seenOf before) rest = .error err) :
    ∃ middle second after, rest = middle ++ second :: after ∧ ∃ first ∈ before ++ middle,
      Identifier.factory first = Identifier.factory second ∧
      err = .identifierClash first second (Identifier.factory second) := by
  induction rest generalizing before with
  | nil => cases h
  | cons name rest ih =>
    rw [findClash] at h
    cases hl : (seenOf before).lookup (Identifier.factory name) with
    | some first =>
      rw [hl] at h
      obtain ⟨hfirst, hclash⟩ := mem_seenOf.mp (mem_of_lookup hl)
      refine ⟨[], name, rest, rfl, first, ?_, hclash, (Except.error.inj h).symm⟩
      rwa [List.append_nil]
    | none =>
      rw [hl] at h
      obtain ⟨middle, second, after, hrest, first, hfirst, hclash, herr⟩ :=
        ih (seenOf_append_singleton before name ▸ h)
      refine ⟨name :: middle, second, after, by rw [hrest, List.cons_append], first, ?_,
        hclash, herr⟩
      rwa [List.append_assoc, List.singleton_append] at hfirst

end Declarations

end DomBindings
