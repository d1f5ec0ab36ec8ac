import DomBindings.Proofs.ElementDetail

/-!
# No key is declared twice

The attributes of an element are typed by what all elements share and by a type of its own, and the
two are declared in different places. The keys that are read from the lines of both are the keys of
the element's tables, in another order (`keys_perm`): the names of its attributes, and those of its
events behind the prefix of handlers. A name is taken out of a table or it stays there, so each
comes once; and a module is only generated where no attribute has the name of a handler.
-/

namespace DomBindings

open Traversal

/-- A text is known from how it is quoted. -/
theorem Text.quote_injective : Function.Injective Text.quote := by
  intro s t h
  have hs := Text.readQuoted?_quote s []
  rw [h, Text.readQuoted?_quote] at hs
  exact (Prod.mk.inj (Option.some.inj hs)).1.symm

namespace Table

variable {α : Type} [Definition α] {own shared original : Table α}

/-- The names that are taken out and those that are left are the names that there were. -/
theorem IsRemainder.names_perm (h : IsRemainder own shared original) :
    (shared.names ++ own.names).Perm original.names := by
  have hdisjoint : shared.names.Disjoint own.names := by
    intro name hshared hown
    obtain ⟨x, hx⟩ := Option.isSome_iff_exists.mp (mem_names_iff_contains.mp hown)
    obtain ⟨hnone, -⟩ := h.get?_own_iff.mp hx
    rw [mem_names_iff_contains, contains, hnone] at hshared
    cases hshared
  refine (List.perm_ext_iff_of_nodup (shared.nodup.append own.nodup hdisjoint)
    original.nodup).mpr fun name => ?_
  change name ∈ shared.names ++ own.names ↔ name ∈ original.names
  rw [List.mem_append]
  constructor
  · rintro (hname | hname)
    · exact mem_names_iff_contains.mpr
        (h.contains_of_shared name (mem_names_iff_contains.mp hname))
    · exact (h.order.map Prod.fst).subset hname
  · intro hname
    obtain ⟨x, hx⟩ := Option.isSome_iff_exists.mp (mem_names_iff_contains.mp hname)
    rcases h.own_or_shared hx with hown | ⟨y, hy, -⟩
    · exact .inr (mem_names_iff_contains.mpr (contains_of_get? hown))
    · exact .inl (mem_names_iff_contains.mpr (contains_of_get? hy))

end Table

namespace Interface

/-- The keys of the properties of an interface. -/
def keys (i : Interface) : List Text :=
  i.attributes.names ++ i.events.names.map (Property.handlerPrefix ++ ·)

theorem length_keys (i : Interface) : i.keys.length = i.attributes.size + i.events.size := by
  rw [keys, List.length_append, List.length_map, Table.names, Table.names, List.length_map,
    List.length_map]
  rfl

/-- The properties of an interface have its keys. -/
theorem keys_perm_of_properties {i : Interface} {host : Text} {ps : List Property}
    (h : i.properties host = .ok ps) : (ps.map Property.key).Perm i.keys := by
  obtain ⟨as, has, rfl⟩ := properties_eq_ok_iff.mp h
  have hattributes : as.map Property.key = i.attributes.byName.map Prod.fst :=
    map_eq_of_mapM_eq_ok (fun _ _ => Property.key_of_ofAttribute) has
  have hevents : (i.eventProperties host).map Property.key
      = (i.events.byName.map Prod.fst).map (Property.handlerPrefix ++ ·) := by
    rw [eventProperties, List.map_map, List.map_map]
    rfl
  rw [List.map_append, hattributes, hevents]
  exact (i.attributes.byName_perm.map Prod.fst).append
    ((i.events.byName_perm.map Prod.fst).map _)

/-- Where no attribute of an interface has the key of a handler, no two of its keys are the same. -/
theorem nodup_keys {i : Interface}
    (h : ∀ attr ∈ i.attributes.names, ∀ event, attr ≠ Property.handlerPrefix ++ event) :
    i.keys.Nodup := by
  have hevents : (i.events.names.map (Property.handlerPrefix ++ ·)).Nodup :=
    List.Nodup.map (fun _ _ hst => List.append_cancel_left hst) i.events.nodup
  refine i.attributes.nodup.append hevents fun key hattribute hhandler => ?_
  obtain ⟨event, -, heq⟩ := List.mem_map.mp hhandler
  exact h key hattribute event heq.symm

end Interface

/-- An element without attributes and events in its tables has no keys. -/
theorem Element.keys_eq_nil {e : Element} (h : e.hasOwn = false) : e.interface.keys = [] := by
  obtain ⟨hattributes, hevents⟩ := hasOwn_eq_false_iff.mp h
  rw [Interface.keys, Table.names, Table.names, List.isEmpty_iff.mp hattributes,
    List.isEmpty_iff.mp hevents]
  rfl

namespace Vocabulary

/-- The keys that an element shares and those of its own are the keys of its tables. -/
theorem keys_perm {v : Vocabulary} {e : Element} (he : e ∈ v.elements.values) :
    (v.common.keys ++ (v.own e).interface.keys).Perm e.interface.keys := by
  have hpruned := isPruned_of_mem he
  have hevents := hpruned.events.names_perm.map (Property.handlerPrefix ++ ·)
  rw [List.map_append] at hevents
  refine List.Perm.trans ?_ (hpruned.attributes.names_perm.append hevents)
  -- the shared handlers and the element's own attributes change places
  rw [Interface.keys, Interface.keys, List.append_assoc, List.append_assoc]
  exact (List.perm_append_comm_assoc _ _ _).append_left _

end Vocabulary

namespace Declarations

/-- The keys of the properties that some lines declare. -/
def propertyKeys (lines : List Text) : List Text :=
  (lines.filterMap (readBinding? "?: ".toList)).map Prod.fst

theorem propertyKeys_append (lines others : List Text) :
    propertyKeys (lines ++ others) = propertyKeys lines ++ propertyKeys others := by
  rw [propertyKeys, List.filterMap_append, List.map_append]
  rfl

/-- The keys that are read from a type are those of its properties. -/
theorem propertyKeys_declarationLines {opening : Text}
    (hopening : readBinding? "?: ".toList (opening ++ ['\x7b']) = none) (ps : List Property) :
    propertyKeys (InterfaceBody.declarationLines opening ps) = ps.map Property.key := by
  rw [propertyKeys, InterfaceBody.filterMap_readBinding? hopening, List.map_map]
  rfl

theorem propertyKeys_sharedLines (d : Declarations) :
    propertyKeys d.sharedLines = d.shared.map Property.key :=
  propertyKeys_declarationLines rfl d.shared

theorem propertyKeys_attributesTypeLines (t : AttributesType) :
    propertyKeys (attributesTypeLines t) = t.properties.map Property.key := by
  have hheading : readBinding? "?: ".toList
      ("/** Attributes for the ".toList ++ t.element ++ " element */".toList) = none := rfl
  rw [propertyKeys, attributesTypeLines, List.filterMap_cons_none hheading]
  refine propertyKeys_declarationLines ?_ t.properties
  simp only [List.append_assoc]
  rfl

/-- The lines of the types of an element's own attributes. -/
def ownLines (d : Declarations) (name : Text) : List Text :=
  (d.attributesTypes.filter fun t => t.element = name).flatMap attributesTypeLines

/-- A module has one type of an element's own attributes, or none where the element has nothing of
its own. -/
theorem filter_attributesTypes_eq {v : Vocabulary} {shared : Interface} {d : Declarations}
    (h : ofVocabulary v shared = .ok d) {name : Text} {e : Element}
    (he : (name, e) ∈ v.elements.entries) :
    (e.hasOwn = false ∧ (d.attributesTypes.filter fun t => t.element = name) = []) ∨
      ∃ t, IsOwnType name e t ∧ (d.attributesTypes.filter fun t => t.element = name) = [t] := by
  obtain ⟨-, ps, parts, -, hparts, rfl⟩ := ofVocabulary_eq_ok_iff.mp h
  have htypes := isOwnType_of_isOf hparts
  cases hown : e.hasOwn with
  | false =>
    refine .inl ⟨rfl, List.filter_eq_nil_iff.mpr fun t ht hname => ?_⟩
    -- the type would be that of an element with the same name, which is this one
    obtain ⟨⟨n, e'⟩, he', hof⟩ := exists_mem_of_forall₂ htypes.flip ht
    obtain ⟨hentry, hown'⟩ := List.mem_filter.mp he'
    obtain rfl : n = name := hof.1.symm.trans (of_decide_eq_true hname)
    have hsame : some e' = some e :=
      (Table.get?_eq_some_iff.mpr hentry).symm.trans (Table.get?_eq_some_iff.mpr he)
    rw [← Option.some.inj hsame, hown'] at hown
    cases hown
  | true =>
    obtain ⟨t, ht, hof⟩ := exists_mem_of_forall₂ htypes (List.mem_filter.mpr ⟨he, hown⟩)
    have hnames : ((parts.filterMap ElementPart.ownType).map AttributesType.element).Nodup := by
      rw [map_eq_of_forall₂ (f := fun e => e.1) (fun _ _ ht => ht.1) htypes]
      exact v.elements.nodup.sublist (List.filter_sublist.map _)
    refine .inr ⟨t, hof, List.perm_singleton.mp ?_⟩
    refine (List.perm_ext_iff_of_nodup ((hnames.of_map _).filter _)
      (List.nodup_singleton t)).mpr fun s => ?_
    rw [List.mem_filter, List.mem_singleton, decide_eq_true_eq]
    constructor
    · rintro ⟨hs, hname⟩
      exact List.inj_on_of_nodup_map hnames hs ht (hname.trans hof.1.symm)
    · rintro rfl
      exact ⟨ht, hof.1⟩

/-- The keys that are read from the type of an element's own attributes are those of its tables. -/
theorem IsOwnType.propertyKeys_perm {name : Text} {e : Element} {t : AttributesType}
    (h : IsOwnType name e t) : (propertyKeys (attributesTypeLines t)).Perm e.interface.keys := by
  rw [propertyKeys_attributesTypeLines]
  exact Interface.keys_perm_of_properties h.2.2.2

/-- The keys of an element's own type are those of its tables, be there such a type or not. -/
theorem propertyKeys_ownLines_perm {v : Vocabulary} {shared : Interface} {d : Declarations}
    (h : ofVocabulary v shared = .ok d) {name : Text} {e : Element}
    (he : (name, e) ∈ v.elements.entries) :
    (propertyKeys (d.ownLines name)).Perm e.interface.keys := by
  rw [ownLines]
  rcases filter_attributesTypes_eq h he with ⟨hown, htypes⟩ | ⟨t, hof, htypes⟩
  · rw [htypes, Element.keys_eq_nil hown]
    exact .nil
  · rw [htypes, List.flatMap_singleton]
    exact hof.propertyKeys_perm

/-- A module types the attributes of an element by properties that are all different. -/
structure DeclaresOnce (d : Declarations) (name : Text) (e : Element) : Prop where
  /-- what all elements share and what the element has of its own are together the keys of the
  element's tables: each attribute by its name, and each event behind the prefix of handlers -/
  keys_perm : (propertyKeys d.sharedLines ++ propertyKeys (d.ownLines name)).Perm e.interface.keys
  /-- no key comes twice, -/
  nodup : (propertyKeys d.sharedLines ++ propertyKeys (d.ownLines name)).Nodup
  /-- nor does it as it is written, in quotes -/
  nodup_quoted :
    ((propertyKeys d.sharedLines ++ propertyKeys (d.ownLines name)).map Text.quote).Nodup
  /-- no attribute has the key of a handler -/
  attribute_ne_handler : ∀ attr ∈ e.interface.attributes.names, ∀ event,
    attr ≠ Property.handlerPrefix ++ event
  /-- and nothing of the element's own stands in front of what is shared -/
  not_shadowed : ∀ key ∈ propertyKeys (d.ownLines name), key ∉ propertyKeys d.sharedLines

end Declarations

namespace Vocabulary

/-- Where a module can be generated, no attribute has the key of a handler. -/
theorem ne_handler_of_mem_names {v : Vocabulary} {d : Declarations}
    (h : Declarations.ofVocabulary v.extract.1 v.extract.2 = .ok d) {name : Text} {e : Element}
    (he : v.elements.get? name = some e) {attr : Text} (ha : attr ∈ e.interface.attributes.names)
    (event : Text) : attr ≠ Property.handlerPrefix ++ event := by
  obtain ⟨a, ha⟩ := Table.mem_names_iff.mp ha
  obtain ⟨p, hp⟩ := exists_property h he (Table.get?_eq_some_iff.mpr ha)
  rw [← Property.key_of_ofAttribute hp]
  exact Property.key_ne_of_ofAttribute hp event

/-- In every module that can be generated, the two types that make up the type of an element's
attributes declare each of them once, and each of its handlers, and no key for another one. -/
theorem module_declaresOnce {v : Vocabulary} {lines : List Text}
    (h : declarationLines v.extract.1 v.extract.2 = .ok lines) {name : Text} {e : Element}
    (he : v.elements.get? name = some e) :
    ∃ d, Declarations.ofVocabulary v.extract.1 v.extract.2 = .ok d ∧ d.lines = lines ∧
      d.DeclaresOnce name e := by
  obtain ⟨d, hd, hlines⟩ := map_eq_ok_iff.mp h
  have hhandler : ∀ attr ∈ e.interface.attributes.names, ∀ event,
      attr ≠ Property.handlerPrefix ++ event := fun _ => ne_handler_of_mem_names hd he
  have hshared : (Declarations.propertyKeys d.sharedLines).Perm v.common.keys := by
    rw [Declarations.propertyKeys_sharedLines]
    exact Interface.keys_perm_of_properties (Declarations.shared_of_ofVocabulary hd)
  have hperm := (hshared.append (Declarations.propertyKeys_ownLines_perm hd (own_mem he))).trans
    (keys_perm (mem_values_of_get? he))
  have hnodup := hperm.nodup_iff.mpr (Interface.nodup_keys hhandler)
  exact ⟨d, hd, hlines, {
    keys_perm := hperm
    nodup := hnodup
    nodup_quoted := hnodup.map Text.quote_injective
    attribute_ne_handler := hhandler
    not_shadowed := fun key hown hkey => List.disjoint_of_nodup_append hnodup hkey hown }⟩

/-- The second of two elements with an attribute in common. -/
theorem module_declaresOnce_twoElements :
    ∃ lines, declarationLines (twoElements "cite".toList).extract.1
        (twoElements "cite".toList).extract.2 = .ok lines ∧
      (twoElements "cite".toList).elements.get? "q".toList
        = some (sampleElement "cite".toList (.int 1)) ∧
      ∃ d, Declarations.ofVocabulary (twoElements "cite".toList).extract.1
          (twoElements "cite".toList).extract.2 = .ok d ∧ d.lines = lines ∧
        d.DeclaresOnce "q".toList (sampleElement "cite".toList (.int 1)) :=
  ⟨_, rfl, rfl, module_declaresOnce rfl rfl⟩

end Vocabulary

end DomBindings
