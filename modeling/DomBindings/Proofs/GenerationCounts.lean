import DomBindings.Proofs.Layout
import DomBindings.Proofs.PropertyKeys
import DomBindings.Report.GenerationSummary

/-!
# The counts agree with the module

How many declarations of each kind a module has is counted on the vocabulary, and what elements
there are is listed on the vocabulary before anything is taken out of it; neither looks at the
module. What is read from the lines of the module agrees with both. Each element has lost exactly
the shared keys (`length_keys`), so by induction on the elements the entries that are listed are the
shared ones, once for each element, and those that are declared in the types of the elements
(`total_eq_of_subset`).
-/

namespace DomBindings

open Traversal

namespace ElementSummary

/-- The number of attributes and events in a row. -/
def entryCount (row : ElementSummary) : Int :=
  row.attributeCount + row.eventCount

/-- The number of attributes and events in all rows. -/
def total (rows : List ElementSummary) : Int :=
  rows.foldr (fun row n => row.entryCount + n) 0

/-- The attributes and events of an element are counted by its keys. -/
theorem entryCount_ofElement (name : Text) (e : Element) :
    (ofElement name e).entryCount = e.interface.keys.length := by
  rw [Interface.length_keys, Int.natCast_add]
  rfl

end ElementSummary

namespace Vocabulary

/-- An element has as many keys as it shares and as are left to it. -/
theorem length_keys {v : Vocabulary} {e : Element} (he : e ∈ v.elements.values) :
    e.interface.keys.length = v.common.keys.length + (v.own e).interface.keys.length := by
  rw [← (keys_perm he).length_eq, List.length_append]

/-- The entries that are listed for some elements are the shared ones, once for each element, and
those that are left to the elements. -/
theorem total_eq_of_subset {v : Vocabulary} {entries : List (Text × Element)}
    (h : ∀ e ∈ entries, e.2 ∈ v.elements.values) :
    ElementSummary.total (entries.map fun e => .ofElement e.1 e.2)
      = entries.length * v.common.keys.length
        + (entries.flatMap fun e => (v.own e.2).interface.keys).length := by
  induction entries with
  | nil => simp [ElementSummary.total]
  | cons e entries ih =>
    rw [List.forall_mem_cons] at h
    rw [List.map_cons, List.flatMap_cons, List.length_append, List.length_cons]
    change (ElementSummary.ofElement e.1 e.2).entryCount + ElementSummary.total _ = _
    rw [ih h.2, ElementSummary.entryCount_ofElement, length_keys h.1]
    push_cast
    rw [Int.add_mul, Int.one_mul]
    omega

end Vocabulary

namespace Declarations

/-- Whether a type is that of the shared attributes, for whatever host. -/
def isSharedType (type : Text) : Bool :=
  (sharedTypeName ++ ['<']).isPrefixOf type && type.getLast? = some '>'

theorem isSharedType_sharedType (host : Text) : isSharedType (sharedType host) = true := by
  have hbeginning : (sharedTypeName ++ ['<']).isPrefixOf (sharedType host) = true := by
    rw [List.isPrefixOf_iff_prefix]
    exact ⟨host ++ ['>'], by simp [sharedType]⟩
  rw [isSharedType, hbeginning, sharedType, List.getLast?_concat]
  rfl

/-- The name of an element's own type holds no angle bracket. -/
theorem isSharedType_ownTypeName (name : Text) : isSharedType (ownTypeName name) = false := by
  refine Bool.eq_false_iff.mpr fun h => ?_
  rw [isSharedType, Bool.and_eq_true, List.isPrefixOf_iff_prefix] at h
  have hmem : '<' ∈ ownTypeName name :=
    h.1.subset (List.mem_append_right _ (List.mem_singleton_self _))
  cases isAllowed_of_mem_ownTypeName hmem

/-- The rows of the map of attributes that have the type of the shared attributes are those of the
elements with nothing of their own. -/
theorem isSharedType_attributesType (name : Text) (e : Element) :
    isSharedType (attributesType name e) = !e.hasOwn := by
  rw [attributesType]
  cases e.hasOwn with
  | true => exact isSharedType_ownTypeName name
  | false => exact isSharedType_sharedType e.host

theorem readsMargin_readFactory? : ReadsMargin readFactory? :=
  .of_beginnings rfl (fun _ => rfl) (fun _ => rfl) (fun _ => rfl) (fun _ => rfl)

/-- Of some elements, those without a type of their own have no keys either. -/
theorem flatMap_keys_filter_hasOwn (entries : List (Text × Element)) :
    ((entries.filter fun e => e.2.hasOwn).flatMap fun e => e.2.interface.keys)
      = entries.flatMap fun e => e.2.interface.keys := by
  induction entries with
  | nil => rfl
  | cons e entries ih =>
    rw [List.filter_cons, List.flatMap_cons, ← ih]
    cases hown : e.2.hasOwn with
    | true => rfl
    | false =>
      rw [Element.keys_eq_nil hown]
      rfl

/-- From the types of some elements, their keys are read. -/
theorem propertyKeys_flatten_perm {entries : List (Text × Element)} {types : List (List Text)}
    (h : List.Forall₂ (fun e lines => ∃ t, IsOwnType e.1 e.2 t ∧ lines = attributesTypeLines t)
      entries types) :
    (propertyKeys types.flatten).Perm (entries.flatMap fun e => e.2.interface.keys) := by
  induction h with
  | nil => exact .nil
  | cons htype _ ih =>
    obtain ⟨t, ht, rfl⟩ := htype
    rw [List.flatten_cons, propertyKeys_append, List.flatMap_cons]
    exact ht.propertyKeys_perm.append ih

namespace Layout

variable {v : Vocabulary} {shared : Interface} {l : Layout}

/-- From the functions of a module, those of the elements are read. -/
theorem IsFor.filterMap_readFactory? (h : l.IsFor v shared) :
    l.factories.flatten.filterMap readFactory?
      = v.elements.entries.map fun e => (Identifier.factory e.1, e.1, e.1) := by
  refine filterMap_flatten_of_forall₂ (h.factories.imp ?_)
  rintro e lines ⟨line, rfl, hline⟩
  rw [List.filterMap_append, List.filterMap_cons_some hline,
    readsMargin_readFactory?.filterMap_eq_nil fun _ => DocComment.opensNothing_of_mem_lines rfl]
  rfl

/-- From the types of the elements, just their names are read. -/
theorem IsFor.filterMap_declaredType? (h : l.IsFor v shared) :
    l.types.flatten.filterMap declaredType?
      = (v.elements.entries.filter fun e => e.2.hasOwn).map fun e => attributesType e.1 e.2 :=
  filterMap_flatten_of_forall₂ (h.types.imp fun _ _ ht => ht.2.2)

/-- And all keys of the elements, in some order. -/
theorem IsFor.propertyKeys_types_perm (h : l.IsFor v shared) :
    (propertyKeys l.types.flatten).Perm
      (v.elements.entries.flatMap fun e => e.2.interface.keys) := by
  rw [← flatMap_keys_filter_hasOwn]
  exact propertyKeys_flatten_perm (h.types.imp fun _ _ ht => ht.1)

theorem IsFor.propertyKeys_shared_perm (h : l.IsFor v shared) :
    (propertyKeys l.shared).Perm shared.keys := by
  obtain ⟨ps, hps, hlines⟩ := h.shared
  rw [hlines, propertyKeys_declarationLines rfl]
  exact Interface.keys_perm_of_properties hps

end Layout

end Declarations

/-- The counts describe a module that is laid out in sections, and a list of the elements: they
count what is read from the lines of the sections. -/
structure GenerationCounts.Describe (c : GenerationCounts) (l : Declarations.Layout)
    (rows : List ElementSummary) : Prop where
  /-- the elements are the functions, and the rows of each map -/
  functions : c.elements = (l.factories.flatten.filterMap Declarations.readFactory?).length
  attributesRows : c.elements = (l.attributesRows.filterMap (readBinding? ": ".toList)).length
  interfaceRows : c.elements = (l.interfaceRows.filterMap (readBinding? ": ".toList)).length
  /-- those with a type of their own are the types that are declared, -/
  elementTypes : c.elementTypes = (l.types.flatten.filterMap Declarations.declaredType?).length
  /-- and the others are the rows that have the type of the shared attributes -/
  trivialElements : c.trivialElements = ((l.attributesRows.filterMap
    (readBinding? ": ".toList)).countP fun row => Declarations.isSharedType row.2)
  /-- what is shared are the properties of the shared type -/
  shared : c.commonAttributes + c.commonEvents = (Declarations.propertyKeys l.shared).length
  /-- the entries that are listed are the shared ones, once for each element, and the properties of
  the types of the elements -/
  conserved : ElementSummary.total rows = c.elements * (c.commonAttributes + c.commonEvents)
    + (Declarations.propertyKeys l.types.flatten).length

namespace Vocabulary

/-- The elements with a type of their own, counted on the vocabulary. -/
theorem countP_hasOwn (v : Vocabulary) :
    v.elements.values.countP Element.hasOwn = v.elements.entries.countP fun e => e.2.hasOwn := by
  rw [Table.values, List.countP_map]
  rfl

/-- The counts describe every module that is laid out for the vocabulary. -/
theorem describe_of_isFor {v : Vocabulary} {l : Declarations.Layout}
    (h : l.IsFor v.extract.1 v.extract.2) :
    (GenerationCounts.ofVocabulary v.extract.1 v.extract.2).Describe l
      (ElementSummary.ofVocabulary v) where
  functions := by
    rw [h.filterMap_readFactory?, List.length_map]
    rfl
  attributesRows := by
    rw [filterMap_eq_map_of_forall₂ h.attributesRows, List.length_map]
    rfl
  interfaceRows := by
    rw [filterMap_eq_map_of_forall₂ h.interfaceRows, List.length_map]
    rfl
  elementTypes := by
    rw [h.filterMap_declaredType?, List.length_map, ← List.countP_eq_length_filter, ← countP_hasOwn]
    rfl
  trivialElements := by
    have hrows : (v.extract.1.elements.entries.countP fun e =>
        Declarations.isSharedType (Declarations.attributesType e.1 e.2))
        = v.extract.1.elements.entries.countP fun e => decide ¬ e.2.hasOwn = true :=
      List.countP_congr fun e _ => by simp [Declarations.isSharedType_attributesType]
    have hlength := List.length_eq_countP_add_countP (fun e => e.2.hasOwn)
      (l := v.extract.1.elements.entries)
    rw [filterMap_eq_map_of_forall₂ h.attributesRows, List.countP_map]
    change (v.extract.1.elements.entries.length : Int)
      - v.extract.1.elements.values.countP Element.hasOwn
        = (v.extract.1.elements.entries.countP fun e =>
          Declarations.isSharedType (Declarations.attributesType e.1 e.2) : Nat)
    rw [countP_hasOwn, hrows]
    omega
  shared := by
    rw [h.propertyKeys_shared_perm.length_eq, Interface.length_keys, Int.natCast_add]
    rfl
  conserved := by
    have htotal := @total_eq_of_subset v v.elements.entries
      fun e he => List.mem_map_of_mem he
    have hown : (v.extract.1.elements.entries.flatMap fun e => e.2.interface.keys)
        = v.elements.entries.flatMap fun e => (v.own e.2).interface.keys :=
      List.flatMap_map _ _ _
    have hsize : v.extract.1.elements.size = v.elements.entries.length := List.length_map _
    rw [h.propertyKeys_types_perm.length_eq, hown]
    refine htotal.trans ?_
    rw [Interface.length_keys, ← hsize, Int.natCast_add]
    rfl

/-- The counts of a generation describe the module that is generated and the list of the elements as
they were before extraction. -/
theorem counts_describe_module {v : Vocabulary} {lines : List Text}
    (h : declarationLines v.extract.1 v.extract.2 = .ok lines) :
    ∃ l : Declarations.Layout, l.IsFor v.extract.1 v.extract.2 ∧ lines = l.lines v.namespaceUri ∧
      (GenerationCounts.ofVocabulary v.extract.1 v.extract.2).Describe l
        (ElementSummary.ofVocabulary v) := by
  obtain ⟨d, hd, rfl⟩ := map_eq_ok_iff.mp h
  have hlayout := Declarations.isFor_layout hd
  obtain ⟨-, ps, parts, -, -, rfl⟩ := Declarations.ofVocabulary_eq_ok_iff.mp hd
  exact ⟨_, hlayout, (Declarations.lines_layout _).symm, describe_of_isFor hlayout⟩

/-- Of two elements with an attribute of their own each. -/
theorem counts_describe_module_twoElements :
    ∃ lines, declarationLines (twoElements "cite".toList).extract.1
        (twoElements "cite".toList).extract.2 = .ok lines ∧
      ∃ l : Declarations.Layout, l.IsFor (twoElements "cite".toList).extract.1
          (twoElements "cite".toList).extract.2 ∧
        lines = l.lines (twoElements "cite".toList).namespaceUri ∧
        (GenerationCounts.ofVocabulary (twoElements "cite".toList).extract.1
          (twoElements "cite".toList).extract.2).Describe l
          (ElementSummary.ofVocabulary (twoElements "cite".toList)) :=
  ⟨_, rfl, counts_describe_module rfl⟩

end Vocabulary

end DomBindings
