import DomBindings.Proofs.Declarations

/-!
# A module as a list of parts

What a module says about an element depends on that element alone: its rows, its function, and the
type of its attributes, if it has attributes of its own. So a module is put together from the shared
properties and one part for each element (`Declarations.ofParts`), and generating a module is
finding these parts (`ofVocabulary_eq_ok_iff`). The parts stand in the order of the elements.
-/

namespace DomBindings

open Traversal

/-- What a module says about one element. -/
structure ElementPart where
  /-- the name of the element -/
  element : Text
  /-- the type of the attributes of its own, if it has any -/
  ownType : Option AttributesType
  /-- the type of its attributes, as the map of attributes has it -/
  type : Text
  /-- its interface, as the map of interfaces has it -/
  host : Text
  /-- its function -/
  factory : Factory

/-- The module that is put together from what is shared and the parts of the elements. -/
def Declarations.ofParts (namespaceUri : Text) (shared : List Property)
    (parts : List ElementPart) : Declarations where
  namespaceUri := namespaceUri
  shared := shared
  attributesTypes := parts.filterMap ElementPart.ownType
  attributesRows := parts.map fun p => (p.element, p.type)
  interfaceRows := parts.map fun p => (p.element, p.host)
  factories := parts.map ElementPart.factory

theorem Element.hasOwn_eq_false_iff {e : Element} : e.hasOwn = false ↔
    e.interface.attributes.isEmpty = true ∧ e.interface.events.isEmpty = true := by
  rw [hasOwn, Interface.isEmpty, Bool.not_eq_false', Bool.and_eq_true]

/-- The type of an element's own attributes: there is one where the element has a table with
entries. -/
inductive Element.HasOwnType (name : Text) (e : Element) : Option AttributesType → Prop
  | own {ps : List Property} : e.hasOwn = true → e.interface.properties e.host = .ok ps →
      HasOwnType name e (some ⟨name, Declarations.ownTypeName name, e.host, ps⟩)
  | shared : e.hasOwn = false → HasOwnType name e none

/-- A part says about an element what is to be said. -/
structure ElementPart.IsOf (name : Text) (e : Element) (part : ElementPart) : Prop where
  element : part.element = name
  ownType : e.HasOwnType name part.ownType
  type : part.type = Declarations.attributesType name e
  host : part.host = e.host
  factory : part.factory = ⟨name, Identifier.factory name, e.description, e.ref⟩

namespace Declarations

/-- The types of the elements are found when each element has its part. -/
theorem ownTypes_eq_ok_iff {entries : List (Text × Element)} {ts : List AttributesType} :
    ownTypes entries = .ok ts ↔ ∃ parts, List.Forall₂ (fun e p => p.IsOf e.1 e.2) entries parts ∧
      ts = parts.filterMap ElementPart.ownType := by
  induction entries generalizing ts with
  | nil => simp [ownTypes, eq_comm]
  | cons entry entries ih =>
    obtain ⟨name, e⟩ := entry
    rw [ownTypes]
    constructor
    · intro h
      split at h
      · next hown =>
        obtain ⟨ps, hps, h⟩ := bind_eq_ok_iff.mp h
        obtain ⟨others, hothers, h⟩ := bind_eq_ok_iff.mp h
        obtain rfl := Except.ok.inj h
        obtain ⟨parts, hparts, rfl⟩ := ih.mp hothers
        exact ⟨⟨name, some ⟨name, ownTypeName name, e.host, ps⟩, attributesType name e, e.host,
            ⟨name, Identifier.factory name, e.description, e.ref⟩⟩ :: parts,
          .cons ⟨rfl, .own hown hps, rfl, rfl, rfl⟩ hparts, rfl⟩
      · next hown =>
        obtain ⟨parts, hparts, rfl⟩ := ih.mp h
        exact ⟨⟨name, none, attributesType name e, e.host,
            ⟨name, Identifier.factory name, e.description, e.ref⟩⟩ :: parts,
          .cons ⟨rfl, .shared (Bool.eq_false_iff.mpr hown), rfl, rfl, rfl⟩ hparts, rfl⟩
    · rintro ⟨_, hall, rfl⟩
      obtain ⟨part, parts, hpart, hparts, rfl⟩ := List.forall₂_cons_left_iff.mp hall
      have hothers := ih.mpr ⟨parts, hparts, rfl⟩
      have htype := hpart.ownType
      rw [List.filterMap_cons]
      generalize part.ownType = ownType at htype
      cases htype with
      | @own ps hown hps =>
        rw [if_pos hown]
        exact bind_eq_ok_iff.mpr ⟨ps, hps, bind_eq_ok_iff.mpr ⟨_, hothers, rfl⟩⟩
      | shared hown =>
        rw [if_neg (by simp [hown])]
        exact hothers

/-- A type states the attributes that an element has of its own. -/
def IsOwnType (name : Text) (e : Element) (t : AttributesType) : Prop :=
  t.element = name ∧ t.name = ownTypeName name ∧ t.host = e.host ∧
    e.interface.properties e.host = .ok t.properties

/-- The types in the parts are those of the elements with attributes of their own, in order. -/
theorem isOwnType_of_isOf {entries : List (Text × Element)} {parts : List ElementPart}
    (h : List.Forall₂ (fun e p => p.IsOf e.1 e.2) entries parts) :
    List.Forall₂ (fun e t => IsOwnType e.1 e.2 t) (entries.filter fun e => e.2.hasOwn)
      (parts.filterMap ElementPart.ownType) := by
  induction h with
  | nil => exact .nil
  | @cons e part entries parts hpart _ ih =>
    have htype := hpart.ownType
    generalize ho : part.ownType = ownType at htype
    cases htype with
    | own hown hps =>
      rw [List.filter_cons, if_pos hown, List.filterMap_cons_some ho]
      exact .cons ⟨rfl, rfl, rfl, hps⟩ ih
    | shared hnone =>
      rw [List.filter_cons, if_neg (Bool.eq_false_iff.mp hnone), List.filterMap_cons_none ho]
      exact ih

/-- A module can be generated when the identifiers of the elements are distinct, the shared
interface has properties and each element has its part; and it is put together from these. -/
theorem ofVocabulary_eq_ok_iff {v : Vocabulary} {shared : Interface} {d : Declarations} :
    ofVocabulary v shared = .ok d ↔ (v.elements.names.map Identifier.factory).Nodup ∧
      ∃ ps parts, shared.properties hostParameter = .ok ps ∧
        List.Forall₂ (fun e p => p.IsOf e.1 e.2) v.elements.entries parts ∧
        d = ofParts v.namespaceUri ps parts := by
  have hclash : findClash [] v.elements.names = .ok () ↔
      (v.elements.names.map Identifier.factory).Nodup :=
    @findClash_eq_ok_iff [] _ List.nodup_nil
  -- the rows and the functions of the parts are those of the elements
  have hd : ∀ {ps parts}, List.Forall₂ (fun e p => p.IsOf e.1 e.2) v.elements.entries parts →
      ofParts v.namespaceUri ps parts = {
        namespaceUri := v.namespaceUri
        shared := ps
        attributesTypes := parts.filterMap ElementPart.ownType
        attributesRows := v.elements.entries.map fun e => (e.1, attributesType e.1 e.2)
        interfaceRows := v.elements.entries.map fun e => (e.1, e.2.host)
        factories := v.elements.entries.map fun e =>
          ⟨e.1, Identifier.factory e.1, e.2.description, e.2.ref⟩ } := by
    intro ps parts hparts
    rw [ofParts, map_eq_of_forall₂ (fun _ _ hp => by rw [hp.element, hp.type]) hparts,
      map_eq_of_forall₂ (fun _ _ hp => by rw [hp.element, hp.host]) hparts,
      map_eq_of_forall₂ (fun _ _ hp => hp.factory) hparts]
  rw [ofVocabulary, ← hclash]
  constructor
  · intro h
    obtain ⟨_, hnames, h⟩ := bind_eq_ok_iff.mp h
    obtain ⟨ps, hps, h⟩ := bind_eq_ok_iff.mp h
    obtain ⟨ts, hts, h⟩ := bind_eq_ok_iff.mp h
    obtain ⟨parts, hparts, rfl⟩ := ownTypes_eq_ok_iff.mp hts
    refine ⟨hnames, ps, parts, hps, hparts, ?_⟩
    rw [hd hparts]
    exact (Except.ok.inj h).symm
  · rintro ⟨hnames, ps, parts, hps, hparts, rfl⟩
    rw [hd hparts]
    exact bind_eq_ok_iff.mpr ⟨(), hnames, bind_eq_ok_iff.mpr ⟨ps, hps, bind_eq_ok_iff.mpr
      ⟨_, ownTypes_eq_ok_iff.mpr ⟨parts, hparts, rfl⟩, rfl⟩⟩⟩

/-- An element with attributes of its own has its type in the module. -/
theorem exists_ownType {v : Vocabulary} {shared : Interface} {d : Declarations}
    (h : ofVocabulary v shared = .ok d) {name : Text} {e : Element}
    (he : (name, e) ∈ v.elements.entries) (hown : e.hasOwn = true) :
    ∃ t ∈ d.attributesTypes, IsOwnType name e t := by
  obtain ⟨-, ps, parts, -, hparts, rfl⟩ := ofVocabulary_eq_ok_iff.mp h
  exact exists_mem_of_forall₂ (isOwnType_of_isOf hparts) (List.mem_filter.mpr ⟨he, hown⟩)

end Declarations

end DomBindings
