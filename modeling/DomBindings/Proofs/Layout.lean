import DomBindings.Proofs.Extraction
import DomBindings.Proofs.Identifier
import DomBindings.Proofs.Margin
import DomBindings.Proofs.ModuleParts

/-!
# The sections of a module

The lines of a module are cut into its sections, and what they declare is read from the lines
themselves: the name of a type behind the word `type`, the key of a row, the name and the key of a
function. So it is seen that the sections are in step: there is one row in each map and one function
for each element, and a type for just the elements with attributes of their own.

The names of the types are made of the names of the elements in another way than the identifiers
that are checked for clashes, since no reserved word is avoided in them. They still differ, as
elements with one type name would have one identifier (`nodup_ownTypeNames`), and no name of an
element makes one of the four names that the module itself declares
(`ownTypeName_not_mem_fixedTypeNames`). So each type is declared once.
-/

namespace DomBindings

open Traversal

namespace Declarations

/-! ### Reading declarations -/

/-- Reads the name of the type that a line declares. -/
def declaredType? (line : Text) : Option Text :=
  (Text.after? "type ".toList ((Text.after? "export ".toList line).getD line)).map
    (·.takeWhile Identifier.isAllowed)

/-- Reads the line of a function that makes an element: its name, the key by which it looks up the
type of the attributes, and the key of the element that it makes. -/
def readFactory? (line : Text) : Option (Text × Text × Text) := do
  let line ← Text.after? "export const ".toList line
  let rest ← Text.after? " = (attribs: ElementAttribsMap[".toList
    (line.dropWhile Identifier.isAllowed)
  let (attributesKey, rest) ← (Json.readText rest).toOption
  let rest ← Text.after? "], ...childs: Child[]) => create(".toList rest
  let (key, rest) ← (Json.readText rest).toOption
  if rest = ", attribs, ...childs);".toList then
    some (line.takeWhile Identifier.isAllowed, attributesKey, key)
  else none

theorem readsMargin_declaredType? : ReadsMargin declaredType? :=
  .of_beginnings rfl (fun _ => rfl) (fun _ => rfl) (fun _ => rfl) (fun _ => rfl)

theorem declaredType?_of_const (rest : Text) :
    declaredType? ("export const ".toList ++ rest) = none :=
  rfl

/-- A name of allowed characters is read from the line that declares it. -/
theorem declaredType?_export {name : Text} (h : ∀ c ∈ name, Identifier.isAllowed c = true)
    (rest : Text) :
    declaredType? ("export type ".toList ++ name ++ ' ' :: rest) = some name := by
  have hread : declaredType? ("export type ".toList ++ name ++ ' ' :: rest)
      = some ((name ++ ' ' :: rest).takeWhile Identifier.isAllowed) := by
    rw [List.append_assoc]
    rfl
  rw [hread, Identifier.takeWhile_isAllowed h rfl]

theorem isAllowed_of_mem_ownTypeName {name : Text} {c : Char} (h : c ∈ ownTypeName name) :
    Identifier.isAllowed c = true := by
  rcases List.mem_append.mp h with h | h
  · exact Identifier.isAllowed_of_mem_sanitize h
  · have hall : "Attribs".toList.all Identifier.isAllowed = true := rfl
    exact List.all_eq_true.mp hall c h

/-- The type of an element is declared under its own name. -/
theorem declaredType?_typeOpening {t : AttributesType} {name : Text}
    (ht : t.name = ownTypeName name) : declaredType? (typeOpening t) = some t.name := by
  have hname : ∀ c ∈ t.name, Identifier.isAllowed c = true := fun c hc =>
    isAllowed_of_mem_ownTypeName (ht ▸ hc)
  rw [typeOpening_eq, ← List.append_assoc, declaredType?_export hname]

theorem filterMap_declaredType?_attributesTypeLines {t : AttributesType} {name : Text}
    (ht : t.name = ownTypeName name) :
    (attributesTypeLines t).filterMap declaredType? = [t.name] := by
  rw [readsMargin_declaredType?.filterMap_attributesTypeLines, declaredType?_typeOpening ht]
  rfl

/-- A function declares no type. -/
theorem declaredType?_factoryLine (f : Factory) : declaredType? (factoryLine f) = none := by
  rw [factoryLine_eq, declaredType?_of_const]

/-! ### The names of the types -/

/-- Elements whose identifiers are distinct have distinct names for their types. -/
theorem nodup_ownTypeNames {names : List Text} (h : (names.map Identifier.factory).Nodup) :
    (names.map ownTypeName).Nodup := by
  -- an identifier is made of the sanitized name, and so is the name of the type
  have hsanitized : (names.map Identifier.sanitize).Nodup := by
    have hfactory : names.map Identifier.factory
        = (names.map Identifier.sanitize).map Identifier.avoidReserved := by
      rw [List.map_map]
      rfl
    rw [hfactory] at h
    exact h.of_map _
  have hown : names.map ownTypeName
      = (names.map Identifier.sanitize).map (· ++ "Attribs".toList) := by
    rw [List.map_map]
    rfl
  rw [hown]
  exact hsanitized.map fun s t hst => List.append_cancel_right hst

/-- The names of the types that stand in every module behind those of the elements. -/
def closingTypeNames : List Text :=
  ["ElementAttribsMap".toList, "ElementInterfaceMap".toList, "Child".toList]

/-- The names of the types that are in every module. -/
def fixedTypeNames : List Text :=
  sharedTypeName :: closingTypeNames

/-- None of them is the name of the type of an element. -/
theorem ownTypeName_not_mem_fixedTypeNames (name : Text) :
    ownTypeName name ∉ fixedTypeNames := by
  have hfixed : fixedTypeNames.all (fun fixed => !"Attribs".toList.isSuffixOf fixed) = true := rfl
  intro hmem
  have hsuffix : "Attribs".toList.isSuffixOf (ownTypeName name) = true :=
    List.isSuffixOf_iff_suffix.mpr ⟨_, rfl⟩
  have hnot := List.all_eq_true.mp hfixed _ hmem
  rw [hsuffix] at hnot
  cases hnot

/-- The type of the shared attributes is never that of an element's own, since it has a
parameter. -/
theorem ownTypeName_ne_sharedType (name host : Text) : ownTypeName name ≠ sharedType host := by
  intro h
  have hmem : '<' ∈ ownTypeName name := by
    rw [h, sharedType, List.append_assoc]
    exact List.mem_append_right _ List.mem_cons_self
  cases isAllowed_of_mem_ownTypeName hmem

theorem attributesType_eq_sharedType_iff {name : Text} {e : Element} :
    attributesType name e = sharedType e.host ↔
      e.interface.attributes.isEmpty = true ∧ e.interface.events.isEmpty = true := by
  rw [← Element.hasOwn_eq_false_iff, attributesType]
  split
  · next hown => exact iff_of_false (ownTypeName_ne_sharedType name e.host) (by simp [hown])
  · next hown => exact iff_of_true rfl (Bool.eq_false_iff.mpr hown)

/-! ### The function of an element -/

/-- The line of an element's function is read with its name and both of its keys. -/
theorem readFactory?_factoryLine {f : Factory}
    (h : ∀ c ∈ f.identifier, Identifier.isAllowed c = true) :
    readFactory? (factoryLine f) = some (f.identifier, f.element, f.element) := by
  have hspace (rest : Text) : ' ' :: ("= (attribs: ElementAttribsMap[".toList ++ rest)
      = " = (attribs: ElementAttribsMap[".toList ++ rest := rfl
  simp only [readFactory?, Option.bind_eq_bind]
  rw [factoryLine_eq, Text.after?_append, Option.bind_some, Identifier.takeWhile_isAllowed h rfl,
    Identifier.dropWhile_isAllowed h rfl, hspace, Text.after?_append, Option.bind_some,
    Json.readText_quote, Except.toOption, Option.bind_some, Text.after?_append, Option.bind_some,
    Json.readText_quote, Except.toOption, Option.bind_some]
  exact if_pos rfl

/-! ### The sections of a module -/

/-- The names of the types of the elements with attributes of their own. -/
def ownTypeNames (v : Vocabulary) : List Text :=
  (v.elements.entries.filter fun e => e.2.hasOwn).map fun e => ownTypeName e.1

/-- A module declares the type of what is shared, the types of the elements and three more. -/
theorem filterMap_declaredType?_lines {entries : List (Text × Element)} {d : Declarations}
    (h : List.Forall₂ (fun e t => IsOwnType e.1 e.2 t) entries d.attributesTypes) :
    d.lines.filterMap declaredType?
      = sharedTypeName :: entries.map (fun e => ownTypeName e.1) ++ closingTypeNames := by
  have hhead : [importLine, namespaceLine d.namespaceUri, sharedOpening ++ ['\x7b']].filterMap
      declaredType? = [sharedTypeName] := rfl
  have htypes : (d.attributesTypes.map typeOpening).filterMap declaredType?
      = entries.map fun e => ownTypeName e.1 := by
    refine filterMap_eq_map_of_forall₂ (List.forall₂_map_right_iff.mpr (h.imp fun e t ht => ?_))
    rw [declaredType?_typeOpening ht.2.1, ht.2.1]
  have hmaps : [mapOpening "ElementAttribsMap", mapOpening "ElementInterfaceMap", childLine,
      createOpening].filterMap declaredType? = closingTypeNames := rfl
  have hfactories : (d.factories.map factoryLine).filterMap declaredType? = [] := by
    rw [List.filterMap_map, List.filterMap_eq_nil_iff]
    exact fun f _ => declaredType?_factoryLine f
  rw [readsMargin_declaredType?.filterMap_lines, openings, List.filterMap_append,
    List.filterMap_append, List.filterMap_append, hhead, htypes, hmaps, hfactories, List.append_nil]
  rfl

/-- Those are all different. -/
theorem nodup_declared {v : Vocabulary} (h : (v.elements.names.map Identifier.factory).Nodup) :
    (sharedTypeName :: ownTypeNames v ++ closingTypeNames).Nodup := by
  have hown : (ownTypeNames v).Nodup := by
    have hall : (v.elements.entries.map fun e => ownTypeName e.1).Nodup := by
      have hnames := nodup_ownTypeNames h
      rwa [Table.names, List.map_map] at hnames
    exact hall.sublist (List.filter_sublist.map _)
  have hfixed : fixedTypeNames.Nodup := by decide
  have hdisjoint : (ownTypeNames v).Disjoint fixedTypeNames := by
    intro name hname
    obtain ⟨e, -, rfl⟩ := List.mem_map.mp hname
    exact ownTypeName_not_mem_fixedTypeNames e.1
  exact List.perm_middle.nodup_iff.mp (hown.append hfixed hdisjoint)

/-- The sections of a module by what they are for. The two maps are given by their rows. -/
structure Layout where
  /-- the type of what all elements share -/
  shared : List Text
  /-- the types of the elements with attributes of their own -/
  types : List (List Text)
  /-- the rows of the map of attributes -/
  attributesRows : List Text
  /-- the rows of the map of interfaces -/
  interfaceRows : List Text
  /-- the functions of the elements -/
  factories : List (List Text)

namespace Layout

/-- The lines of a map with these rows. -/
def mapOf (name : String) (rows : List Text) : List Text :=
  ("export type ".toList ++ name.toList ++ " = \x7b".toList) :: rows ++ ["\x7d;".toList]

/-- The lines of a module with these sections. -/
def lines (namespaceUri : Text) (l : Layout) : List Text :=
  List.intercalate [[]]
    ([[importLine], [namespaceLine namespaceUri], l.shared] ++ l.types
      ++ [mapOf "ElementAttribsMap" l.attributesRows, mapOf "ElementInterfaceMap" l.interfaceRows,
          [childLine], createLines]
      ++ l.factories)

/-- The sections are those for a vocabulary and what its elements share. -/
structure IsFor (v : Vocabulary) (shared : Interface) (l : Layout) : Prop where
  shared : ∃ ps, shared.properties hostParameter = .ok ps ∧
    l.shared = InterfaceBody.declarationLines sharedOpening ps
  /-- the types are those of just the elements with attributes or events in their tables, and each
  stands under its heading and declares what the row of its element names -/
  types : List.Forall₂ (fun e lines => (∃ t, IsOwnType e.1 e.2 t ∧ lines = attributesTypeLines t) ∧
      lines.head? = some ("/** Attributes for the ".toList ++ e.1 ++ " element */".toList) ∧
      lines.filterMap declaredType? = [attributesType e.1 e.2])
    (v.elements.entries.filter fun e => e.2.hasOwn) l.types
  /-- each element has one row in each map, under its name -/
  attributesRows : List.Forall₂ (fun e row =>
    readBinding? ": ".toList row = some (e.1, attributesType e.1 e.2))
    v.elements.entries l.attributesRows
  interfaceRows : List.Forall₂ (fun e row => readBinding? ": ".toList row = some (e.1, e.2.host))
    v.elements.entries l.interfaceRows
  /-- and one function, behind its comment -/
  factories : List.Forall₂ (fun e lines => ∃ line,
      lines = DocComment.lines e.2.description e.2.ref [] ++ [line] ∧
      readFactory? line = some (Identifier.factory e.1, e.1, e.1))
    v.elements.entries l.factories
  /-- the type in a row is that of what is shared if both tables of the element are empty, -/
  attributesType_iff : ∀ e ∈ v.elements.entries, attributesType e.1 e.2 = sharedType e.2.host ↔
    e.2.interface.attributes.isEmpty = true ∧ e.2.interface.events.isEmpty = true
  /-- and else one that is declared once -/
  declared_once : ∀ e ∈ v.elements.entries, attributesType e.1 e.2 ≠ sharedType e.2.host →
    ((l.lines v.namespaceUri).filterMap declaredType?).count (attributesType e.1 e.2) = 1
  /-- the names of the types are those of the elements' and four others, all different -/
  declared : (l.lines v.namespaceUri).filterMap declaredType?
    = sharedTypeName :: ownTypeNames v ++ closingTypeNames
  declared_nodup : ((l.lines v.namespaceUri).filterMap declaredType?).Nodup

end Layout

/-- The sections of a module. -/
def layout (d : Declarations) : Layout where
  shared := InterfaceBody.declarationLines sharedOpening d.shared
  types := d.attributesTypes.map attributesTypeLines
  attributesRows := d.attributesRows.map fun (key, type) => bindingLine ": ".toList key type
  interfaceRows := d.interfaceRows.map fun (key, type) => bindingLine ": ".toList key type
  factories := d.factories.map factoryLines

theorem lines_layout (d : Declarations) : d.layout.lines d.namespaceUri = d.lines :=
  rfl

theorem attributesType_of_hasOwn {name : Text} {e : Element} (h : e.hasOwn = true) :
    attributesType name e = ownTypeName name :=
  if_pos h

/-- The sections of a module are those for its vocabulary. -/
theorem isFor_layout {v : Vocabulary} {shared : Interface} {d : Declarations}
    (h : ofVocabulary v shared = .ok d) : d.layout.IsFor v shared := by
  obtain ⟨hnames, ps, parts, hshared, hparts, rfl⟩ := ofVocabulary_eq_ok_iff.mp h
  have htypes := isOwnType_of_isOf hparts
  have hdeclared : (ofParts v.namespaceUri ps parts).lines.filterMap declaredType?
      = sharedTypeName :: ownTypeNames v ++ closingTypeNames :=
    filterMap_declaredType?_lines htypes
  have hnodup := nodup_declared hnames
  rw [← hdeclared] at hnodup
  exact {
    shared := ⟨ps, hshared, rfl⟩
    types := by
      have hown : ∀ e ∈ v.elements.entries.filter (fun e => e.2.hasOwn), e.2.hasOwn = true :=
        fun e he => (List.mem_filter.mp he).2
      refine List.forall₂_map_right_iff.mpr
        (((List.forall₂_and_left _ _).mpr ⟨hown, htypes⟩).imp ?_)
      rintro e t ⟨he, ht⟩
      refine ⟨⟨t, ht, rfl⟩, by rw [← ht.1]; rfl, ?_⟩
      rw [attributesType_of_hasOwn he, filterMap_declaredType?_attributesTypeLines ht.2.1, ht.2.1]
    attributesRows := by
      refine List.forall₂_map_right_iff.mpr (List.forall₂_map_right_iff.mpr (hparts.imp ?_))
      intro e part hpart
      rw [readBinding?_bindingLine, hpart.element, hpart.type]
    interfaceRows := by
      refine List.forall₂_map_right_iff.mpr (List.forall₂_map_right_iff.mpr (hparts.imp ?_))
      intro e part hpart
      rw [readBinding?_bindingLine, hpart.element, hpart.host]
    factories := by
      refine List.forall₂_map_right_iff.mpr (List.forall₂_map_right_iff.mpr (hparts.imp ?_))
      intro e part hpart
      rw [hpart.factory]
      exact ⟨_, rfl, readFactory?_factoryLine fun _ => Identifier.isAllowed_of_mem_factory⟩
    attributesType_iff := fun e _ => attributesType_eq_sharedType_iff
    declared_once := by
      intro e he hne
      have hown : e.2.hasOwn = true := by
        by_contra hnone
        exact hne (if_neg hnone)
      refine List.count_eq_one_of_mem hnodup ?_
      change _ ∈ (ofParts v.namespaceUri ps parts).lines.filterMap declaredType?
      rw [hdeclared, attributesType_of_hasOwn hown]
      have hmem : ownTypeName e.1 ∈ ownTypeNames v :=
        List.mem_map.mpr ⟨e, List.mem_filter.mpr ⟨he, hown⟩, rfl⟩
      exact List.mem_append_left _ (List.mem_cons_of_mem _ hmem)
    declared := hdeclared
    declared_nodup := hnodup }

/-- Every module that can be generated is laid out in its sections: a type for each element with
attributes or events of its own, a row in each map and a function for each element, all in the order
of the elements, and no type is named that is not declared, or declared twice. -/
theorem lines_laidOut {v : Vocabulary} {shared : Interface} {lines : List Text}
    (h : declarationLines v shared = .ok lines) :
    ∃ l : Layout, l.IsFor v shared ∧ lines = l.lines v.namespaceUri := by
  obtain ⟨d, hd, rfl⟩ := map_eq_ok_iff.mp h
  have hlayout := isFor_layout hd
  obtain ⟨-, ps, parts, -, -, rfl⟩ := ofVocabulary_eq_ok_iff.mp hd
  exact ⟨_, hlayout, (lines_layout _).symm⟩

/-- The module of two elements with an attribute of their own each. -/
theorem lines_laidOut_twoElements :
    ∃ lines, declarationLines (Vocabulary.twoElements "cite".toList).extract.1
        (Vocabulary.twoElements "cite".toList).extract.2 = .ok lines ∧
      ∃ l : Layout, l.IsFor (Vocabulary.twoElements "cite".toList).extract.1
          (Vocabulary.twoElements "cite".toList).extract.2 ∧
        lines = l.lines (Vocabulary.twoElements "cite".toList).extract.1.namespaceUri :=
  ⟨_, rfl, lines_laidOut rfl⟩

end Declarations

end DomBindings
