import DomBindings.Proofs.Extraction
import DomBindings.Proofs.Identifier
import DomBindings.Proofs.Margin
import DomBindings.Proofs.ModuleParts
import DomBindings.Vocabulary.Reader

/-!
# The names of values

A module binds three values whatever its vocabulary is: the imported function, the identifier of the
document language, and the function that makes any element. The functions of the elements come
behind them, and only those are compared with each other before a module is generated. So the names
of the values are distinct exactly when no element has one of the three names, and a document with
such an element is accepted all the same. That it must have the name itself is because none of the
three is changed or made by the rules for identifiers (`factory_mem_fixedValueNames_iff`).
-/

namespace DomBindings

open Traversal

namespace Declarations

/-- Reads the name of the value that a line binds: a constant that is exported, or what is imported
under another name. -/
def boundValue? (line : Text) : Option Text :=
  ((Text.after? "export const ".toList line).or
    (Text.after? "import \x7b EventHandler, create as ".toList line)).map
      (·.takeWhile Identifier.isAllowed)

/-- The names of the values that every module binds. -/
def fixedValueNames : List Text :=
  ["domCreate".toList, "domNamespace".toList, "create".toList]

theorem readsMargin_boundValue? : ReadsMargin boundValue? :=
  .of_beginnings rfl (fun _ => rfl) (fun _ => rfl) (fun _ => rfl) (fun _ => rfl)

theorem boundValue?_const (rest : Text) :
    boundValue? ("export const ".toList ++ rest) = some (rest.takeWhile Identifier.isAllowed) :=
  rfl

/-- The line of a function binds its identifier, -/
theorem boundValue?_factoryLine {f : Factory}
    (h : ∀ c ∈ f.identifier, Identifier.isAllowed c = true) :
    boundValue? (factoryLine f) = some f.identifier := by
  rw [factoryLine_eq, boundValue?_const, Identifier.takeWhile_isAllowed h rfl]

/-- and that of a type binds no value. -/
theorem boundValue?_typeOpening (t : AttributesType) : boundValue? (typeOpening t) = none := by
  rw [typeOpening_eq]
  rfl

/-- A module binds the three names and behind them the identifiers of its functions. -/
theorem filterMap_boundValue?_lines {v : Vocabulary} {shared : Interface} {d : Declarations}
    (h : ofVocabulary v shared = .ok d) :
    d.lines.filterMap boundValue? = fixedValueNames ++ v.elements.names.map Identifier.factory := by
  obtain ⟨-, ps, parts, -, hparts, rfl⟩ := ofVocabulary_eq_ok_iff.mp h
  have htypes :
      ((parts.filterMap ElementPart.ownType).map typeOpening).filterMap boundValue? = [] := by
    rw [List.filterMap_map, List.filterMap_eq_nil_iff]
    exact fun t _ => boundValue?_typeOpening t
  have hfactories : ((parts.map ElementPart.factory).map factoryLine).filterMap boundValue?
      = v.elements.entries.map fun e => Identifier.factory e.1 := by
    refine filterMap_eq_map_of_forall₂ (List.forall₂_map_right_iff.mpr
      (List.forall₂_map_right_iff.mpr (hparts.imp ?_)))
    intro e part hpart
    rw [hpart.factory]
    exact boundValue?_factoryLine fun _ => Identifier.isAllowed_of_mem_factory
  have hhead : [importLine, namespaceLine v.namespaceUri, sharedOpening ++ ['\x7b']].filterMap
      boundValue? = ["domCreate".toList, "domNamespace".toList] := rfl
  have hmaps : [mapOpening "ElementAttribsMap", mapOpening "ElementInterfaceMap", childLine,
      createOpening].filterMap boundValue? = ["create".toList] := rfl
  rw [readsMargin_boundValue?.filterMap_lines, openings, ofParts]
  simp only [List.filterMap_append]
  rw [hhead, htypes, hmaps, hfactories, Table.names, List.map_map]
  rfl

/-- An element has the identifier of a fixed name just if it has this name itself. -/
theorem factory_mem_fixedValueNames_iff {name : Text} :
    Identifier.factory name ∈ fixedValueNames ↔ name ∈ fixedValueNames := by
  have hnoLine : fixedValueNames.all (fun fixed => !fixed.contains '_') = true := rfl
  have hkept : fixedValueNames.map Identifier.factory = fixedValueNames := rfl
  constructor
  · intro h
    have hline := List.all_eq_true.mp hnoLine _ h
    rw [Bool.not_eq_true', List.contains_eq_mem, decide_eq_false_iff_not] at hline
    rw [Identifier.eq_of_factory_eq rfl hline]
    exact h
  · intro h
    rw [← hkept]
    exact List.mem_map_of_mem h

end Declarations

namespace Vocabulary

/-- The values that a module binds have different names if no element has one of the names that
every module binds, and only then; the functions of the elements among themselves always do. -/
theorem valueNames_nodup_iff {v : Vocabulary} {lines : List Text}
    (h : declarationLines v.extract.1 v.extract.2 = .ok lines) :
    lines.filterMap Declarations.boundValue?
        = Declarations.fixedValueNames ++ v.elements.names.map Identifier.factory ∧
      (v.elements.names.map Identifier.factory).Nodup ∧
      ((lines.filterMap Declarations.boundValue?).Nodup ↔
        ∀ name ∈ Declarations.fixedValueNames, v.elements.contains name = false) := by
  obtain ⟨d, hd, rfl⟩ := map_eq_ok_iff.mp h
  have hnames : v.extract.1.elements.names = v.elements.names := Table.names_map _ _
  have hread := Declarations.filterMap_boundValue?_lines hd
  obtain ⟨hnodup, -⟩ := Declarations.ofVocabulary_eq_ok_iff.mp hd
  rw [hnames] at hread hnodup
  have hfixed : Declarations.fixedValueNames.Nodup := by decide
  refine ⟨hread, hnodup, ?_⟩
  rw [hread, List.nodup_append]
  constructor
  · rintro ⟨-, -, hdisjoint⟩ name hname
    refine Bool.eq_false_iff.mpr fun hcontains => ?_
    have helement : name ∈ v.elements.names := Table.mem_names_iff_contains.mpr hcontains
    exact hdisjoint _ (Declarations.factory_mem_fixedValueNames_iff.mpr hname) _
      (List.mem_map_of_mem helement) rfl
  · refine fun hnone => ⟨hfixed, hnodup, ?_⟩
    rintro fixed hmem _ hfactory rfl
    obtain ⟨name, hname, rfl⟩ := List.mem_map.mp hfactory
    have hcontains := hnone name (Declarations.factory_mem_fixedValueNames_iff.mp hmem)
    rw [Table.mem_names_iff_contains, hcontains] at hname
    cases hname

/-- So they have for two elements of other names. -/
theorem valueNames_nodup_iff_twoElements :
    ∃ lines, declarationLines (twoElements "cite".toList).extract.1
        (twoElements "cite".toList).extract.2 = .ok lines ∧
      lines.filterMap Declarations.boundValue? = Declarations.fixedValueNames
        ++ (twoElements "cite".toList).elements.names.map Identifier.factory ∧
      ((twoElements "cite".toList).elements.names.map Identifier.factory).Nodup ∧
      ((lines.filterMap Declarations.boundValue?).Nodup ↔
        ∀ name ∈ Declarations.fixedValueNames,
          (twoElements "cite".toList).elements.contains name = false) :=
  ⟨_, rfl, valueNames_nodup_iff rfl⟩

/-- A document with an element that is named as the function that makes any element. -/
def documentWithCreate : Value :=
  .map [(.text "namespace".toList, .text "urn:x".toList),
    (.text "elements".toList, .map [(.text "create".toList,
      .map [(.text "interface".toList, .text "HTMLElement".toList)])])]

/-- The vocabulary of that document. -/
def vocabularyWithCreate : Vocabulary where
  namespaceUri := "urn:x".toList
  version := ⟨[], []⟩
  elements := .ofList [("create".toList, ⟨[], [], "HTMLElement".toList, .empty⟩)]

/-- It is read, and its module is generated, which gives two values one name. -/
theorem valueNames_not_nodup_create :
    ofValue documentWithCreate = .ok vocabularyWithCreate ∧
      ∃ lines, declarationLines vocabularyWithCreate.extract.1 vocabularyWithCreate.extract.2
          = .ok lines ∧
        ¬ (lines.filterMap Declarations.boundValue?).Nodup := by
  obtain ⟨lines, h⟩ : ∃ lines, declarationLines vocabularyWithCreate.extract.1
      vocabularyWithCreate.extract.2 = .ok lines := ⟨_, rfl⟩
  refine ⟨rfl, lines, h, fun hnodup => ?_⟩
  obtain ⟨d, hd, rfl⟩ := map_eq_ok_iff.mp h
  have hfixed : "create".toList ∈ Declarations.fixedValueNames :=
    List.mem_cons_of_mem _ (List.mem_cons_of_mem _ List.mem_cons_self)
  have hfactory : "create".toList
      ∈ vocabularyWithCreate.extract.1.elements.names.map Identifier.factory :=
    List.mem_map.mpr ⟨"create".toList, List.mem_cons_self, rfl⟩
  rw [Declarations.filterMap_boundValue?_lines hd] at hnodup
  exact (List.nodup_append.mp hnodup).2.2 _ hfixed _ hfactory rfl

end Vocabulary

end DomBindings
