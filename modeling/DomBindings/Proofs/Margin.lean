import DomBindings.Proofs.Lines
import DomBindings.Proofs.Traversal

/-!
# What stands at the margin

A module declares types and constants in lines that begin at the margin. The lines of a type are
indented, those of a comment begin as a comment does, and an empty line stands between two sections.
A reader that looks for declarations passes over all these (`ReadsMargin`), and so what it reads
from a module is what it reads from the lines in which declarations begin (`filterMap_lines`).
-/

namespace DomBindings

open Traversal

/-- Whether a line is empty, indented, part of a comment, or the end of a declaration. -/
def opensNothing : Text → Bool
  | [] => true
  | c :: _ => [' ', '/', '\x7d', ')'].contains c

/-- A reader of lines that reads nothing where no declaration begins. -/
def ReadsMargin {β : Type} (f : Text → Option β) : Prop :=
  ∀ line, opensNothing line = true → f line = none

theorem ReadsMargin.of_beginnings {β : Type} {f : Text → Option β} (hempty : f [] = none)
    (hspace : ∀ rest, f (' ' :: rest) = none) (hslash : ∀ rest, f ('/' :: rest) = none)
    (hbrace : ∀ rest, f ('\x7d' :: rest) = none) (hparenthesis : ∀ rest, f (')' :: rest) = none) :
    ReadsMargin f := by
  intro line hline
  cases line with
  | nil => exact hempty
  | cons c rest =>
    have hc : c ∈ [' ', '/', '\x7d', ')'] := List.contains_iff_mem.mp hline
    simp only [List.mem_cons, List.not_mem_nil, or_false] at hc
    rcases hc with rfl | rfl | rfl | rfl
    · exact hspace rest
    · exact hslash rest
    · exact hbrace rest
    · exact hparenthesis rest

/-- No declaration begins in a comment. -/
theorem DocComment.opensNothing_of_mem_lines {description ref indent line : Text}
    (hindent : opensNothing indent = true) (h : line ∈ DocComment.lines description ref indent) :
    opensNothing line = true := by
  obtain ⟨rest, hline⟩ := begins_of_mem_lines h
  cases indent with
  | nil => rcases hline with rfl | rfl <;> rfl
  | cons c indent => rcases hline with rfl | rfl <;> exact hindent

/-- Nor does one in a property. -/
theorem Property.opensNothing_of_mem_lines {p : Property} {line : Text} (h : line ∈ p.lines) :
    opensNothing line = true := by
  rcases List.mem_append.mp h with h | h
  · exact DocComment.opensNothing_of_mem_lines rfl h
  · obtain rfl := List.mem_singleton.mp h
    rfl

namespace Declarations

/-- The line in which the type of an element's own attributes begins. -/
def typeOpening (t : AttributesType) : Text :=
  "export type ".toList ++ t.name ++ " = ".toList ++ sharedType t.host ++ " & ".toList ++ ['\x7b']

/-- The line in which a map begins. -/
def mapOpening (name : String) : Text :=
  "export type ".toList ++ name.toList ++ " = \x7b".toList

/-- The line in which the function that makes any element begins. -/
def createOpening : Text :=
  "export const create = <Name extends keyof ElementInterfaceMap>(".toList

/-- The line of the function that makes an element. -/
def factoryLine (f : Factory) : Text :=
  "export const ".toList ++ f.identifier ++ " = (attribs: ElementAttribsMap[".toList
    ++ Text.quote f.element ++ "], ...childs: Child[]) => create(".toList ++ Text.quote f.element
    ++ ", attribs, ...childs);".toList

theorem typeOpening_eq (t : AttributesType) :
    typeOpening t = "export type ".toList ++ (t.name
      ++ ' ' :: ("= ".toList ++ (sharedType t.host ++ (" & ".toList ++ ['\x7b'])))) := by
  have hspace (rest : Text) : " = ".toList ++ rest = ' ' :: ("= ".toList ++ rest) := rfl
  unfold typeOpening
  simp only [List.append_assoc, hspace, List.cons_append]

theorem factoryLine_eq (f : Factory) :
    factoryLine f = "export const ".toList ++ (f.identifier
      ++ ' ' :: ("= (attribs: ElementAttribsMap[".toList ++ (Text.quote f.element
        ++ ("], ...childs: Child[]) => create(".toList ++ (Text.quote f.element
          ++ ", attribs, ...childs);".toList))))) := by
  have hspace (rest : Text) : " = (attribs: ElementAttribsMap[".toList ++ rest
      = ' ' :: ("= (attribs: ElementAttribsMap[".toList ++ rest) := rfl
  unfold factoryLine
  simp only [List.append_assoc, hspace, List.cons_append]

/-- The lines of a module in which declarations begin. -/
def openings (d : Declarations) : List Text :=
  [importLine, namespaceLine d.namespaceUri, sharedOpening ++ ['\x7b']]
    ++ d.attributesTypes.map typeOpening
    ++ [mapOpening "ElementAttribsMap", mapOpening "ElementInterfaceMap", childLine, createOpening]
    ++ d.factories.map factoryLine

end Declarations

namespace ReadsMargin

variable {β : Type} {f : Text → Option β}

/-- Nothing is read from lines in which no declaration begins. -/
theorem filterMap_eq_nil (hf : ReadsMargin f) {lines : List Text}
    (h : ∀ line ∈ lines, opensNothing line = true) : lines.filterMap f = [] :=
  List.filterMap_eq_nil_iff.mpr fun line hline => hf line (h line hline)

/-- So nothing is read from the properties of a type. -/
theorem filterMap_innerLines (hf : ReadsMargin f) (ps : List Property) :
    (InterfaceBody.innerLines ps).filterMap f = [] := by
  rw [InterfaceBody.innerLines, filterMap_intercalate (hf [] rfl), List.flatMap_eq_nil_iff]
  intro lines hlines
  obtain ⟨p, -, rfl⟩ := List.mem_map.mp hlines
  exact hf.filterMap_eq_nil fun _ => Property.opensNothing_of_mem_lines

theorem filterMap_declarationLines (hf : ReadsMargin f) (opening : Text) (ps : List Property) :
    (InterfaceBody.declarationLines opening ps).filterMap f = (f (opening ++ ['\x7b'])).toList := by
  rw [InterfaceBody.declarationLines, List.cons_append, filterMap_cons_toList,
    List.filterMap_append, hf.filterMap_innerLines,
    List.filterMap_cons_none (hf "\x7d;".toList rfl)]
  exact List.append_nil _

theorem filterMap_attributesTypeLines (hf : ReadsMargin f) (t : AttributesType) :
    (Declarations.attributesTypeLines t).filterMap f = (f (Declarations.typeOpening t)).toList := by
  have hheading :
      f ("/** Attributes for the ".toList ++ t.element ++ " element */".toList) = none := hf _ rfl
  rw [Declarations.attributesTypeLines, List.filterMap_cons_none hheading,
    hf.filterMap_declarationLines]
  rfl

theorem filterMap_mapLines (hf : ReadsMargin f) (name : String) (rows : List (Text × Text)) :
    (Declarations.mapLines name rows).filterMap f = (f (Declarations.mapOpening name)).toList := by
  have hrows (row : Text × Text → Text) (hrow : ∀ entry, opensNothing (row entry) = true) :
      (rows.map row).filterMap f = [] := by
    refine hf.filterMap_eq_nil fun line hline => ?_
    obtain ⟨entry, -, rfl⟩ := List.mem_map.mp hline
    exact hrow entry
  rw [Declarations.mapLines, List.cons_append, filterMap_cons_toList, List.filterMap_append,
    hrows _ fun _ => rfl, List.filterMap_cons_none (hf "\x7d;".toList rfl)]
  exact List.append_nil _

theorem filterMap_createLines (hf : ReadsMargin f) :
    Declarations.createLines.filterMap f = (f Declarations.createOpening).toList := by
  have hcreate : Declarations.createLines
      = Declarations.createOpening :: Declarations.createLines.tail := rfl
  have hothers : Declarations.createLines.tail.all opensNothing = true := rfl
  rw [hcreate, filterMap_cons_toList, hf.filterMap_eq_nil (List.all_eq_true.mp hothers),
    List.append_nil]

theorem filterMap_factoryLines (hf : ReadsMargin f) (factory : Factory) :
    (Declarations.factoryLines factory).filterMap f
      = (f (Declarations.factoryLine factory)).toList := by
  have hcomment : (DocComment.lines factory.description factory.ref []).filterMap f = [] :=
    hf.filterMap_eq_nil fun _ => DocComment.opensNothing_of_mem_lines rfl
  rw [Declarations.factoryLines, List.filterMap_append, hcomment, List.nil_append,
    filterMap_cons_toList]
  exact List.append_nil _

/-- What is read from a module is read from the lines in which declarations begin. -/
theorem filterMap_lines (hf : ReadsMargin f) (d : Declarations) :
    d.lines.filterMap f = d.openings.filterMap f := by
  rw [Declarations.lines, filterMap_intercalate (hf [] rfl), Declarations.sections,
    Declarations.openings, List.filterMap_eq_flatMap_toList]
  simp only [List.flatMap_append, List.flatMap_map, List.flatMap_cons, List.flatMap_nil,
    hf.filterMap_declarationLines, hf.filterMap_attributesTypeLines, hf.filterMap_mapLines,
    hf.filterMap_createLines, hf.filterMap_factoryLines, filterMap_cons_toList, List.filterMap_nil,
    List.append_nil]

end ReadsMargin

end DomBindings
