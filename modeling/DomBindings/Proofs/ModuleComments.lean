import DomBindings.Proofs.DocComment
import DomBindings.Proofs.Extraction
import DomBindings.Proofs.Margin
import DomBindings.Proofs.ModuleParts
import DomBindings.Vocabulary.Reader

/-!
# The comments of a module

A reader of lines finds the comments of a module by where they begin and end: a comment goes from a
line in which one begins to the next line that ends with an end mark. What it finds are the doc
comments of the properties and of the functions and the headings of the types, in order and nothing
else (`comments_lines`), since no line of a doc comment but the last holds an end mark.

Descriptions and references are escaped in a comment. The name of an element is not, in the heading
of its type. So every comment of a module ends where it is closed if no element with a type of its
own has an end mark in its name, and only then.
-/

namespace DomBindings

open Traversal

namespace DocComment

/-! ### Reading comments -/

/-- Whether a comment begins in a line, behind its indentation. -/
def opens (line : Text) : Bool :=
  "/**".toList.isPrefixOf (line.dropWhile (· = ' '))

/-- Whether a comment is closed at the end of a line. -/
def closes (line : Text) : Bool :=
  endMark.isSuffixOf line

/-- Reads the comments of lines, given the lines of the one that is open, the last first. -/
def commentsFrom : List Text → List Text → List Text
  | _, [] => []
  | pending, line :: rest =>
    if pending.isEmpty && !opens line then commentsFrom [] rest
    else if closes line then Text.joinLines (line :: pending).reverse :: commentsFrom [] rest
    else commentsFrom (line :: pending) rest

/-- Reads the comments of lines. -/
def comments (ls : List Text) : List Text :=
  commentsFrom [] ls

/-- Lines hold whole comments, whatever lines come behind them. -/
def Holds (ls cs : List Text) : Prop :=
  ∀ rest, comments (ls ++ rest) = cs ++ comments rest

namespace Holds

theorem eq {ls cs : List Text} (h : Holds ls cs) : comments ls = cs := by
  have hall := h []
  rwa [List.append_nil, show comments [] = [] from rfl, List.append_nil] at hall

theorem nil : Holds [] [] :=
  fun _ => rfl

theorem append {ls ls' cs cs' : List Text} (h : Holds ls cs) (h' : Holds ls' cs') :
    Holds (ls ++ ls') (cs ++ cs') := by
  intro rest
  rw [List.append_assoc, h, h', List.append_assoc]

/-- A line in which no comment begins holds none. -/
theorem line {l : Text} (h : opens l = false) : Holds [l] [] := by
  intro rest
  rw [comments, List.singleton_append, commentsFrom, h]
  rfl

theorem lines {ls : List Text} (h : ∀ l ∈ ls, opens l = false) : Holds ls [] := by
  induction ls with
  | nil => exact nil
  | cons l ls ih =>
    exact (line (h l List.mem_cons_self)).append
      (ih fun l' hl' => h l' (List.mem_cons_of_mem _ hl'))

/-- A comment goes on up to the line that closes it. -/
theorem commentsFrom_append {pending inner : List Text} (hpending : pending ≠ [])
    (hinner : ∀ l ∈ inner, closes l = false) {last : Text} (hlast : closes last = true)
    (rest : List Text) : commentsFrom pending (inner ++ last :: rest)
      = Text.joinLines (pending.reverse ++ inner ++ [last]) :: comments rest := by
  have hopen : ∀ pending' : List Text, pending' ≠ [] → ∀ l,
      (pending'.isEmpty && !opens l) = false := by
    intro pending' hne l
    rw [List.isEmpty_eq_false_iff.mpr hne, Bool.false_and]
  induction inner generalizing pending with
  | nil =>
    rw [List.nil_append, commentsFrom, hopen pending hpending, if_neg Bool.false_ne_true,
      if_pos hlast, List.append_nil, List.reverse_cons]
    rfl
  | cons l inner ih =>
    rw [List.cons_append, commentsFrom, hopen pending hpending, if_neg Bool.false_ne_true,
      hinner l List.mem_cons_self, if_neg Bool.false_ne_true,
      ih (List.cons_ne_nil _ _) fun l' hl' => hinner l' (List.mem_cons_of_mem _ hl'),
      List.reverse_cons]
    simp only [List.append_assoc, List.singleton_append]

/-- A comment in several lines. -/
theorem block {first last : Text} {inner : List Text} (hopens : opens first = true)
    (hfirst : closes first = false) (hinner : ∀ l ∈ inner, closes l = false)
    (hlast : closes last = true) :
    Holds (first :: inner ++ [last]) [Text.joinLines (first :: inner ++ [last])] := by
  intro rest
  have hbegin : comments (first :: (inner ++ last :: rest))
      = commentsFrom [first] (inner ++ last :: rest) := by
    rw [comments, commentsFrom, hopens, hfirst]
    rfl
  rw [List.append_assoc, List.cons_append, List.singleton_append, hbegin,
    commentsFrom_append (List.cons_ne_nil _ _) hinner hlast]
  rfl

/-- A comment in one line. -/
theorem oneLine {l : Text} (hopens : opens l = true) (hcloses : closes l = true) :
    Holds [l] [l] := by
  intro rest
  rw [comments, List.singleton_append, commentsFrom, hopens, hcloses]
  simp [Text.joinLines, comments]

/-- Sections of lines, with a line between two of them in which no comment begins. -/
theorem intercalate {separator : Text} (hseparator : opens separator = false)
    {lss css : List (List Text)} (h : List.Forall₂ Holds lss css) :
    Holds (List.intercalate [separator] lss) css.flatten := by
  induction h with
  | nil => exact nil
  | @cons ls cs lss css hls hlss ih =>
    cases lss with
    | nil =>
      obtain rfl := List.forall₂_nil_left_iff.mp hlss
      simpa using hls
    | cons ls' lss =>
      rw [List.intercalate_cons_cons, List.flatten_cons]
      have hall := (hls.append (line hseparator)).append ih
      rwa [List.append_nil] at hall

end Holds

/-- A text without an end mark closes no comment. -/
theorem closes_eq_false {l : Text} (h : NoEnd l) : closes l = false := by
  rw [← Bool.not_eq_true, closes, List.isSuffixOf_iff_suffix]
  exact fun hsuffix => h hsuffix.isInfix

/-- The indentation does not matter for where a comment begins. -/
theorem opens_indented {indent : Text} (hindent : ∀ c ∈ indent, c = ' ') (s : Text) :
    opens (indent ++ s) = opens s := by
  rw [opens, opens, List.dropWhile_append_of_pos fun c hc => by simpa using hindent c hc]

/-- The lines of a doc comment hold that comment, whatever it says. -/
theorem holds_lines {indent : Text} (hindent : ∀ c ∈ indent, c = ' ') (description ref : Text) :
    Holds (lines description ref indent) [text description ref indent] := by
  obtain ⟨inner, hlines⟩ : ∃ inner, lines description ref indent
      = Text.trimEnd (indent ++ "/** ".toList ++ escape description) :: inner
        ++ [indent ++ " */".toList] := ⟨_, rfl⟩
  have hfirst : Text.trimEnd (indent ++ "/** ".toList ++ escape description)
      = indent ++ ("/**".toList ++ Text.trimEnd (' ' :: escape description)) := by
    have htrim := Text.trimEnd_append_cons (indent ++ "/*".toList) (show Text.isBlank '*' = false by
      decide) (' ' :: escape description)
    simpa [List.append_assoc] using htrim
  have hdrop : (lines description ref indent).dropLast
      = Text.trimEnd (indent ++ "/** ".toList ++ escape description) :: inner := by
    rw [hlines, List.dropLast_concat]
  have hopen : ∀ l ∈ Text.trimEnd (indent ++ "/** ".toList ++ escape description) :: inner,
      closes l = false := fun l hl => closes_eq_false (noEnd_of_mem_lines hindent (hdrop ▸ hl))
  rw [text, hlines]
  refine .block ?_ (hopen _ List.mem_cons_self)
    (fun l hl => hopen l (List.mem_cons_of_mem _ hl)) ?_
  · rw [hfirst, opens_indented hindent]
    rfl
  · rw [closes, List.isSuffixOf_iff_suffix]
    exact ⟨indent ++ [' '], List.append_assoc _ _ _⟩

end DocComment

/-- The indentation of the comment of a property is made of blanks. -/
theorem Property.eq_of_mem_indent (c : Char) (h : c ∈ "  ".toList) : c = ' ' :=
  List.eq_of_mem_replicate (show c ∈ List.replicate 2 ' ' from h)

/-- The comment of a property. -/
def Property.comment (p : Property) : Text :=
  DocComment.text p.description p.ref "  ".toList

namespace Declarations

/-- The heading of the type of an element. -/
def heading (element : Text) : Text :=
  "/** Attributes for the ".toList ++ element ++ " element */".toList

/-- The comments of the type of an element's own attributes. -/
def typeComments (t : AttributesType) : List Text :=
  heading t.element :: t.properties.map Property.comment

open DocComment

theorem holds_declarationLines {opening : Text} (hopening : opens (opening ++ ['\x7b']) = false)
    (ps : List Property) :
    Holds (InterfaceBody.declarationLines opening ps) (ps.map Property.comment) := by
  have hproperty (p : Property) : Holds p.lines [p.comment] :=
    (holds_lines Property.eq_of_mem_indent p.description p.ref).append
      (Holds.line (l := p.line) rfl)
  have hinner : Holds (InterfaceBody.innerLines ps) (ps.map Property.comment) := by
    have hall : List.Forall₂ Holds (ps.map Property.lines) (ps.map fun p => [p.comment]) :=
      List.forall₂_map_left_iff.mpr (List.forall₂_map_right_iff.mpr
        (List.forall₂_same.mpr fun p _ => hproperty p))
    have hflat : (ps.map fun p => [p.comment]).flatten = ps.map Property.comment := by
      rw [← List.flatMap_def]
      exact List.map_eq_flatMap.symm
    exact hflat ▸ Holds.intercalate rfl hall
  have hclosing : Holds ["\x7d;".toList] [] := .line rfl
  have hlines := ((Holds.line hopening).append hinner).append hclosing
  rwa [List.nil_append, List.append_nil] at hlines

theorem holds_attributesTypeLines (t : AttributesType) :
    Holds (attributesTypeLines t) (typeComments t) := by
  have hheading : Holds [heading t.element] [heading t.element] := by
    refine .oneLine rfl (List.isSuffixOf_iff_suffix.mpr ?_)
    exact ⟨"/** Attributes for the ".toList ++ t.element ++ " element ".toList,
      List.append_assoc _ _ _⟩
  exact hheading.append (holds_declarationLines rfl t.properties)

theorem holds_mapLines (name : String) (rows : List (Text × Text)) :
    Holds (mapLines name rows) [] := by
  refine .lines fun l hl => ?_
  rw [mapLines, List.cons_append, List.mem_cons, List.mem_append, List.mem_map,
    List.mem_singleton] at hl
  rcases hl with rfl | ⟨row, -, rfl⟩ | rfl <;> rfl

theorem holds_factoryLines (f : Factory) :
    Holds (factoryLines f) [DocComment.text f.description f.ref []] :=
  (holds_lines (by simp) f.description f.ref).append (.line rfl)

/-- The comments of a module are those of its properties, its types and its functions. -/
theorem comments_lines (d : Declarations) : comments d.lines
    = d.shared.map Property.comment ++ d.attributesTypes.flatMap typeComments
      ++ d.factories.map fun f => DocComment.text f.description f.ref [] := by
  have hhead : List.Forall₂ Holds
      [[importLine], [namespaceLine d.namespaceUri],
        InterfaceBody.declarationLines sharedOpening d.shared]
      [[], [], d.shared.map Property.comment] :=
    .cons (.line rfl) (.cons (.line rfl) (.cons (holds_declarationLines rfl d.shared) .nil))
  have htypes : List.Forall₂ Holds (d.attributesTypes.map attributesTypeLines)
      (d.attributesTypes.map typeComments) :=
    List.forall₂_map_left_iff.mpr (List.forall₂_map_right_iff.mpr
      (List.forall₂_same.mpr fun t _ => holds_attributesTypeLines t))
  have hcreate : createLines.all (fun l => !opens l) = true := by decide +kernel
  have hmaps : List.Forall₂ Holds
      [mapLines "ElementAttribsMap" d.attributesRows, mapLines "ElementInterfaceMap"
        d.interfaceRows, [childLine], createLines] [[], [], [], []] :=
    .cons (holds_mapLines _ _) (.cons (holds_mapLines _ _) (.cons (.line rfl)
      (.cons (.lines fun l hl => by simpa using List.all_eq_true.mp hcreate l hl) .nil)))
  have hfactories : List.Forall₂ Holds (d.factories.map factoryLines)
      (d.factories.map fun f => [DocComment.text f.description f.ref []]) :=
    List.forall₂_map_left_iff.mpr (List.forall₂_map_right_iff.mpr
      (List.forall₂_same.mpr fun f _ => holds_factoryLines f))
  have hall := @Holds.intercalate [] rfl _ _
    (List.rel_append (List.rel_append (List.rel_append hhead htypes) hmaps) hfactories)
  rw [lines, sections, hall.eq]
  simp only [List.flatten_append, List.flatten_cons, List.flatten_nil, List.nil_append,
    List.append_nil, ← List.flatMap_def]
  rw [← List.map_eq_flatMap]

/-- The heading of a type ends where it is closed if the name of the element holds no end mark. -/
theorem endsOnce_heading_iff {element : Text} : EndsOnce (heading element) ↔ NoEnd element := by
  have hheading : heading element
      = "/** Attributes for the ".toList ++ (element ++ " element ".toList) ++ endMark :=
    calc heading element
      _ = "/** Attributes for the ".toList ++ element ++ (" element ".toList ++ endMark) := rfl
      _ = _ := by simp only [List.append_assoc]
  have hopening : NoEnd "/** Attributes for the ".toList := by decide +kernel
  have hclosing : NoEnd " element ".toList := by decide +kernel
  have hlast : "/** Attributes for the ".toList.getLast? ≠ some '*' := by decide +kernel
  have hhead : " element ".toList.head? ≠ some '/' := by decide +kernel
  rw [hheading, endsOnce_append_endMark_iff, noEnd_append_iff, noEnd_append_iff]
  exact ⟨fun h => h.2.1.1, fun h => ⟨hopening, ⟨h, hclosing, fun hs => hhead hs.2⟩,
    fun hs => hlast hs.1⟩⟩

end Declarations

/-! ### The comments of a vocabulary -/

/-- The doc comments of the attributes and events of an interface, in the order of their names. -/
def Interface.docComments (i : Interface) : List Text :=
  i.attributes.byName.map (fun e => DocComment.text e.2.description e.2.ref "  ".toList)
    ++ i.events.byName.map fun e => DocComment.text e.2.description e.2.ref "  ".toList

theorem Interface.comments_of_properties {i : Interface} {host : Text} {ps : List Property}
    (h : i.properties host = .ok ps) : ps.map Property.comment = i.docComments := by
  obtain ⟨as, has, rfl⟩ := properties_eq_ok_iff.mp h
  rw [List.map_append, docComments, eventProperties, List.map_map]
  congr 1
  refine map_eq_of_mapM_eq_ok (fun e p hp => ?_) has
  obtain ⟨-, type, -, rfl⟩ := Property.ofAttribute_eq_ok_iff.mp hp
  rfl

namespace Vocabulary

/-- The comments of the module of a vocabulary and of what its elements share: those of what is
shared, those of the types of the elements, each under its heading, and those of the functions. -/
def comments (v : Vocabulary) (shared : Interface) : List Text :=
  shared.docComments
    ++ (v.elements.entries.filter fun e => e.2.hasOwn).flatMap (fun e =>
      Declarations.heading e.1 :: e.2.interface.docComments)
    ++ v.elements.entries.map fun e => DocComment.text e.2.description e.2.ref []

theorem comments_of_declarationLines {v : Vocabulary} {shared : Interface} {lines : List Text}
    (h : declarationLines v shared = .ok lines) :
    DocComment.comments lines = v.comments shared := by
  obtain ⟨d, hd, rfl⟩ := map_eq_ok_iff.mp h
  obtain ⟨-, ps, parts, hps, hparts, rfl⟩ := Declarations.ofVocabulary_eq_ok_iff.mp hd
  have htypes : (parts.filterMap ElementPart.ownType).map Declarations.typeComments
      = (v.elements.entries.filter fun e => e.2.hasOwn).map fun e =>
        Declarations.heading e.1 :: e.2.interface.docComments := by
    refine map_eq_of_forall₂ (fun e t ht => ?_) (Declarations.isOwnType_of_isOf hparts)
    obtain ⟨helement, -, -, hproperties⟩ := ht
    rw [Declarations.typeComments, helement, Interface.comments_of_properties hproperties]
  have hfactories : (parts.map ElementPart.factory).map
        (fun f => DocComment.text f.description f.ref [])
      = v.elements.entries.map fun e => DocComment.text e.2.description e.2.ref [] := by
    rw [List.map_map]
    exact map_eq_of_forall₂ (fun e part hpart => by
      rw [Function.comp_apply, hpart.factory]) hparts
  rw [Declarations.comments_lines]
  simp only [Declarations.ofParts]
  rw [Interface.comments_of_properties hps, List.flatMap_def, htypes, hfactories, comments,
    List.flatMap_def]

/-- The comments of a module are those of its vocabulary, and each ends where it is closed, but for
the headings of types of elements with an end mark in their names. -/
theorem comments_endOnce_iff {v : Vocabulary} {lines : List Text}
    (h : declarationLines v.extract.1 v.extract.2 = .ok lines) :
    DocComment.comments lines = v.extract.1.comments v.extract.2 ∧
      ∀ comment ∈ DocComment.comments lines, DocComment.EndsOnce comment ↔
        ¬ ∃ e ∈ v.extract.1.elements.entries, e.2.hasOwn = true ∧
          comment = Declarations.heading e.1 ∧ DocComment.endMark <:+: e.1 := by
  have hcomments := comments_of_declarationLines h
  have hdocs : ∀ i : Interface, ∀ comment ∈ i.docComments, DocComment.EndsOnce comment := by
    intro i comment hcomment
    rcases List.mem_append.mp hcomment with hcomment | hcomment
    all_goals
      obtain ⟨e, -, rfl⟩ := List.mem_map.mp hcomment
      exact DocComment.endsOnce_text Property.eq_of_mem_indent _ _
  refine ⟨hcomments, fun comment hcomment => ⟨?_, fun hnone => ?_⟩⟩
  · rintro hends ⟨e, -, -, rfl, hmark⟩
    exact Declarations.endsOnce_heading_iff.mp hends hmark
  · rw [hcomments, comments, List.mem_append, List.mem_append] at hcomment
    rcases hcomment with (hcomment | hcomment) | hcomment
    · exact hdocs _ _ hcomment
    · obtain ⟨e, he, hcomment⟩ := List.mem_flatMap.mp hcomment
      obtain ⟨helement, hown⟩ := List.mem_filter.mp he
      rcases List.mem_cons.mp hcomment with rfl | hcomment
      · exact Declarations.endsOnce_heading_iff.mpr fun hmark =>
          hnone ⟨e, helement, hown, rfl, hmark⟩
      · exact hdocs _ _ hcomment
    · obtain ⟨e, -, rfl⟩ := List.mem_map.mp hcomment
      exact DocComment.endsOnce_text (by simp) _ _

/-- So it is for two elements with a type of their own each. -/
theorem comments_endOnce_iff_twoElements :
    ∃ lines, declarationLines (twoElements "cite".toList).extract.1
        (twoElements "cite".toList).extract.2 = .ok lines ∧
      DocComment.comments lines = (twoElements "cite".toList).extract.1.comments
        (twoElements "cite".toList).extract.2 ∧
      ∀ comment ∈ DocComment.comments lines, DocComment.EndsOnce comment ↔
        ¬ ∃ e ∈ (twoElements "cite".toList).extract.1.elements.entries, e.2.hasOwn = true ∧
          comment = Declarations.heading e.1 ∧ DocComment.endMark <:+: e.1 :=
  ⟨_, rfl, comments_endOnce_iff rfl⟩

/-- A document with an element that has an end mark in its name and an attribute of its own. -/
def documentWithEndMark : Value :=
  .map [(.text "namespace".toList, .text "urn:x".toList),
    (.text "elements".toList, .map [
      (.text "a*/b".toList, .map [(.text "interface".toList, .text "HTMLElement".toList),
        (.text "attributes".toList, .map [
          (.text "cite".toList, .map [(.text "values".toList, .text "x".toList)])])]),
      (.text "p".toList, .map [(.text "interface".toList, .text "HTMLElement".toList)])])]

/-- The vocabulary of that document. -/
def vocabularyWithEndMark : Vocabulary where
  namespaceUri := "urn:x".toList
  version := ⟨[], []⟩
  elements := .ofList [
    ("a*/b".toList, ⟨[], [], "HTMLElement".toList,
      ⟨.ofList [("cite".toList, ⟨[], [], .literal "x".toList false⟩)], .empty⟩⟩),
    ("p".toList, ⟨[], [], "HTMLElement".toList, .empty⟩)]

/-- It is read, and its module is generated, in which the heading of a type is closed before its
end. -/
theorem comments_not_endOnce_endMark :
    ofValue documentWithEndMark = .ok vocabularyWithEndMark ∧
      ∃ lines, declarationLines vocabularyWithEndMark.extract.1 vocabularyWithEndMark.extract.2
          = .ok lines ∧
        ∃ comment ∈ DocComment.comments lines, ¬ DocComment.EndsOnce comment := by
  obtain ⟨lines, h⟩ : ∃ lines, declarationLines vocabularyWithEndMark.extract.1
      vocabularyWithEndMark.extract.2 = .ok lines := ⟨_, rfl⟩
  refine ⟨rfl, lines, h, Declarations.heading "a*/b".toList, ?_, fun hends => ?_⟩
  · rw [comments_of_declarationLines h]
    exact List.mem_cons_self
  · exact Declarations.endsOnce_heading_iff.mp hends (by decide)

end Vocabulary

end DomBindings
