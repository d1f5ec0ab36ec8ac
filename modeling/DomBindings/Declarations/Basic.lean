import DomBindings.Declarations.InterfaceBody
import DomBindings.Identifier
import DomBindings.Vocabulary.Extraction

/-!
# The declarations of a vocabulary

The module that is generated from a vocabulary: the type of the attributes that all elements share,
a type for each element with attributes of its own, two types that map the names of elements to
their attributes and interfaces, a function that makes any element, and one function for each
element.

The module is first a `Declarations` value, whose parts are what the sections of the text say, and
its lines are made of that. Sections are separated by empty lines.
-/

namespace DomBindings

/-- The type of the attributes that an element does not share with all others. -/
structure AttributesType where
  /-- the name of the element -/
  element : Text
  /-- the name of the type -/
  name : Text
  /-- the host interface of the element -/
  host : Text
  /-- the properties of the type -/
  properties : List Property
deriving DecidableEq, Repr

/-- The function that makes an element. -/
structure Factory where
  /-- the name of the element -/
  element : Text
  /-- the name of the function -/
  identifier : Text
  /-- what is said about the element -/
  description : Text
  /-- where the element is defined -/
  ref : Text
deriving DecidableEq, Repr

/-- The parts of a module. -/
structure Declarations where
  /-- the identifier of the document language -/
  namespaceUri : Text
  /-- the properties that all elements share -/
  shared : List Property
  /-- the types of the elements with attributes of their own -/
  attributesTypes : List AttributesType
  /-- the type of each element's attributes -/
  attributesRows : List (Text × Text)
  /-- the interface of each element -/
  interfaceRows : List (Text × Text)
  /-- the function of each element -/
  factories : List Factory
deriving DecidableEq, Repr

namespace Element

/-- Whether an element has attributes or events in its table. -/
def hasOwn (e : Element) : Bool :=
  !e.interface.isEmpty

end Element

namespace Declarations

/-- The name of the type of the shared attributes. -/
def sharedTypeName : Text :=
  "GlobalAttributes".toList

/-- The parameter of that type: the host interface. -/
def hostParameter : Text :=
  "IFace".toList

/-- The type of the shared attributes for a host interface. -/
def sharedType (host : Text) : Text :=
  sharedTypeName ++ '<' :: host ++ ['>']

/-- The name of the type of an element's own attributes. -/
def ownTypeName (name : Text) : Text :=
  Identifier.sanitize name ++ "Attribs".toList

/-- The type of an element's attributes. -/
def attributesType (name : Text) (e : Element) : Text :=
  if e.hasOwn then ownTypeName name else sharedType e.host

/-! ### The parts -/

/-- The first element whose identifier an earlier one has, if there is one. -/
def findClash (seen : List (Text × Text)) : List Text → Except SchemaError Unit
  | [] => .ok ()
  | name :: rest =>
    let identifier := Identifier.factory name
    match seen.lookup identifier with
    | some first => .error (.identifierClash first name identifier)
    | none => findClash ((identifier, name) :: seen) rest

/-- The types of the elements with attributes of their own. -/
def ownTypes : List (Text × Element) → Except SchemaError (List AttributesType)
  | [] => .ok []
  | (name, e) :: rest =>
    if e.hasOwn then do
      let properties ← e.interface.properties e.host
      let others ← ownTypes rest
      return ⟨name, ownTypeName name, e.host, properties⟩ :: others
    else ownTypes rest

/-- The parts of the module of a vocabulary and of the interface that its elements share. -/
def ofVocabulary (v : Vocabulary) (shared : Interface) : Except SchemaError Declarations := do
  findClash [] v.elements.names
  let properties ← shared.properties hostParameter
  let types ← ownTypes v.elements.entries
  return {
    namespaceUri := v.namespaceUri
    shared := properties
    attributesTypes := types
    attributesRows := v.elements.entries.map fun (name, e) => (name, attributesType name e)
    interfaceRows := v.elements.entries.map fun (name, e) => (name, e.host)
    factories := v.elements.entries.map fun (name, e) =>
      ⟨name, Identifier.factory name, e.description, e.ref⟩ }

/-! ### The text -/

/-- The line that imports what the functions are made with. -/
def importLine : Text :=
  "import \x7b EventHandler, create as domCreate \x7d from ".toList ++ Text.quote "./".toList
    ++ [';']

/-- The line that declares the identifier of the document language. -/
def namespaceLine (uri : Text) : Text :=
  "export const domNamespace = ".toList ++ Text.quote uri ++ [';']

/-- The beginning of the type of the shared attributes. -/
def sharedOpening : Text :=
  "type ".toList ++ sharedTypeName ++ '<' :: hostParameter ++ " extends Element> = ".toList

/-- The lines of the type of an element's own attributes. -/
def attributesTypeLines (t : AttributesType) : List Text :=
  ("/** Attributes for the ".toList ++ t.element ++ " element */".toList) ::
    InterfaceBody.declarationLines
      ("export type ".toList ++ t.name ++ " = ".toList ++ sharedType t.host ++ " & ".toList)
      t.properties

/-- The lines of a type that maps the names of elements to types. -/
def mapLines (name : String) (rows : List (Text × Text)) : List Text :=
  ("export type ".toList ++ name.toList ++ " = \x7b".toList) ::
    rows.map (fun (key, type) =>
      "  ".toList ++ Text.quote key ++ ": ".toList ++ type ++ [';'])
    ++ ["\x7d;".toList]

/-- The line that declares the type of what an element may contain. -/
def childLine : Text :=
  "export type Child = string | Element;".toList

/-- The lines of the function that makes any element. -/
def createLines : List Text :=
  ["export const create = <Name extends keyof ElementInterfaceMap>(",
   "  elemName: Name,",
   "  attribs: ElementAttribsMap[Name],",
   "  ...childs: Child[]",
   "): ElementInterfaceMap[Name] => domCreate(domNamespace, elemName, attribs, ...childs);"].map
    String.toList

/-- The lines of the function that makes an element. -/
def factoryLines (f : Factory) : List Text :=
  let quoted := Text.quote f.element
  DocComment.lines f.description f.ref []
    ++ ["export const ".toList ++ f.identifier ++ " = (attribs: ElementAttribsMap[".toList
          ++ quoted ++ "], ...childs: Child[]) => create(".toList ++ quoted
          ++ ", attribs, ...childs);".toList]

/-- The sections of the module, each a list of lines. -/
def sections (d : Declarations) : List (List Text) :=
  [[importLine], [namespaceLine d.namespaceUri],
   InterfaceBody.declarationLines sharedOpening d.shared]
    ++ d.attributesTypes.map attributesTypeLines
    ++ [mapLines "ElementAttribsMap" d.attributesRows,
        mapLines "ElementInterfaceMap" d.interfaceRows, [childLine], createLines]
    ++ d.factories.map factoryLines

/-- The lines of the module. -/
def lines (d : Declarations) : List Text :=
  List.intercalate [[]] d.sections

end Declarations

/-- The lines of the module of a vocabulary and of the interface that its elements share. -/
def declarationLines (v : Vocabulary) (shared : Interface) : Except SchemaError (List Text) :=
  Declarations.lines <$> Declarations.ofVocabulary v shared

end DomBindings
