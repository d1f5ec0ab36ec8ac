import DomBindings.Declarations.Basic
import DomBindings.Declarations.Preamble

/-!
# The account of a generation

What was generated: how many declarations of each kind, and the file that they were written to.
-/

namespace DomBindings

/-- How many declarations of each kind a module has. -/
structure GenerationCounts where
  /-- the elements, each of which has a function -/
  elements : Int
  /-- the shared attributes -/
  commonAttributes : Int
  /-- the shared events -/
  commonEvents : Int
  /-- the elements with a type of their own -/
  elementTypes : Int
  /-- the elements that use the shared type -/
  trivialElements : Int
deriving DecidableEq, Repr

/-- The counts of a pruned vocabulary and of the interface that its elements share. -/
def GenerationCounts.ofVocabulary (v : Vocabulary) (shared : Interface) : GenerationCounts :=
  let elements : Int := v.elements.size
  let types : Int := v.elements.values.countP Element.hasOwn
  ⟨elements, shared.attributes.size, shared.events.size, types, elements - types⟩

/-- A file that was written. -/
structure WrittenFile where
  /-- its name -/
  filename : Text
  /-- its full path -/
  path : Text
  /-- the number of line feeds in it -/
  lineCount : Int
  /-- the number of bytes in it -/
  byteCount : Int
deriving DecidableEq, Repr

/-- The account of a generation. -/
structure GenerationSummary where
  /-- the name of the file with the vocabulary -/
  source : Text
  /-- the identifier of the document language -/
  namespaceUri : Text
  /-- how many declarations there are -/
  counts : GenerationCounts
  /-- the file that was written -/
  file : WrittenFile
deriving DecidableEq, Repr

namespace GenerationSummary

/-- The account of a module that was written to a file. -/
def of (p : Provenance) (v : Vocabulary) (shared : Interface) (file : WrittenFile) :
    GenerationSummary :=
  ⟨p.source, p.namespaceUri, .ofVocabulary v shared, file⟩

/-- The line of a count under its heading. -/
def countLine (heading : String) (count : Int) : Text :=
  "    ".toList ++ heading.toList.rightpad 20 ' ' ++ (Text.signedNumeral count).leftpad 6 ' '

/-- The text of an account. -/
def render (s : GenerationSummary) : Text :=
  Text.joinLines
    ["DOM bindings generated:".toList,
     [],
     "  Source:     ".toList ++ s.source,
     "  Namespace:  ".toList ++ s.namespaceUri,
     "  Output:     ".toList ++ s.file.path,
     [],
     "  Declarations generated:".toList,
     countLine "Factories:" s.counts.elements,
     countLine "Element types:" s.counts.elementTypes ++ "  (".toList
       ++ Text.signedNumeral s.counts.trivialElements ++ " use global attributes)".toList,
     countLine "Common attributes:" s.counts.commonAttributes,
     countLine "Common events:" s.counts.commonEvents,
     [],
     "  Total: ".toList ++ Text.groupedNumeral s.file.lineCount ++ " lines, ".toList
       ++ Text.groupedNumeral s.file.byteCount ++ " bytes in ".toList ++ s.file.filename,
     []]

end GenerationSummary

end DomBindings
