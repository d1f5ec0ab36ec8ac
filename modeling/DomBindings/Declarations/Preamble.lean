import DomBindings.Text.Layout
import DomBindings.Vocabulary.Basic

/-!
# The preamble of a module

The comment at the head of a generated module, which says where it comes from, and the text of the
module as a whole.
-/

namespace DomBindings

/-- Where a module comes from. -/
structure Provenance where
  /-- the name of the file with the vocabulary -/
  source : Text
  /-- the identifier of the document language -/
  namespaceUri : Text
  /-- the standard that the vocabulary was taken from -/
  version : Version
deriving DecidableEq, Repr

namespace Provenance

/-- The provenance of a module that is made from a vocabulary in a file. -/
def ofVocabulary (source : Text) (v : Vocabulary) : Provenance :=
  ⟨source, v.namespaceUri, v.version⟩

/-- The line above and below the comment. -/
def border : Text :=
  "// x-------------------------------------------x //".toList

/-- The standard as the comment names it: its reference, and its date in parentheses. -/
def standard (version : Version) : Text :=
  if version.pubdate.isEmpty then version.ref
  else Text.trim (version.ref ++ " (".toList ++ version.pubdate ++ [')'])

/-- The lines of the comment, if the file has a name. The standard is left out where nothing is
known of it. -/
def preamble? (p : Provenance) : Option (List Text) :=
  if p.source.isEmpty then none
  else
    some ([border, "// | DOM element bindings for TypeScript".toList,
        "// | Generated by domgen".toList, "// | Source: ".toList ++ p.source]
      ++ (if p.version.ref.isEmpty && p.version.pubdate.isEmpty then []
          else ["// | Standard: ".toList ++ standard p.version])
      ++ ["// | Namespace: ".toList ++ p.namespaceUri, border])

/-- The wording where the file has no name. -/
def noSourceMessage : Text :=
  "spec_source must not be empty".toList

/-- The text of a module: the comment, an empty line and the declarations, if there are any. -/
def assemble? (p : Provenance) (declarations : List Text) : Option Text :=
  p.preamble?.map fun preamble =>
    Text.joinLines
      (preamble ++ (if declarations.isEmpty then [] else [] :: declarations)) ++ ['\n']

end Provenance

end DomBindings
