import DomBindings.Text.Class

/-!
# Tokens

The marks and words that a document consists of. Block structure, which the text shows by
indentation, has tokens of its own, so that the grammar of nodes needs no columns.
-/

namespace DomBindings.Yaml

/-- A directive line before a document. -/
inductive Directive where
  /-- the version of the format -/
  | version (major minor : Nat)
  /-- a handle for tags and what it stands for -/
  | handle (name expansion : Text)
  /-- a directive that means nothing here -/
  | other
deriving DecidableEq, Repr

/-- A token. -/
inductive Token where
  /-- a directive line -/
  | directive (d : Directive)
  /-- the marker that opens a document -/
  | documentStart
  /-- the marker that closes a document -/
  | documentEnd
  /-- the end of the text -/
  | streamEnd
  /-- a sequence begins, shown by indentation -/
  | blockSequenceStart
  /-- a mapping begins, shown by indentation -/
  | blockMappingStart
  /-- a sequence or mapping ends, shown by indentation -/
  | blockEnd
  /-- an opening bracket -/
  | flowSequenceStart
  /-- a closing bracket -/
  | flowSequenceEnd
  /-- an opening brace -/
  | flowMappingStart
  /-- a closing brace -/
  | flowMappingEnd
  /-- the hyphen of an entry -/
  | blockEntry
  /-- the comma between entries -/
  | flowEntry
  /-- a key follows -/
  | key
  /-- a value follows -/
  | value
  /-- the use of a name -/
  | alias (name : Text)
  /-- the naming of a node -/
  | anchor (name : Text)
  /-- a tag: a handle, which a tag in full has none of, and what follows it -/
  | tag (handle : Option Text) (suffix : Text)
  /-- a scalar, and whether it is written plainly, without quotes or indicators -/
  | scalar (content : Text) (plain : Bool)
deriving DecidableEq, Repr

end DomBindings.Yaml
